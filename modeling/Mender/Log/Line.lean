import Mender.Log.Message
import Mender.Log.Moment

/-!
# Log lines

A line of the log tells when, how grave, by whom and what (`Record.text`). On a console
the lines of the named levels are coloured. An entry whose message or whose moment has no
text has no line; the message is looked at first.
-/

namespace Mender.Log

/-- An entry of the log. -/
structure Record where
  /-- The name of the logger. -/
  logger : String
  level : Int
  /-- The line of the program that made the entry. -/
  line : Int
  pattern : String
  values : List Json
  /-- The seconds from the start of 1970. -/
  created : Int

/-- The name and the colour of a level that has one. -/
def namedLevels : List (Int × String × String) :=
  [(10, "DEBUG", "\x1b[36m"), (20, "INFO", "\x1b[32m"), (30, "WARNING", "\x1b[33m"),
   (40, "ERROR", "\x1b[31m"), (50, "CRITICAL", "\x1b[31;1m")]

/-- The name of a level. -/
def levelName (level : Int) : String :=
  match namedLevels.lookup level with
  | some (name, _) => name
  | none => if level = 0 then "NOTSET" else "Level " ++ toString level

/-- The end of a colour. -/
def colourReset : String := "\x1b[0m"

/-- A line in the colour of its level. -/
def coloured (level : Int) (line : String) : String :=
  match namedLevels.lookup level with
  | some (_, colour) => colour ++ line ++ colourReset
  | none => line

/-- A text behind which blanks make it eight characters wide. -/
def padded (s : String) : String := s ++ String.ofList (List.replicate (8 - s.length) ' ')

/-- Why an entry has no line. -/
inductive LineError
  | message (why : FillError)
  | moment (why : MomentError)
  deriving DecidableEq, Repr

/-- The text of an error. -/
def LineError.text : LineError → String
  | message why => why.message
  | moment why => why.message

/-- The line of an entry, without colour. -/
def Record.plainText (r : Record) : Except LineError String := do
  let message ← (fill r.pattern.toList r.values).mapError .message
  let moment ← (momentText r.created).mapError .moment
  return moment ++ " | " ++ padded (levelName r.level) ++ " | " ++ r.logger ++ ":"
    ++ toString r.line ++ " - " ++ String.ofList message

/-- The line of an entry on a console. -/
def Record.text (r : Record) : Except LineError String := r.plainText.map (coloured r.level)

end Mender.Log
