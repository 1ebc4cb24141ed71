import Mender.FileTree
import Mender.Log.Value

/-!
# Setting up the log

The log goes to the console and, if a directory is named, to a file in it that gathers
the lines of a day (`Logging.setUp`). Setting up again replaces the outputs and adds to
the files of before. The first line of every set-up tells what was set up, if the level
lets it through.

Levels and directories are given as values of any kind (`levelOf`, `directoryOf`); those
that make no sense are refused (`SetupError`).
-/

namespace Mender.Log

/-- Where lines go. -/
inductive Output
  | console
  | file (path : String)
  deriving DecidableEq, Repr

/-- The log and the files it filled. -/
structure Logging where
  /-- The least level of a line that is let through. -/
  level : Int
  outputs : List Output
  /-- The messages in every file. -/
  files : List (String × List String)
  deriving Repr

/-- The level of an information. -/
def infoLevel : Int := 20

/-- The levels that can be given by name. -/
def levelsByName : List (String × Int) :=
  [("CRITICAL", 50), ("FATAL", 50), ("ERROR", 40), ("WARN", 30), ("WARNING", 30), ("INFO", 20),
   ("DEBUG", 10), ("NOTSET", 0)]

/-- Why the log is not set up. -/
inductive SetupError
  /-- No level has this name. -/
  | unknownLevel (name : String)
  /-- A value that cannot be a level. -/
  | notLevel (v : Json)
  /-- A value of a kind that cannot be a path. -/
  | notPath (kind : String)
  /-- The directory cannot be made. -/
  | directory (why : IoError)

/-- The text of an error. -/
def SetupError.message : SetupError → String
  | unknownLevel name => "Unknown level: " ++ String.ofList (Text.quoted name.toList)
  | notLevel v => "Level not an integer or a valid string: " ++ String.ofList (innerText v)
  | notPath kind => "expected str, bytes or os.PathLike object, not " ++ kind
  | directory why => why.message

/-- The level that a value gives, by number or by name. -/
def levelOf : Json → Except SetupError Int
  | .int n => .ok n
  | .bool b => .ok (if b then 1 else 0)
  | .str (.whole name) =>
    match levelsByName.lookup name with
    | some level => .ok level
    | none => .error (.unknownLevel name)
  | v => .error (.notLevel v)

/-- The greatest number of bytes in a name. -/
def maxNameSize : Nat := 255

/-- The first directory on a way that cannot be made, as its name is too long. -/
def overlong? (directory : String) : Option IoError :=
  let names := Text.fields '/' directory.toList
  (names.findIdx? fun n => maxNameSize < (Text.Utf8.encode n).length).map fun i =>
    .at .nameTooLong (String.ofList (Text.joined ['/'] (names.take (i + 1))))

/-- The directory that a value names; one that stands for nothing names none. -/
def directoryOf : Json → Except SetupError (Option String)
  | .null | .bool false | .int 0 | .arr [] | .obj [] => .ok none
  | .str s =>
    match s.whole? with
    | none => .error (.notPath "str")
    | some "" => .ok none
    | some d =>
      match overlong? d with
      | some why => .error (.directory why)
      | none => .ok (some d)
  | .real d => if d.isZero then .ok none else .error (.notPath (Json.real d).kindName)
  | v => .error (.notPath v.kindName)

/-- The log before any set-up. -/
def Logging.initial : Logging := ⟨30, [], []⟩

/-- The path of the file for a day in a directory, seen from the working directory. -/
def logFile (home : AbsolutePath) (directory day : String) : String :=
  (home.join (directory ++ "/build_fixer_" ++ day ++ ".log")).text

/-- The files with a message added to one of them, which may be new. -/
def addMessage (path : String) (messages : List String) :
    List (String × List String) → List (String × List String)
  | [] => [(path, messages)]
  | (p, ms) :: fs =>
    if p = path then (p, ms ++ messages) :: fs else (p, ms) :: addMessage path messages fs

/-- The log set up with a level and a directory, or none for no file. -/
def Logging.setUp (home : AbsolutePath) (day : String) (level : Int) (directory : Option String)
    (l : Logging) : Logging :=
  match directory with
  | none => ⟨level, [.console], l.files⟩
  | some d =>
    let path := logFile home d day
    let messages :=
      if level ≤ infoLevel then ["Logging initialized (console + file)."] else []
    ⟨level, [.console, .file path], addMessage path messages l.files⟩

/-- The files in the order of their paths. -/
def Logging.sortedFiles (l : Logging) : List (String × List String) :=
  l.files.mergeSort fun a b => a.1 ≤ b.1

end Mender.Log
