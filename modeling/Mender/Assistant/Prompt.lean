import Mender.Assistant.Snippet
import Mender.Diagnostic

/-!
# Prompts

The question put to a model: the rules of the repair, the diagnostic, the lines
around its place and the whole file.
-/

namespace Mender.Assistant

open Text

/-- The rules that every repair by a model has to follow. -/
def houseRules : String :=
  "You are an expert TypeScript and React developer repairing a component that "
    ++ "was generated from a legacy JSP page and now fails the Next.js build.\n"
    ++ "\n"
    ++ "HARD RULES — you MUST follow ALL of these:\n"
    ++ "1. Fix ONLY the reported compilation or lint error.\n"
    ++ "2. Keep the component's behaviour and markup unchanged.\n"
    ++ "3. Follow TypeScript and React best practices.\n"
    ++ "4. Keep the existing formatting and comments.\n"
    ++ "5. Return the COMPLETE repaired file content and nothing else.\n"
    ++ "6. Do NOT add explanations or markdown code fences."

/-- The number of lines that a prompt shows on either side of a problem. -/
def promptContext : Int := 3

/-- The parts of the prompt for a diagnostic in a file. -/
def promptParts (d : Diagnostic) (content : String) : List String :=
  let place :=
    "ERROR:\nFile: " ++ d.file ++ "\nLocation: line " ++ toString d.line ++ ", column "
      ++ toString d.column ++ "\nMessage: " ++ d.message
  let rule :=
    match d.ruleId with
    | none | some "" => []
    | some id => ["RULE: " ++ id]
  [houseRules, place] ++ rule ++
    ["ERROR CONTEXT:\n" ++ String.ofList (snippet content.toList d.line promptContext),
     "FULL FILE CONTENT:\n\x60\x60\x60typescript\n" ++ content ++ "\n\x60\x60\x60",
     "Repaired complete file content:"]

/-- The prompt for a diagnostic in a file: its parts with a blank line between two
    of them. -/
def prompt (d : Diagnostic) (content : String) : String :=
  "\n\n".intercalate (promptParts d content)

end Mender.Assistant
