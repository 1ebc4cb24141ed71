import Mender.Diagnostic
import Mender.Repair.Duplicate
import Mender.Repair.Entity
import Mender.Repair.ExplicitAny
import Mender.Repair.HeadElement
import Mender.Repair.UnusedImport

/-!
# Repair rules

The repairs that need no model. A `Rule` changes the content of a file for one
diagnostic (`Rule.apply`), and is chosen by the diagnostic alone (`Rule.of?`): by
the lint rule that reported it, or by its message, as a type checker names no rule.
-/

namespace Mender.Repair

/-- The rules. -/
inductive Rule
  | unusedImport
  | explicitAny
  | unescapedEntity
  | headElement
  | duplicateReactImport
  | duplicateDefaultExport
  deriving DecidableEq, Repr

namespace Rule

/-- The names of the rules in reports. -/
def names : List (String × Rule) :=
  [("unused_import", unusedImport), ("explicit_any", explicitAny),
   ("unescaped_entity", unescapedEntity), ("head_element", headElement),
   ("duplicate_react_import", duplicateReactImport),
   ("duplicate_default_export", duplicateDefaultExport)]

/-- The name of a rule in reports. -/
def name : Rule → String
  | unusedImport => "unused_import"
  | explicitAny => "explicit_any"
  | unescapedEntity => "unescaped_entity"
  | headElement => "head_element"
  | duplicateReactImport => "duplicate_react_import"
  | duplicateDefaultExport => "duplicate_default_export"

/-- The rule with the given name. -/
def ofName? (s : String) : Option Rule := names.lookup s

/-- The lint rules with a repair. -/
def lintRules : List (String × Rule) :=
  [("@typescript-eslint/no-unused-vars", unusedImport), ("no-unused-vars", unusedImport),
   ("@typescript-eslint/no-explicit-any", explicitAny),
   ("react/no-unescaped-entities", unescapedEntity),
   ("@next/next/no-head-element", headElement)]

/-- The rule for a message. -/
def ofMessage? (message : List Char) : Option Rule :=
  let has (w : String) : Bool := Text.occurs w.toList message
  if has "Duplicate identifier 'React'" then some duplicateReactImport
  else if (has "Duplicate identifier" && has "export") || has "multiple default exports" then
    some duplicateDefaultExport
  else none

/-- The rule for a diagnostic: the one for its lint rule, if there is one. -/
def of? (d : Diagnostic) : Option Rule :=
  match d.ruleId.bind (lintRules.lookup ·) with
  | some r => some r
  | none => ofMessage? d.message.toList

/-- The content that a rule makes of the content `s` for a problem on a line. -/
def revise (line : Int) (message s : List Char) : Rule → List Char
  | unusedImport => UnusedImport.repair line message s
  | explicitAny => ExplicitAny.repair line s
  | unescapedEntity => Entity.repair line message s
  | headElement => HeadElement.repair s
  | duplicateReactImport => Duplicate.mergeImports s
  | duplicateDefaultExport => Duplicate.keepLastExport s

/-- The content that a rule makes of a file for a diagnostic. -/
def apply (r : Rule) (d : Diagnostic) (content : String) : String :=
  String.ofList (r.revise d.line d.message.toList content.toList)

end Rule

end Mender.Repair
