import Mender.Repair.Reason
import Mender.Repair.Rule

/-!
# Outcomes

What comes of the attempt to repair one diagnostic (`Outcome`): the content the
file should have, and how it was made or why it was not. The rules alone give
`Outcome.ofRules`.
-/

namespace Mender.Repair

open Text (Loose)

/-- What comes of the attempt to repair one diagnostic. -/
structure Outcome where
  /-- The content the file should have. That of a model may be one that no file can have. -/
  content : Loose
  /-- The content differs from that of the file. -/
  changed : Bool
  /-- How the content was made. -/
  strategy : String
  /-- The rule that made it. -/
  rule : Option Rule
  /-- The name of the reason for which nothing changed; empty if something did. -/
  reason : String
  detail : String
  deriving DecidableEq, Repr

/-- The strategy of a repair by a model. -/
def byModel : String := "generative"

/-- The strategy of a repair by a rule. -/
def byRule : String := "rule"

namespace Outcome

/-- The outcome that replaces `content` by `new`. -/
def ofContent (strategy : String) (rule : Option Rule) (content : String) (new : Loose) :
    Outcome :=
  let changed := new != .whole content
  ⟨new, changed, strategy, rule, if changed then "" else Reason.noChange.name, ""⟩

/-- The outcome of the rule for a diagnostic. -/
def ofRules (d : Diagnostic) (content : String) : Outcome :=
  match Rule.of? d with
  | none => ⟨content, false, byRule, none, Reason.noMatchingRule.name, ""⟩
  | some r => ofContent byRule (some r) content (r.apply d content)

/-- The outcome in JSON, as a list of members. -/
def members (o : Outcome) : List (Loose × Json) :=
  [("content", .str o.content), ("changed", .bool o.changed), ("strategy", .str o.strategy),
   ("rule", .ofText? (o.rule.map Rule.name)), ("reason", .str o.reason),
   ("detail", .str o.detail)]

end Outcome

end Mender.Repair
