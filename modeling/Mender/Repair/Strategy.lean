import Mender.Assistant.Client
import Mender.Assistant.Prompt
import Mender.Repair.Outcome

/-!
# Strategies

A repair by the model is preferred; where the model fails or has nothing to say, the
rules are asked (`Outcome.ofAnswer`), and the failure is noted if they change nothing
either.
-/

namespace Mender.Repair

namespace Outcome

/-- The outcome with a failure of the model noted, if nothing changed. -/
def noting (note : String) (o : Outcome) : Outcome :=
  if o.changed || note == "" then o
  else { o with reason := Reason.generationFailed.name, detail := note }

/-- The outcome of what a model answered. -/
def ofAnswer (answer : Except Assistant.GenerateError (Option Text.Loose)) (d : Diagnostic)
    (content : String) : Outcome :=
  match answer with
  | .error e => (ofRules d content).noting e.note
  | .ok none => (ofRules d content).noting "empty response"
  | .ok (some new) =>
    if new.isEmpty then (ofRules d content).noting "empty response"
    else ofContent byModel none content new

end Outcome

/-- Who decides on a repair. -/
inductive Selector
  /-- Decisions given beforehand. -/
  | given (decisions : Script (Diagnostic → String → Outcome))
  /-- A model, if there is one and it is to be used, and the rules. -/
  | standard (client : Option Assistant.Client) (useModel : Bool)

namespace Selector

/-- The client that answers, if the model is to be used. -/
def model? : Selector → Option Assistant.Client
  | given _ => none
  | standard client useModel => if useModel then client.filter (·.isEnabled) else none

/-- The outcome for a diagnostic of a file, and the selector afterwards. -/
def select (s : Selector) (d : Diagnostic) (content : String) : Outcome × Selector :=
  match s with
  | given decisions =>
    let (decide, decisions) := decisions.take
    (decide d content, given decisions)
  | standard client useModel =>
    match (standard client useModel).model? with
    | none => (.ofRules d content, standard client useModel)
    | some c =>
      let (answer, c) := c.generate (Assistant.prompt d content)
      (.ofAnswer (answer.map some) d content, standard (some c) useModel)

end Selector

end Mender.Repair
