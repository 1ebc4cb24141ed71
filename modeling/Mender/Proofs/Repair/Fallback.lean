import Mender.Assistant.Wire
import Mender.Proofs.Repair.Strategy

/-!
# A model that fails

A selector with a model decides by the text that the model answers, word for word, and by
the rules where there is no such text. It then comes to what a selector without a model
comes to, and says why the model failed if the rules change nothing either
(`Outcome.FallsBack`, `Selector.select_enabled`). Which replies the provider has sent makes no
difference to this, as a failure always has something to say.
-/

namespace Mender.Repair

open Assistant Text

variable {d : Diagnostic} {content note : String}

namespace Outcome

/-- The outcome is the given one of the rules; where that changes nothing, the failure of the
    model is the reason. -/
structure FallsBack (o byRules : Outcome) : Prop where
  content : o.content = byRules.content
  changed : o.changed = byRules.changed
  strategy : o.strategy = byRules.strategy
  rule : o.rule = byRules.rule
  noted : o.changed = false → o.reason = Reason.generationFailed.name ∧ o.detail ≠ ""

theorem fallsBack_noting (hnote : note ≠ "") (o : Outcome) : (o.noting note).FallsBack o := by
  rw [noting]
  split
  · next h =>
    have hchanged : o.changed = true := by simpa [hnote] using h
    exact ⟨rfl, rfl, rfl, rfl, by simp [hchanged]⟩
  · exact ⟨rfl, rfl, rfl, rfl, fun _ => ⟨rfl, hnote⟩⟩

/-- An outcome with a change needs no reason. -/
def Plain (o : Outcome) : Prop := o.changed = true → o.reason = ""

theorem plain_ofContent (strategy : String) (rule : Option Rule) (content : String) (new : Loose) :
    (ofContent strategy rule content new).Plain := by
  intro h
  simp only [ofContent] at h ⊢
  rw [if_pos h]

/-- The outcome of the rules is plain. -/
theorem plain_ofRules (d : Diagnostic) (content : String) : (ofRules d content).Plain := by
  rw [ofRules]
  split
  · intro h
    simp at h
  · exact plain_ofContent _ _ _ _

/-- What has changed is not noted as a failure. -/
theorem Plain.noting {o : Outcome} (h : o.Plain) (note : String) : (o.noting note).Plain := by
  rw [Outcome.noting]
  split
  · exact h
  · next hnoted =>
    intro hchanged
    simp only at hchanged
    simp [hchanged] at hnoted

/-- The outcome after an answer is plain. -/
theorem plain_ofAnswer (answer : Except GenerateError (Option Loose)) (d : Diagnostic)
    (content : String) : (ofAnswer answer d content).Plain := by
  rcases ofAnswer_cases answer d content with ⟨note, h⟩ | ⟨new, -, h⟩
  · exact h ▸ (plain_ofRules d content).noting note
  · exact h ▸ plain_ofContent _ _ _ _

/-- An answer that is not blank is the outcome. -/
theorem ofAnswer_of_not_blank {text : Loose} (h : text.isBlank = false) :
    ofAnswer (.ok (some text)) d content = ofContent byModel none content text := by
  simp [ofAnswer, Loose.isEmpty_of_not_blank h]

end Outcome

namespace Selector

variable {c : Client}

/-- A selector with a model decides by what that answers. -/
theorem select_of_enabled (hc : c.isEnabled = true) (d : Diagnostic) (content : String) :
    ((standard (some c) true).select d content).1 =
      .ofAnswer ((c.generate (prompt d content)).1.map some) d content := by
  have hmodel : (standard (some c) true).model? = some c := by
    simp [model?, Option.filter, hc]
  simp only [select, hmodel]

/-- Without a model the rules decide. -/
theorem select_none (useModel : Bool) (d : Diagnostic) (content : String) :
    ((standard none useModel).select d content).1 = .ofRules d content := by
  cases useModel <;> rfl

/-- Whatever is replied to a model that is in use, the outcome says truly whether the content
    changed, and needs no reason if it did. A text that the model answers is the content, word for
    word; where the model fails, the outcome falls back to that of a selector without a model.
    The provider must not be called out of reach without a word, which no response and no failure
    of a transport does. -/
theorem select_enabled (hc : c.isEnabled = true)
    (hreplies : ∀ i, c.replies.answer i ≠ .unavailable "") (d : Diagnostic) (content : String) :
    let o := ((standard (some c) true).select d content).1
    let answer := (c.generate (prompt d content)).1
    (o.changed = true ↔ o.content ≠ .whole content) ∧
    (o.changed = true → o.reason = "") ∧
    (∀ text, answer = .ok text →
      o.content = text ∧ o.strategy = byModel ∧ o.rule = none ∧ o.detail = "" ∧
      (text = .whole content → o.reason = Reason.noChange.name)) ∧
    ∀ e, answer = .error e → o.FallsBack ((standard none true).select d content).1 := by
  intro o answer
  have ho : o = .ofAnswer (answer.map some) d content := select_of_enabled hc d content
  refine ⟨?_, ?_, fun text htext => ?_, fun e he => ?_⟩
  · rw [ho]
    exact (Outcome.consistent_ofAnswer _ d content).changed_iff
  · rw [ho]
    exact Outcome.plain_ofAnswer _ d content
  · obtain ⟨i, status, body, -, -, hblank⟩ := Client.content_of_generate htext
    have hofContent : o = .ofContent byModel none content text := by
      rw [ho, htext]
      exact Outcome.ofAnswer_of_not_blank hblank
    rw [hofContent]
    refine ⟨rfl, rfl, rfl, rfl, fun hsame => ?_⟩
    simp [Outcome.ofContent, hsame]
  · have hnote := Client.note_of_generate hreplies he
    rw [ho, he, select_none]
    exact Outcome.fallsBack_noting hnote _

/-- A provider that is busy, and out of reach the second time. -/
def busyClient : Client :=
  .new (.standard 975) (some ⟨"prov", "sk", "https://llm.test/v1", "m"⟩)
    ⟨2, .whole 1, .int 0, .int 1⟩ (.ofList .timeout [.response 503 [], .lost "ConnectError" ""])

theorem replies_busyClient (i : Nat) : busyClient.replies.answer i ≠ .unavailable "" := by
  rcases i with _ | _ | i <;> simp [busyClient, Client.new, Script.ofList]

/-- A finding of the linter that no rule is for. -/
def missingSemicolon : Diagnostic :=
  ⟨"a.ts", 1, 1, "Missing semicolon.", some "semi", .error, .lint⟩

/-- The two failures leave the diagnostic to the rules. -/
theorem select_enabled_busy :
    busyClient.isEnabled = true ∧ (∀ i, busyClient.replies.answer i ≠ .unavailable "") ∧
      ∃ e, (busyClient.generate (prompt missingSemicolon "let x = 1")).1 = .error e ∧
        ((standard (some busyClient) true).select missingSemicolon "let x = 1").1.FallsBack
          ((standard none true).select missingSemicolon "let x = 1").1 := by
  have hfails : (busyClient.generate (prompt missingSemicolon "let x = 1")).1 =
      .error (.unavailable ("prov" ++ " failed after " ++ toString busyClient.attempts
        ++ " attempts: " ++ "ConnectError")) := rfl
  exact ⟨rfl, replies_busyClient, _, hfails,
    (select_enabled rfl replies_busyClient missingSemicolon "let x = 1").2.2.2 _ hfails⟩

end Selector

end Mender.Repair
