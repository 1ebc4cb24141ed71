import Mender.Proofs.Assistant.Client
import Mender.Proofs.Repair.Round
import Mender.Repair.Strategy

/-!
# What selectors decide

A selector that asks the rules, and a model before them, is consistent: an outcome says that
the content changed exactly if it did, and gives one of the known reasons if not
(`Outcome.Consistent`). The content may be one that no file can have only if a model
answered with such a content (`Selector.Textual`).
-/

namespace Mender.Repair

open Assistant Text

namespace Outcome

/-- The outcome says what it is for the content of a file. -/
structure Consistent (o : Outcome) (content : String) : Prop where
  changed_iff : o.changed = true ↔ o.content ≠ .whole content
  reason : o.changed = false → ∃ r : Reason, o.reason = r.name

theorem consistent_ofContent (strategy : String) (rule : Option Rule) (content : String)
    (new : Loose) : (ofContent strategy rule content new).Consistent content := by
  refine ⟨by simp [ofContent], fun h => ⟨.noChange, ?_⟩⟩
  simp only [ofContent] at h ⊢
  simp [h]

/-- The outcome of the rules is consistent. -/
theorem consistent_ofRules (d : Diagnostic) (content : String) :
    (ofRules d content).Consistent content := by
  rw [ofRules]
  split
  · exact ⟨by simp, fun _ => ⟨.noMatchingRule, rfl⟩⟩
  · exact consistent_ofContent _ _ _ _

theorem Consistent.noting {o : Outcome} {content : String} (h : o.Consistent content)
    (note : String) : (o.noting note).Consistent content := by
  rw [Outcome.noting]
  split
  · exact h
  · exact ⟨h.changed_iff, fun _ => ⟨.generationFailed, rfl⟩⟩

/-- The rules decide, and the failure of the model is noted, or the content is what the model
    answered. -/
theorem ofAnswer_cases (answer : Except GenerateError (Option Loose)) (d : Diagnostic)
    (content : String) :
    (∃ note, ofAnswer answer d content = (ofRules d content).noting note) ∨
      ∃ new, answer = .ok (some new) ∧
        ofAnswer answer d content = ofContent byModel none content new := by
  rcases answer with e | _ | new
  · exact .inl ⟨_, rfl⟩
  · exact .inl ⟨_, rfl⟩
  · simp only [ofAnswer]
    split
    · exact .inl ⟨_, rfl⟩
    · exact .inr ⟨new, rfl, rfl⟩

/-- The outcome after an answer is consistent. -/
theorem consistent_ofAnswer (answer : Except GenerateError (Option Loose)) (d : Diagnostic)
    (content : String) : (ofAnswer answer d content).Consistent content := by
  rcases ofAnswer_cases answer d content with ⟨note, h⟩ | ⟨new, -, h⟩
  · exact h ▸ (consistent_ofRules d content).noting note
  · exact h ▸ consistent_ofContent _ _ _ _

theorem content_noting (o : Outcome) (note : String) : (o.noting note).content = o.content := by
  rw [noting]
  split <;> rfl

/-- The content after an answer is that of the answer or made by the rules. -/
theorem content_ofAnswer (answer : Except GenerateError (Option Loose)) (d : Diagnostic)
    (content : String) :
    answer = .ok (some (ofAnswer answer d content).content) ∨
      ∃ s, (ofAnswer answer d content).content = .whole s := by
  rcases ofAnswer_cases answer d content with ⟨note, h⟩ | ⟨new, hanswer, h⟩
  · rw [h, content_noting]
    exact .inr ⟨_, content_ofRules d content⟩
  · rw [h]
    exact .inl hanswer

end Outcome

namespace Selector

/-- No decision holds a content that no file can have: those given beforehand are texts, and
    so is every content that a model replies with. -/
def Textual : Selector → Prop
  | given decisions => ∀ i d content, ∃ s, (decisions.answer i d content).content = .whole s
  | standard client _ => ∀ c, client = some c → ∀ i status body text,
      c.replies.answer i = .response status body →
      contentOf c.wire.depth body = .ok (.str text) → ∃ s, text = .whole s

/-- A selector that asks the rules, and a model before them, is consistent, and stays such a
    selector. -/
theorem select_standard (client : Option Client) (useModel : Bool) (d : Diagnostic)
    (content : String) :
    ((standard client useModel).select d content).1.Consistent content ∧
      ∃ client', ((standard client useModel).select d content).2 = standard client' useModel := by
  simp only [select]
  split
  · exact ⟨Outcome.consistent_ofRules d content, _, rfl⟩
  · exact ⟨Outcome.consistent_ofAnswer _ d content, _, rfl⟩

/-- A textual selector decides on a text, and stays textual. -/
theorem Textual.select {s : Selector} (h : s.Textual) (d : Diagnostic) (content : String) :
    (∃ t, (s.select d content).1.content = .whole t) ∧ (s.select d content).2.Textual := by
  cases s with
  | given decisions => exact ⟨h _ d content, h⟩
  | standard client useModel =>
    simp only [Selector.select]
    split
    · exact ⟨⟨_, Outcome.content_ofRules d content⟩, h⟩
    · next c hc =>
      have hclient : client = some c := by
        cases client <;> simp_all [model?, Option.filter]
      have hgoesOn := Client.goesOn_generate c (prompt d content)
      constructor
      · rcases Outcome.content_ofAnswer ((c.generate (prompt d content)).1.map some) d content
          with ha | ha
        · cases hg : (c.generate (prompt d content)).1 with
          | error e => simp [hg, Except.map] at ha
          | ok text =>
            obtain ⟨i, status, body, hi, hb, -⟩ := Client.content_of_generate hg
            obtain ⟨t, ht⟩ := h c hclient i status body text hi hb
            rw [hg, ht] at ha
            exact ⟨t, by simpa [Except.map, ht] using ha.symm⟩
        · exact ha
      · rintro c' ⟨⟩ i status body text hi hb
        rw [hgoesOn.answer] at hi
        rw [hgoesOn.wire] at hb
        exact h c hclient i status body text hi hb

end Selector

end Mender.Repair
