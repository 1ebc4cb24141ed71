import Mender.Assistant.Answer
import Mender.Proofs.Assistant.Client

/-!
# What an answer means to a call

A request is met with an answer that ends the call (`Answer.Ends`), or with one after which the
request is sent again (`Answer.Passes`). Both are told here by what was answered: the content that
a good answer delivers, the class of a failure. Every answer is of one kind (`Answer.ends_iff`,
`Answer.passes_iff`).
-/

namespace Mender.Assistant

open Text

variable {depth : Nat} {r : Request} {a : Answer} {res : Except GenerateError Loose} {text : String}

namespace Answer

/-- What an answer to the request leads to, if it is a good one. No answer is taken from an address
    without scheme and host. -/
def delivered? (depth : Nat) (r : Request) : Answer → Option (Except Misfit Json)
  | response status body =>
    if r.isAbsolute && isSuccess status then some (contentOf depth body) else none
  | failure _ => none

/-- The content is nothing at all, or a text of blanks only. -/
def IsBlankContent (v : Json) : Prop := isEmptyContent v = true ∨ ∃ s, v = .str s ∧ s.isBlank = true

/-- The answer delivers a content that is neither a text nor empty, or goes too deep to be read. -/
inductive IsStray (depth : Nat) (r : Request) (a : Answer) : GenerateError → Prop
  | content {v : Json} : a.delivered? depth r = some (.ok v) → isEmptyContent v = false →
      (∀ s, v ≠ .str s) → IsStray depth r a
        (.broken "AttributeError" ("'" ++ v.kindName ++ "' object has no attribute 'strip'"))
  | depth {why : Misfit} : a.delivered? depth r = some (.error why) → why.isTooDeep = true →
      IsStray depth r a (.broken "RecursionError" why.message)

/-- The answer ends the call: with its content, or with a failure that will not pass. -/
inductive Ends (depth : Nat) (r : Request) : Answer → Except GenerateError Loose → Prop
  | content {a : Answer} {text : Loose} : a.delivered? depth r = some (.ok (.str text)) →
      text.isBlank = false → Ends depth r a (.ok text)
  | stray {a : Answer} {e : GenerateError} : a.IsStray depth r e → Ends depth r a (.error e)
  | failure {f : Failure} : f.isTimeout = false → f.isRefusal = false → f.isPassing = false →
      Ends depth r (.failure f) (.error f.error)

/-- The request is sent again after the answer, and the reason is kept. -/
inductive Passes (depth : Nat) (r : Request) : Answer → String → Prop
  | empty {a : Answer} {v : Json} : a.delivered? depth r = some (.ok v) → IsBlankContent v →
      Passes depth r a "empty response"
  | malformed {a : Answer} {why : Misfit} : a.delivered? depth r = some (.error why) →
      why.isTooDeep = false → Passes depth r a why.message
  | status {status : Int} {body : Bytes} : r.isAbsolute = true → isSuccess status = false →
      Passes depth r (.response status body) ("HTTP " ++ toString status)
  | nowhere {status : Int} {body : Bytes} : r.isAbsolute = false →
      Passes depth r (.response status body)
        ("unknown url type: " ++ String.ofList (quoted r.url.toList))
  | timeout {f : Failure} : f.isTimeout = true → Passes depth r (.failure f) "timeout"
  | refusal {f : Failure} : f.isTimeout = false → f.isRefusal = true →
      Passes depth r (.failure f) ("HTTP " ++ toString f.status)
  | failure {f : Failure} : f.isTimeout = false → f.isRefusal = false → f.isPassing = true →
      Passes depth r (.failure f) (if f.text = "" then f.kind else f.text)

/-- The attempt in which the request is met with the answer. -/
def attempt (depth : Nat) (r : Request) (a : Answer) : Attempt := .ofReply depth r a.reply

/-! ## Contents -/

theorem ofContent_of_blank {v : Json} (h : IsBlankContent v) :
    Attempt.ofContent v = .setback .emptyAnswer := by
  rw [Attempt.ofContent.eq_def]
  rcases h with hempty | ⟨s, rfl, hblank⟩
  · rw [if_pos hempty]
  · simp [hblank]

theorem ofContent_of_text {s : Loose} (h : s.isBlank = false) :
    Attempt.ofContent (.str s) = .answered s := by
  simp [Attempt.ofContent, isEmptyContent, Loose.isEmpty_of_not_blank h, h]

theorem ofContent_of_other {v : Json} (hempty : isEmptyContent v = false) (hv : ∀ s, v ≠ .str s) :
    Attempt.ofContent v = .failed (.broken "AttributeError"
      ("'" ++ v.kindName ++ "' object has no attribute 'strip'")) := by
  cases v with
  | str s => exact absurd rfl (hv s)
  | null | bool | int | real | arr | obj => simp [Attempt.ofContent, hempty]

/-- What an attempt comes to in which a good answer leads to the given. -/
def ofDelivered : Except Misfit Json → Attempt
  | .ok v => .ofContent v
  | .error why =>
    if why.isTooDeep then .failed (.broken "RecursionError" why.message)
    else .setback (.misfit why)

theorem attempt_of_delivered {d : Except Misfit Json} (h : a.delivered? depth r = some d) :
    a.attempt depth r = ofDelivered d := by
  cases a with
  | failure f => simp [delivered?] at h
  | response status body =>
    rw [delivered?] at h
    split at h
    next hgood =>
      obtain rfl := Option.some.inj h
      rw [Bool.and_eq_true] at hgood
      simp only [attempt, reply, Attempt.ofReply, hgood.1, hgood.2]
      cases contentOf depth body <;> rfl
    · simp at h

/-! ## Each answer is of one kind -/

theorem Ends.result? (h : a.Ends depth r res) : (a.attempt depth r).result? = some res := by
  cases h with
  | content hd hblank => rw [attempt_of_delivered hd, ofDelivered, ofContent_of_text hblank]; rfl
  | stray hstray =>
    cases hstray with
    | content hd hempty hv =>
      rw [attempt_of_delivered hd, ofDelivered, ofContent_of_other hempty hv]; rfl
    | depth hd hdeep => rw [attempt_of_delivered hd, ofDelivered, if_pos hdeep]; rfl
  | @failure f htimeout hrefusal hpassing =>
    simp only [attempt, reply, Reply.ofFailure, htimeout, hrefusal, hpassing]
    cases f.error <;> rfl

theorem message_lost {kind : String} (h : text ≠ "") : (Setback.lost kind text).message = text :=
  if_neg h

theorem Passes.setback (h : a.Passes depth r text) :
    ∃ s, a.attempt depth r = .setback s ∧ s.message = text := by
  cases h with
  | empty hd hv =>
    exact ⟨.emptyAnswer, by rw [attempt_of_delivered hd, ofDelivered, ofContent_of_blank hv], rfl⟩
  | @malformed _ why hd hdeep =>
    exact ⟨.misfit why, by rw [attempt_of_delivered hd, ofDelivered, hdeep]; rfl, rfl⟩
  | @status status _ habsolute hsuccess =>
    exact ⟨.status status, by simp [attempt, reply, Attempt.ofReply, habsolute, hsuccess], rfl⟩
  | nowhere habsolute =>
    exact ⟨.unknownPlace r.url, by simp [attempt, reply, Attempt.ofReply, habsolute], rfl⟩
  | timeout htimeout =>
    exact ⟨.timeout, by simp [attempt, reply, Reply.ofFailure, Attempt.ofReply, htimeout], rfl⟩
  | @refusal f htimeout hrefusal =>
    refine ⟨.lost f.kind ("HTTP " ++ toString f.status), ?_, ?_⟩
    · simp [attempt, reply, Reply.ofFailure, Attempt.ofReply, htimeout, hrefusal]
    · exact message_lost (by simp)
  | @failure f htimeout hrefusal hpassing =>
    refine ⟨.lost f.kind f.text, ?_, rfl⟩
    simp [attempt, reply, Reply.ofFailure, Attempt.ofReply, htimeout, hrefusal, hpassing]

/-- An answer ends the call, or the request is sent again. -/
theorem ends_or_passes (depth : Nat) (r : Request) (a : Answer) :
    (∃ res, a.Ends depth r res) ∨ ∃ text, a.Passes depth r text := by
  cases hd : a.delivered? depth r with
  | some d =>
    rcases d with why | v
    · cases hdeep : why.isTooDeep with
      | true => exact .inl ⟨_, .stray (.depth hd hdeep)⟩
      | false => exact .inr ⟨_, .malformed hd hdeep⟩
    · by_cases hblank : IsBlankContent v
      · exact .inr ⟨_, .empty hd hblank⟩
      · -- What is not blank is a text, or it is stray.
        rw [IsBlankContent, not_or, Bool.not_eq_true] at hblank
        by_cases htext : ∃ s, v = .str s
        · obtain ⟨s, rfl⟩ := htext
          exact .inl ⟨_, .content hd (Bool.eq_false_iff.2 fun h => hblank.2 ⟨s, rfl, h⟩)⟩
        · exact .inl ⟨_, .stray (.content hd hblank.1 fun s hs => htext ⟨s, hs⟩)⟩
  | none =>
    cases a with
    | response status body =>
      rw [delivered?] at hd
      cases habsolute : r.isAbsolute with
      | false => exact .inr ⟨_, .nowhere habsolute⟩
      | true => exact .inr ⟨_, .status habsolute (by simpa [habsolute] using hd)⟩
    | failure f =>
      cases htimeout : f.isTimeout with
      | true => exact .inr ⟨_, .timeout htimeout⟩
      | false =>
        cases hrefusal : f.isRefusal with
        | true => exact .inr ⟨_, .refusal htimeout hrefusal⟩
        | false =>
          cases hpassing : f.isPassing with
          | true => exact .inr ⟨_, .failure htimeout hrefusal hpassing⟩
          | false => exact .inl ⟨_, .failure htimeout hrefusal hpassing⟩

theorem ends_iff : a.Ends depth r res ↔ (a.attempt depth r).result? = some res := by
  refine ⟨Ends.result?, fun hres => ?_⟩
  rcases ends_or_passes depth r a with ⟨res', h⟩ | ⟨text, h⟩
  · obtain rfl : res' = res := Option.some.inj (h.result?.symm.trans hres)
    exact h
  · obtain ⟨s, hs, -⟩ := h.setback
    simp [hs, Attempt.result?] at hres

theorem passes_iff :
    a.Passes depth r text ↔ ∃ s, a.attempt depth r = .setback s ∧ s.message = text := by
  refine ⟨Passes.setback, fun ⟨s, hs, htext⟩ => ?_⟩
  rcases ends_or_passes depth r a with ⟨res, h⟩ | ⟨text', h⟩
  · have hres := h.result?
    simp [hs, Attempt.result?] at hres
  · obtain ⟨s', hs', htext'⟩ := h.setback
    obtain rfl : s = s' := by simpa [hs] using hs'
    obtain rfl : text' = text := htext'.symm.trans htext
    exact h

/-- The request is sent again after the answer exactly if that does not end the call. -/
theorem exists_passes_iff :
    (∃ text, a.Passes depth r text) ↔ (a.attempt depth r).result? = none := by
  simp only [passes_iff, Attempt.result?_eq_none]
  exact ⟨fun ⟨_, s, hs, _⟩ => ⟨s, hs⟩, fun ⟨s, hs⟩ => ⟨_, s, hs, rfl⟩⟩

/-! ## Answers of HTTP -/

/-- A good answer that delivers nothing: its content is blank, or none is found in it. -/
inductive IsHollow (depth : Nat) : Answer → Prop
  | empty {status : Int} {body : Bytes} {v : Json} : isSuccess status = true →
      contentOf depth body = .ok v → IsBlankContent v → IsHollow depth (.response status body)
  | malformed {status : Int} {body : Bytes} {why : Misfit} : isSuccess status = true →
      contentOf depth body = .error why → why.isTooDeep = false →
      IsHollow depth (.response status body)

/-- After a malformed answer the request is sent again, as it is after an empty one. -/
theorem IsHollow.exists_passes (h : a.IsHollow depth) (r : Request) :
    ∃ text, a.Passes depth r text := by
  cases habsolute : r.isAbsolute with
  | false =>
    cases h with
    | empty | malformed => exact ⟨_, .nowhere habsolute⟩
  | true =>
    cases h with
    | empty hstatus hv hblank =>
      exact ⟨_, .empty (by simp [delivered?, habsolute, hstatus, hv]) hblank⟩
    | malformed hstatus hwhy hdeep =>
      exact ⟨_, .malformed (by simp [delivered?, habsolute, hstatus, hwhy]) hdeep⟩

/-- What the transport fails with is a failure of HTTP. -/
def IsFromHttp (a : Answer) : Prop :=
  ∀ f, a = .failure f → f.isTimeout = true ∨ f.isA "HTTPError" = true

/-- An answer of HTTP ends the call with its content, unless it is stray. -/
theorem Ends.cases_of_http (h : a.Ends depth r res) (ha : a.IsFromHttp) :
    (∃ text : Loose, res = .ok text ∧ text.isBlank = false) ∨
      ∃ e, a.IsStray depth r e ∧ res = .error e := by
  cases h with
  | content hd hblank => exact .inl ⟨_, rfl, hblank⟩
  | stray hstray => exact .inr ⟨_, hstray, rfl⟩
  | @failure f htimeout _ hpassing =>
    rcases ha f rfl with h | h
    · simp [htimeout] at h
    · simp [Failure.isPassing, h] at hpassing

theorem IsStray.broken {e : GenerateError} (h : a.IsStray depth r e) :
    ∃ kind text, e = .broken kind text := by
  cases h with
  | content | depth => exact ⟨_, _, rfl⟩

end Answer

end Mender.Assistant
