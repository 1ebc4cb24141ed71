import Mathlib.Data.List.Basic
import Mender.Assistant.Wire
import Mender.Proofs.Assistant.Answer

/-!
# What a call does and comes to

A call sends the same request again and again, with one pause between two requests, and stops at
the first answer that ends it or behind the last request that is allowed
(`Client.generate_stops_first`). If the transport fails in no other way than HTTP does, a call
yields a text or exhausts its requests, exactly if none of the answers that it gets is stray
(`Client.generate_documented_iff`).
-/

namespace Mender.Assistant

open Text

variable {c : Client} {p : Provider} {script : Script Answer} {prompt : String} {r : Request}

/-- As many requests are written down as there are attempts. -/
theorem requests_actsOf (delay : Delay) (r : Request) (done n : Nat) :
    (actsOf delay (sentIn (.ok r)) done n).filterMap Act.request? = List.replicate (n + 1) r := by
  have hsent : (sentIn (.ok r)).filterMap Act.request? = [r] := rfl
  induction n generalizing done with
  | zero => rfl
  | succ n ih =>
    simp [actsOf_succ, hsent, ih, List.filterMap_cons, Act.request?, List.replicate_succ]

/-- No request is written down where there is none. -/
theorem requests_actsOf_error (delay : Delay) (a : Attempt) (done n : Nat) :
    (actsOf delay (sentIn (.error a)) done n).filterMap Act.request? = [] := by
  rw [actsOf, sentIn, List.nil_append, ← List.map_eq_flatMap, List.filterMap_map]
  exact List.filterMap_eq_nil_iff.2 fun _ _ => rfl

namespace Client

/-- The client, with the answers that it is going to get. -/
def facing (c : Client) (script : Script Answer) : Client :=
  { c with replies := script.map Answer.reply }

/-- A request is met with the answers of the script in turn. -/
theorem attempt_facing (c : Client) (script : Script Answer) (r : Request) (n : Nat) :
    (c.facing script).attempt (.ok r) n = (script.next n).attempt c.wire.depth r :=
  rfl

/-- A call that meets the answers of a script ends where they say. -/
theorem facing_endsAt (c : Client) (script : Script Answer) (hp : c.provider = some p)
    (prompt : String) :
    ∃ n, EndsAt ((c.facing script).attempt (request c.wire p c.policy prompt))
        (fun s => .unavailable
          (p.name ++ " failed after " ++ toString c.attempts ++ " attempts: " ++ s.message))
        (c.attempts - 1) n ((c.facing script).generate prompt).1 ∧
      ((c.facing script).generate prompt).2.journal = c.journal ++
        actsOf c.policy.retryDelay (sentIn (request c.wire p c.policy prompt)) 0 n :=
  generate_endsAt (c := c.facing script) hp prompt

/-- A call whose request is written ends with an answer that ends it, or is exhausted. -/
theorem answered_of_endsAt {exhausted : Setback → GenerateError} {limit n : Nat}
    {res : Except GenerateError Loose}
    (h : EndsAt ((c.facing script).attempt (.ok r)) exhausted limit n res) :
    (script.next n).Ends c.wire.depth r res ∨
      n = limit ∧ ∃ s, (script.next n).Passes c.wire.depth r s.message ∧
        res = .error (exhausted s) := by
  rcases h.ends with hres | ⟨hlimit, s, hs, hres⟩
  · exact .inl (Answer.ends_iff.2 hres)
  · exact .inr ⟨hlimit, s, Answer.passes_iff.2 ⟨s, hs, rfl⟩, hres⟩

/-- Without a request the attempts of a call all come to the same. -/
theorem cases_of_endsAt_error {a : Attempt} {exhausted : Setback → GenerateError} {limit n : Nat}
    {res : Except GenerateError Loose} (h : EndsAt (c.attempt (.error a)) exhausted limit n res) :
    n = 0 ∧ a.result? = some res ∨
      n = limit ∧ ∃ s, a = .setback s ∧ res = .error (exhausted s) := by
  refine h.ends.imp_left fun hres => ⟨Nat.eq_zero_of_not_pos fun hn => ?_, hres⟩
  have hfirst : a.result? = none := h.retried 0 hn
  have hlast : a.result? = some res := hres
  simp [hfirst] at hlast

/-- A client that asks up to three times, with the key and at the address. -/
def caller (key address : String) : Client :=
  .new (.standard 975) (some ⟨"prov", key, address, "m"⟩) ⟨3, .whole 1, .int 0, .int 1⟩
    (.always .timeout)

/-- The body of an answer with the content, which is written in JSON. -/
def bodyWith (content : String) : List Char :=
  ("\x7b\"choices\":[\x7b\"message\":\x7b\"content\":" ++ content ++ "\x7d\x7d]\x7d").toList

theorem requests_of_journal {c' : Client} {acts : List Act}
    (h : c'.journal = c.journal ++ acts) :
    c'.requests = c.requests ++ acts.filterMap Act.request? := by
  rw [requests, h, List.filterMap_append, requests]

/-- A call yields a text that is not blank, or it exhausts its requests. -/
def IsDocumented (c : Client) (limit : Nat) : Except GenerateError Loose × Client → Prop
  | (.ok text, _) => text.isBlank = false
  | (.error (.unavailable _), c') => ∃ r, c'.requests = c.requests ++ List.replicate limit r
  | (.error (.broken _ _), _) => False

/-- A call ends with a stray answer if it comes so far, and so with a failure of its own kind. -/
theorem res_of_isStray {exhausted : Setback → GenerateError} {limit n m : Nat}
    {res : Except GenerateError Loose} {e : GenerateError}
    (h : EndsAt ((c.facing script).attempt (.ok r)) exhausted limit n res) (hm : m ≤ limit)
    (hbefore : ∀ i < m, ∃ why, (script.next i).Passes c.wire.depth r why)
    (hstray : (script.next m).IsStray c.wire.depth r e) :
    res = .error e := by
  have hend : EndsAt ((c.facing script).attempt (.ok r)) exhausted limit m (.error e) :=
    ⟨hm, fun i hi => Answer.exists_passes_iff.1 (hbefore i hi),
      .inl (Answer.ends_iff.1 (.stray hstray))⟩
  obtain rfl := h.unique hend fun _ => Iff.rfl
  exact h.res_unique hend rfl

/-- A call of written requests that HTTP answers is as documented exactly if it gets no answer that
    is stray. -/
theorem isDocumented_iff {name : Setback → String} {limit n : Nat} (hpos : 0 < limit)
    {call : Except GenerateError Loose × Client}
    (hcall : EndsAt ((c.facing script).attempt (.ok r)) (fun s => .unavailable (name s))
      (limit - 1) n call.1)
    (hjournal : call.2.journal = c.journal ++ actsOf c.policy.retryDelay (sentIn (.ok r)) 0 n)
    (htransport : ∀ i, (script.next i).IsFromHttp) :
    IsDocumented c limit call ↔
      ∀ m < limit, (∀ i < m, ∃ why, (script.next i).Passes c.wire.depth r why) →
        ∀ e, ¬(script.next m).IsStray c.wire.depth r e := by
  obtain ⟨res, c'⟩ := call
  constructor
  · intro hdoc m hm hbefore e hstray
    obtain rfl : res = .error e := res_of_isStray hcall (Nat.le_pred_of_lt hm) hbefore hstray
    obtain ⟨kind, text, rfl⟩ := hstray.broken
    exact hdoc
  · intro hnone
    rcases answered_of_endsAt hcall with hends | ⟨heq, s, -, hres⟩
    · rcases hends.cases_of_http (htransport n) with ⟨text, htext, hblank⟩ | ⟨e, hstray, -⟩
      · obtain rfl : res = .ok text := htext
        exact hblank
      · have hbefore := fun i hi => Answer.exists_passes_iff.2 (hcall.retried i hi)
        exact absurd hstray (hnone n (Nat.lt_of_le_pred hpos hcall.le) hbefore e)
    · obtain rfl : res = _ := hres
      refine ⟨r, ?_⟩
      rw [requests_of_journal hjournal, requests_actsOf, heq, Nat.sub_add_cancel hpos]

/-- A call without a request is not as documented: it exhausts its attempts without one, or ends at
    once. -/
theorem not_isDocumented {a : Attempt} {name : Setback → String} {limit n : Nat} (hpos : 0 < limit)
    (hr : request c.wire p c.policy prompt = .error a) {call : Except GenerateError Loose × Client}
    (hcall : EndsAt ((c.facing script).attempt (.error a)) (fun s => .unavailable (name s))
      (limit - 1) n call.1)
    (hjournal : call.2.journal = c.journal ++ actsOf c.policy.retryDelay (sentIn (.error a)) 0 n) :
    ¬IsDocumented c limit call := by
  obtain ⟨res, c'⟩ := call
  rcases cases_of_endsAt_error hcall with ⟨-, hresult⟩ | ⟨-, s, -, hres⟩
  · obtain ⟨text, htext⟩ := result?_request hr hresult
    obtain rfl : res = _ := htext
    exact id
  · obtain rfl : res = _ := hres
    rintro ⟨r, hrequests⟩
    rw [requests_of_journal hjournal, requests_actsOf_error,
      List.append_cancel_left_eq] at hrequests
    have hlimit : 0 = limit := by simpa using congrArg List.length hrequests
    omega

/-- What becomes of a call does not depend on which of the answers are malformed and which are
    empty, but for the reason that is told. -/
theorem generate_alike {script' : Script Answer} (hp : c.provider = some p) (prompt : String)
    (halike : ∀ i, script'.next i = script.next i ∨
      (script.next i).IsHollow c.wire.depth ∧ (script'.next i).IsHollow c.wire.depth) :
    ((c.facing script').generate prompt).2.journal = ((c.facing script).generate prompt).2.journal ∧
      (((c.facing script').generate prompt).1 = ((c.facing script).generate prompt).1 ∨
        ∃ why why', ((c.facing script).generate prompt).1 = .error (.unavailable why) ∧
          ((c.facing script').generate prompt).1 = .error (.unavailable why')) := by
  obtain ⟨n, hcall, hjournal⟩ := c.facing_endsAt script hp prompt
  obtain ⟨n', hcall', hjournal'⟩ := c.facing_endsAt script' hp prompt
  cases hr : request c.wire p c.policy prompt with
  | error a =>
    rw [hr] at hcall hjournal hcall' hjournal'
    obtain rfl := hcall.unique hcall' fun _ => Iff.rfl
    exact ⟨hjournal'.trans hjournal.symm, .inl (hcall'.res_unique hcall rfl)⟩
  | ok r =>
    rw [hr] at hcall hjournal hcall' hjournal'
    -- A hollow answer is no end of a call, whatever is wrong with it.
    have hhollow {a : Answer} (ha : a.IsHollow c.wire.depth) :
        (a.attempt c.wire.depth r).result? = none :=
      Answer.exists_passes_iff.1 (ha.exists_passes r)
    have hsame (i : Nat) : ((script.next i).attempt c.wire.depth r).result? = none ↔
        ((script'.next i).attempt c.wire.depth r).result? = none := by
      rcases halike i with heq | ⟨h, h'⟩
      · rw [heq]
      · simp [hhollow h, hhollow h']
    obtain rfl := hcall.unique hcall' hsame
    refine ⟨hjournal'.trans hjournal.symm, ?_⟩
    rcases halike n with heq | ⟨h, h'⟩
    · exact .inl (hcall'.res_unique hcall (by simp only [attempt_facing, heq]))
    · obtain ⟨-, s, -, hres⟩ := hcall.eq_exhausted (hhollow h)
      obtain ⟨-, s', -, hres'⟩ := hcall'.eq_exhausted (hhollow h')
      exact .inr ⟨_, _, hres, hres'⟩

/-- Where the transport fails as HTTP does, a call yields a text that is not blank, or it finds the
    provider out of reach after as many requests as are allowed, exactly if a request can be
    written and no answer is stray that the call gets. What becomes of a call does not depend on
    which of the answers are malformed and which are empty, but for the reason that is told. -/
theorem generate_documented_iff (c : Client) (script : Script Answer) (prompt : String)
    (hp : c.provider = some p) (htransport : ∀ i, (script.next i).IsFromHttp) :
    let call := (c.facing script).generate prompt
    let limit := (max 1 c.policy.maxRetries).toNat
    (IsDocumented c limit call ↔
      ∃ r, request c.wire p c.policy prompt = .ok r ∧
        ∀ n < limit, (∀ i < n, ∃ why, (script.next i).Passes c.wire.depth r why) →
          ∀ e, ¬(script.next n).IsStray c.wire.depth r e) ∧
    ∀ script' : Script Answer,
      (∀ i, script'.next i = script.next i ∨
        (script.next i).IsHollow c.wire.depth ∧ (script'.next i).IsHollow c.wire.depth) →
      let call' := (c.facing script').generate prompt
      call'.2.journal = call.2.journal ∧
        (call'.1 = call.1 ∨
          ∃ why why', call.1 = .error (.unavailable why) ∧
            call'.1 = .error (.unavailable why')) := by
  intro call limit
  have hpos : 0 < limit := c.attempts_pos
  obtain ⟨n, hcall, hjournal⟩ := c.facing_endsAt script hp prompt
  refine ⟨?_, fun script' halike => generate_alike hp prompt halike⟩
  cases hr : request c.wire p c.policy prompt with
  | error a =>
    rw [hr] at hcall hjournal
    simpa using not_isDocumented hpos hr hcall hjournal
  | ok r =>
    rw [hr] at hcall hjournal
    simpa using isDocumented_iff hpos hcall hjournal htransport

theorem request_caller : ∃ r,
    request (caller "sk" "https://llm.test/v1").wire ⟨"prov", "sk", "https://llm.test/v1", "m"⟩
      (caller "sk" "https://llm.test/v1").policy "p" = .ok r ∧ r.isAbsolute = true :=
  ⟨_, rfl, rfl⟩

/-- The answers of a provider that is late at first, and then too busy. -/
def busy : Script Answer :=
  ⟨fun
    | 0 => .failure ⟨"ReadTimeout", ["TimeoutException", "HTTPError"], "late", 0⟩
    | _ + 1 => .response 503 [], 0⟩

theorem next_busy (i : Nat) :
    (busy.next i).IsFromHttp ∧ ∀ depth r, (busy.next i).delivered? depth r = none := by
  rw [Script.next]
  cases busy.taken + i with
  | zero =>
    refine ⟨?_, fun _ _ => rfl⟩
    rintro _ ⟨⟩
    exact .inl rfl
  | succ i =>
    refine ⟨?_, fun _ r => if_neg (by simp [isSuccess])⟩
    rintro _ ⟨⟩

theorem generate_documented_busy :
    IsDocumented (caller "sk" "https://llm.test/v1") 3
      (((caller "sk" "https://llm.test/v1").facing busy).generate "p") := by
  obtain ⟨r, hr, -⟩ := request_caller
  refine (generate_documented_iff (caller "sk" "https://llm.test/v1") busy "p" rfl
    fun i => (next_busy i).1).1.2 ⟨r, hr, fun n _ _ e => ?_⟩
  rintro (⟨hd, -, -⟩ | ⟨hd, -⟩) <;> simp [(next_busy n).2] at hd

/-- The answers of a provider that answers `true` to whatever it is asked. -/
def agreeing : Script Answer := .always (.response 200 (Utf8.encode (bodyWith "true")))

/-- A call ends with a failure of another kind if the content is a truth value. -/
theorem generate_true_content :
    (∀ i, (agreeing.next i).IsFromHttp) ∧
    (((caller "sk" "https://llm.test/v1").facing agreeing).generate "p").1 =
      .error (.broken "AttributeError" "'bool' object has no attribute 'strip'") := by
  refine ⟨?_, ?_⟩
  · rintro i _ ⟨⟩
  obtain ⟨r, hr, habsolute⟩ := request_caller
  obtain ⟨n, hcall, -⟩ := (caller "sk" "https://llm.test/v1").facing_endsAt agreeing
    (p := ⟨"prov", "sk", "https://llm.test/v1", "m"⟩) rfl "p"
  have hread : Json.read 975 ((bodyWith "true").map .char) =
      .ok (.obj [("choices", .arr [.obj [("message", .obj [("content", .bool true)])]])]) := by cbv
  have hcontent : contentOf 975 (Utf8.encode (bodyWith "true")) = .ok (.bool true) :=
    contentOf_encode rfl hread
  have hdelivered : (agreeing.next 0).delivered? 975 r = some (.ok (.bool true)) := by
    simp [agreeing, Script.next, Script.always, Answer.delivered?, habsolute, hcontent, isSuccess]
  have hother : ∀ s, Json.bool true ≠ .str s := by simp
  exact res_of_isStray (hr ▸ hcall) (Nat.zero_le _) (fun i hi => absurd hi (Nat.not_lt_zero i))
    (.content hdelivered rfl hother)

end Client

end Mender.Assistant
