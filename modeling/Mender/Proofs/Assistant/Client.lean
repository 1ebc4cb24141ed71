import Mender.Proofs.Assistant.Retry
import Mender.Proofs.Text.Utf8

/-!
# What a client answers with

A call comes to what one of the replies comes to, or it fails for a reason of its own, which
it can tell (`Client.generate_cases`). So a text that `Client.generate` yields is the content of
one of the replies, unchanged, and not a blank one (`Client.content_of_generate`), and a call that
fails says why, unless a reply has nothing to say (`Client.note_of_generate`). A client goes on
with the replies it was given (`Client.goesOn_generate`).
-/

namespace Mender

open Text

/-- A body in UTF-8 has the value that is written there. -/
theorem Json.ofBody_encode {depth : Nat} {text : List Char} {v : Json}
    (hplain : Encoding.decodeBody (Utf8.encode text) = Encoding.decodeUtf8 0 (Utf8.encode text))
    (hread : Json.read depth (text.map .char) = .ok v) :
    Json.ofBody depth (Utf8.encode text) = .ok v := by
  rw [ofBody, hplain, Encoding.decodeUtf8_encode]
  simp only [hread]

namespace Assistant

variable {depth : Nat}

/-- A body in UTF-8 leads to the content of the value that is written there. -/
theorem contentOf_encode {text : List Char} {v : Json}
    (hplain : Encoding.decodeBody (Utf8.encode text) = Encoding.decodeUtf8 0 (Utf8.encode text))
    (hread : Json.read depth (text.map .char) = .ok v) :
    contentOf depth (Utf8.encode text) = contentOfValue v := by
  rw [contentOf, Json.ofBody_encode hplain hread]

/-- A content is an answer if it is a text that is not blank, and else no end of the call or a
    failure of its own kind. -/
theorem result?_ofContent {content : Json} {res : Except GenerateError Loose}
    (h : (Attempt.ofContent content).result? = some res) :
    (∃ text, content = .str text ∧ text.isBlank = false ∧ res = .ok text) ∨
      ∃ kind text, res = .error (.broken kind text) := by
  rw [Attempt.ofContent.eq_def] at h
  split at h
  · simp [Attempt.result?] at h
  · split at h
    · next s _ =>
      split at h
      · simp [Attempt.result?] at h
      · next hblank => exact .inl ⟨s, rfl, by simpa using hblank, (Option.some.inj h).symm⟩
    · exact .inr ⟨_, _, (Option.some.inj h).symm⟩

/-- A response comes to the content of its body, or to a failure that is told by its kind. -/
theorem result?_ofResponse {r : Request} {status : Int} {body : Bytes}
    {res : Except GenerateError Loose}
    (h : (Attempt.ofReply depth r (.response status body)).result? = some res) :
    (∃ text, contentOf depth body = .ok (.str text) ∧ text.isBlank = false ∧ res = .ok text) ∨
      ∃ kind text, res = .error (.broken kind text) := by
  simp only [Attempt.ofReply] at h
  split at h
  · simp [Attempt.result?] at h
  split at h
  · split at h
    · split at h
      · exact .inr ⟨_, _, (Option.some.inj h).symm⟩
      · simp [Attempt.result?] at h
    · next content hc =>
      refine (result?_ofContent h).imp_left ?_
      rintro ⟨text, rfl, hblank, hres⟩
      exact ⟨text, hc, hblank, hres⟩
  · simp [Attempt.result?] at h

/-- An attempt is answered by a reply with that content alone, and not by a blank one. -/
theorem content_of_ofReply {r : Request} {reply : Reply} {text : Loose}
    (h : (Attempt.ofReply depth r reply).result? = some (.ok text)) :
    ∃ status body, reply = .response status body ∧ contentOf depth body = .ok (.str text) ∧
      text.isBlank = false := by
  cases reply with
  | response status body =>
    rcases result?_ofResponse h with ⟨text', hc, hblank, hres⟩ | ⟨kind, why, hres⟩
    · obtain rfl := Except.ok.inj hres
      exact ⟨status, body, rfl, hc, hblank⟩
    · simp at hres
  | timeout | lost | broken | unavailable => simp [Attempt.ofReply, Attempt.result?] at h

theorem GenerateError.note_broken_ne (kind text : String) : (broken kind text).note ≠ "" := by
  simp [note]

/-- An attempt that fails says why, unless the reply has nothing to say. -/
theorem note_of_ofReply {r : Request} {reply : Reply} {e : GenerateError}
    (hreply : reply ≠ .unavailable "")
    (h : (Attempt.ofReply depth r reply).result? = some (.error e)) : e.note ≠ "" := by
  cases reply with
  | response status body =>
    rcases result?_ofResponse h with ⟨text, -, -, hres⟩ | ⟨kind, text, hres⟩
    · simp at hres
    · obtain rfl := Except.error.inj hres
      exact GenerateError.note_broken_ne _ _
  | timeout | lost => simp [Attempt.ofReply, Attempt.result?] at h
  | broken kind text =>
    obtain rfl := Except.error.inj (Option.some.inj h)
    exact GenerateError.note_broken_ne _ _
  | unavailable text =>
    obtain rfl := Except.error.inj (Option.some.inj h)
    rintro rfl
    exact hreply rfl

/-- Without a request a call is over only if the address is no address. -/
theorem result?_request {wire : Wire} {p : Provider} {policy : Policy} {prompt : String}
    {a : Attempt} (h : request wire p policy prompt = .error a) {res : Except GenerateError Loose}
    (ha : a.result? = some res) : ∃ text, res = .error (.broken "InvalidURL" text) := by
  rw [request] at h
  cases hwrite : wire.write (message p policy prompt) with
  | ok r =>
    rw [hwrite] at h
    exact nomatch h
  | error why =>
    rw [hwrite] at h
    obtain rfl := Except.error.inj h
    cases why with
    | unwritable why => simp [Unsent.attempt, Attempt.result?] at ha
    | invalid why => exact ⟨why, (Option.some.inj ha).symm⟩

namespace Client

/-- The client `c'` goes on with the transport and the replies that `c` was given. -/
structure GoesOn (c c' : Client) : Prop where
  wire : c'.wire = c.wire
  answer : c'.replies.answer = c.replies.answer

theorem GoesOn.trans {c c' c'' : Client} (h : GoesOn c c') (h' : GoesOn c' c'') : GoesOn c c'' :=
  ⟨h'.wire.trans h.wire, h'.answer.trans h.answer⟩

theorem goesOn_send (c : Client) (request : Except Attempt Request) :
    GoesOn c (c.send request).2 := by
  cases request <;> exact ⟨rfl, rfl⟩

theorem goesOn_retry (request : Except Attempt Request) (exhausted : Setback → GenerateError)
    (left done : Nat) (last : Setback) (c : Client) :
    GoesOn c (retry request exhausted left done last c).2 := by
  induction left generalizing done last c with
  | zero => exact ⟨rfl, rfl⟩
  | succ left ih =>
    have hs := goesOn_send c request
    rw [retry]
    split
    next h => rw [h] at hs; exact hs
    next h => rw [h] at hs; exact hs
    next c' _ h =>
      rw [h] at hs
      refine (hs.trans ?_).trans (ih _ _ _)
      split <;> exact ⟨rfl, rfl⟩

/-- A call leaves the transport as it is, and the replies to come. -/
theorem goesOn_generate (c : Client) (prompt : String) : GoesOn c (c.generate prompt).2 := by
  rw [generate]
  split
  · exact ⟨rfl, rfl⟩
  · exact goesOn_retry _ _ _ _ _ c

/-- A call fails and says why, or comes to what becomes of one of the replies. -/
theorem generate_cases (c : Client) (prompt : String) :
    (∃ e, (c.generate prompt).1 = .error e ∧ e.note ≠ "") ∨
      ∃ r i, (Attempt.ofReply c.wire.depth r (c.replies.answer i)).result? =
        some (c.generate prompt).1 := by
  cases hp : c.provider with
  | none =>
    rw [generate, hp]
    exact .inl ⟨_, rfl, by simp [GenerateError.note]⟩
  | some p =>
    obtain ⟨n, hcall, -⟩ := generate_endsAt hp prompt
    rcases hcall.ends with hresult | ⟨-, s, -, hs⟩
    · cases hr : request c.wire p c.policy prompt with
      | error a =>
        rw [hr] at hresult
        obtain ⟨text, htext⟩ := result?_request hr hresult
        exact .inl ⟨_, htext, GenerateError.note_broken_ne _ _⟩
      | ok r =>
        rw [hr] at hresult
        exact .inr ⟨r, _, hresult⟩
    · exact .inl ⟨_, hs, by simp [GenerateError.note]⟩

theorem content_of_generate {c : Client} {prompt : String} {text : Loose}
    (h : (c.generate prompt).1 = .ok text) :
    ∃ i status body, c.replies.answer i = .response status body ∧
      contentOf c.wire.depth body = .ok (.str text) ∧ text.isBlank = false := by
  rcases c.generate_cases prompt with ⟨e, he, -⟩ | ⟨r, i, hresult⟩
  · simp [h] at he
  · rw [h] at hresult
    exact ⟨i, content_of_ofReply hresult⟩

/-- A call that fails says why, if every reply does that says the provider is out of reach. -/
theorem note_of_generate {c : Client} {prompt : String} {e : GenerateError}
    (hreplies : ∀ i, c.replies.answer i ≠ .unavailable "")
    (h : (c.generate prompt).1 = .error e) : e.note ≠ "" := by
  rcases c.generate_cases prompt with ⟨e', he', hnote⟩ | ⟨r, i, hresult⟩
  · obtain rfl : e = e' := by simpa [h] using he'
    exact hnote
  · rw [h] at hresult
    exact note_of_ofReply (hreplies i) hresult

end Client

end Assistant

end Mender
