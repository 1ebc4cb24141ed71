import Mender.Assistant.Client

/-!
# Attempts one after another

A call consists of attempts, up to the first that is no setback or the last that is allowed
(`EndsAt`). It is written down as one request after another, if there is a request at all, with
one pause between two attempts (`actsOf`). What the attempts come to decides where a call ends
(`EndsAt.unique`), and `Client.generate_endsAt` says so of a call of the client.
-/

namespace Mender.Assistant

open Text

/-! ## Where a call ends -/

/-- What an attempt comes to; a setback is not the end of it. -/
def Attempt.result? : Attempt → Option (Except GenerateError Loose)
  | .answered text => some (.ok text)
  | .setback _ => none
  | .failed why => some (.error why)

theorem Attempt.result?_eq_none {a : Attempt} : a.result? = none ↔ ∃ s, a = .setback s := by
  cases a <;> simp [result?]

variable {as bs : Nat → Attempt} {exhausted exhausted' : Setback → GenerateError}
  {limit limit' n n' : Nat} {res res' : Except GenerateError Loose}

/-- A call that comes to `as 0`, then to `as 1` and so on, and at most to `as limit`, ends with
    `as n`. -/
structure EndsAt (as : Nat → Attempt) (exhausted : Setback → GenerateError) (limit n : Nat)
    (res : Except GenerateError Loose) : Prop where
  le : n ≤ limit
  retried : ∀ i < n, (as i).result? = none
  ends : (as n).result? = some res ∨
    n = limit ∧ ∃ s, as n = .setback s ∧ res = .error (exhausted s)

theorem EndsAt.not_lt (h : EndsAt as exhausted limit n res)
    (h' : EndsAt bs exhausted' limit n' res')
    (halike : ∀ i, (as i).result? = none ↔ (bs i).result? = none) : ¬n < n' := by
  intro hlt
  -- The other call goes on, so that this one would too, if there were an attempt left.
  have hnone : (as n).result? = none := (halike n).2 (h'.retried n hlt)
  rcases h.ends with hres | ⟨rfl, -⟩
  · simp [hnone] at hres
  · exact absurd h'.le (by omega)

/-- Calls end with the same attempt if their setbacks come at the same time. -/
theorem EndsAt.unique (h : EndsAt as exhausted limit n res)
    (h' : EndsAt bs exhausted' limit n' res')
    (halike : ∀ i, (as i).result? = none ↔ (bs i).result? = none) : n = n' :=
  Nat.le_antisymm (Nat.le_of_not_lt (h'.not_lt h fun i => (halike i).symm))
    (Nat.le_of_not_lt (h.not_lt h' halike))

/-- A call that ends with a setback is exhausted. -/
theorem EndsAt.eq_exhausted (h : EndsAt as exhausted limit n res) (hn : (as n).result? = none) :
    n = limit ∧ ∃ s, as n = .setback s ∧ res = .error (exhausted s) := by
  refine h.ends.resolve_left fun hres => ?_
  simp [hn] at hres

/-- Calls come to the same that end with the same attempt. -/
theorem EndsAt.res_unique (h : EndsAt as exhausted limit n res)
    (h' : EndsAt bs exhausted limit' n res') (heq : as n = bs n) : res = res' := by
  cases hn : (as n).result? with
  | none =>
    obtain ⟨-, s, hs, rfl⟩ := h.eq_exhausted hn
    obtain ⟨-, s', hs', rfl⟩ := h'.eq_exhausted (heq ▸ hn)
    obtain rfl : s = s' := by simpa [hs, hs'] using heq
    rfl
  | some _ =>
    have hres : (as n).result? = some res := by
      refine h.ends.resolve_right fun ⟨_, s, hs, _⟩ => ?_
      simp [hs, Attempt.result?] at hn
    have hres' : (bs n).result? = some res' := by
      refine h'.ends.resolve_right fun ⟨_, s, hs, _⟩ => ?_
      simp [heq, hs, Attempt.result?] at hn
    rw [← heq, hres] at hres'
    exact Option.some.inj hres'

/-- A call ends later by one if a setback comes first. -/
theorem EndsAt.succ {s : Setback} (h : EndsAt (fun i => as (i + 1)) exhausted limit n res)
    (hs : as 0 = .setback s) : EndsAt as exhausted (limit + 1) (n + 1) res := by
  refine ⟨Nat.succ_le_succ h.le, fun i hi => ?_, ?_⟩
  · cases i with
    | zero => rw [hs]; rfl
    | succ i => exact h.retried i (by omega)
  · exact h.ends.imp_right fun ⟨heq, hlast⟩ => ⟨by omega, hlast⟩

/-! ## What a call does -/

/-- What is done in `n + 1` attempts behind `done` others, each of which sends the given: there is a
    pause between two attempts, and none behind the last. -/
def actsOf (delay : Delay) (sent : List Act) (done n : Nat) : List Act :=
  sent ++ (List.range' (done + 1) n).flatMap fun i => .paused (delay.times i) :: sent

theorem actsOf_succ (delay : Delay) (sent : List Act) (done n : Nat) :
    actsOf delay sent done (n + 1) =
      sent ++ .paused (delay.times (done + 1)) :: actsOf delay sent (done + 1) n := by
  rw [actsOf, List.range'_succ, List.flatMap_cons, actsOf, List.cons_append]

/-- What is sent in an attempt. -/
def sentIn : Except Attempt Request → List Act
  | .error _ => []
  | .ok r => [.sent r]

namespace Client

variable {c : Client}

/-- What an attempt comes to, after `n` others. -/
def attempt (c : Client) (request : Except Attempt Request) (n : Nat) : Attempt :=
  match request with
  | .error a => a
  | .ok r => .ofReply c.wire.depth r (c.replies.next n)

/-- The client after an attempt. -/
theorem send_eq (c : Client) (request : Except Attempt Request) :
    ∃ c', c.send request = (c.attempt request 0, c') ∧ c'.policy = c.policy ∧
      c'.journal = c.journal ++ sentIn request ∧
      ∀ n, c'.attempt request n = c.attempt request (n + 1) := by
  cases request with
  | error a => exact ⟨c, rfl, rfl, (List.append_nil _).symm, fun _ => rfl⟩
  | ok r =>
    refine ⟨_, rfl, rfl, rfl, fun n => ?_⟩
    simp only [attempt, Script.next]
    rw [Nat.add_right_comm, Nat.add_assoc]

/-- At least one attempt is made, and no more than are left. Where the call ends is decided by what
    the attempts come to, and what is done is written down. -/
theorem retry_endsAt (request : Except Attempt Request) (exhausted : Setback → GenerateError)
    (left done : Nat) (last : Setback) (c : Client) :
    ∃ n, EndsAt (c.attempt request) exhausted left n
        (retry request exhausted (left + 1) done last c).1 ∧
      (retry request exhausted (left + 1) done last c).2.journal =
        c.journal ++ actsOf c.policy.retryDelay (sentIn request) done n := by
  induction left generalizing done last c with
  | zero =>
    obtain ⟨c', hsend, -, hjournal, -⟩ := c.send_eq request
    refine ⟨0, ⟨Nat.le_refl _, nofun, ?_⟩, ?_⟩ <;> rw [retry, hsend]
    · cases ha : c.attempt request 0 with
      | answered | failed => exact .inl rfl
      | setback s => exact .inr ⟨rfl, s, rfl, rfl⟩
    · rw [actsOf, List.range'_zero, List.flatMap_nil, List.append_nil, ← hjournal]
      cases c.attempt request 0 <;> rfl
  | succ left ih =>
    obtain ⟨c', hsend, hpolicy, hjournal, hattempt⟩ := c.send_eq request
    rw [retry, hsend]
    cases ha : c.attempt request 0 with
    | answered | failed =>
      refine ⟨0, ⟨Nat.zero_le _, nofun, .inl (by rw [ha]; rfl)⟩, ?_⟩
      simpa [actsOf] using hjournal
    | setback s =>
      -- The other attempts are those of the client behind the pause.
      obtain ⟨n, hends, hdone⟩ := ih (done + 1) s (c'.pause (done + 1))
      have hothers : (c'.pause (done + 1)).attempt request =
          fun i => c.attempt request (i + 1) := by
        funext i
        rw [← hattempt i]
        rfl
      rw [hothers] at hends
      refine ⟨n + 1, hends.succ ha, ?_⟩
      simp only [Nat.add_one_ne_zero, if_false]
      rw [hdone, actsOf_succ, pause, hjournal, hpolicy]
      simp

/-- The number of attempts is positive. -/
theorem attempts_pos (c : Client) : 0 < c.attempts := by
  rw [attempts]
  omega

/-- A call to a provider ends where its attempts say. -/
theorem generate_endsAt {p : Provider} (hp : c.provider = some p) (prompt : String) :
    ∃ n, EndsAt (c.attempt (request c.wire p c.policy prompt))
        (fun s => .unavailable
          (p.name ++ " failed after " ++ toString c.attempts ++ " attempts: " ++ s.message))
        (c.attempts - 1) n (c.generate prompt).1 ∧
      (c.generate prompt).2.journal = c.journal ++
        actsOf c.policy.retryDelay (sentIn (request c.wire p c.policy prompt)) 0 n := by
  have hattempts : c.attempts - 1 + 1 = c.attempts := Nat.sub_add_cancel c.attempts_pos
  have h := retry_endsAt (request c.wire p c.policy prompt)
    (fun s => .unavailable
      (p.name ++ " failed after " ++ toString c.attempts ++ " attempts: " ++ s.message))
    (c.attempts - 1) 0 .emptyAnswer c
  rw [hattempts] at h
  simpa only [generate, hp] using h

end Client

end Mender.Assistant
