import Mathlib.Data.List.Induction
import Mender.Proofs.Session.Stop

/-!
# The books of a session as a view of its log

The books of a session are kept by bookings, one after another (`State.ofBookings`). They
say no more and no less than the list of the bookings does: the records of the repairs, and
for every occurrence whose last booking is a failure the entry of that failure
(`outstanding`). A session makes one booking for every diagnostic that it works on
(`run_booked`).
-/

namespace Mender.Session

open Repair

/-- A diagnostic is booked as fixed, where the repair may have been made for none, or as
    unfixed. -/
inductive Booking
  | fixed (r : Record) (d? : Option Diagnostic)
  | unfixed (d : Diagnostic) (reason detail : String)

namespace Booking

/-- The occurrence that a booking is about. -/
def identity? : Booking → Option Diagnostic.Identity
  | fixed _ d? => d?.map Diagnostic.identity
  | unfixed d _ _ => some d.identity

/-- The record that a booking adds. -/
def record? : Booking → Option Record
  | fixed r _ => some r
  | unfixed _ _ _ => none

/-- The entry that a booking adds. -/
def unfixed? : Booking → Option Unfixed
  | fixed _ _ => none
  | unfixed d reason detail => some (.ofReason d reason detail)

theorem diagnostic_ofReason (d : Diagnostic) (reason detail : String) :
    (Unfixed.ofReason d reason detail).diagnostic = d := by
  rw [Unfixed.ofReason]
  split <;> rfl

/-- What a booking leaves unfixed has the identity that the booking is for. -/
theorem identity?_of_unfixed? {b : Booking} {u : Unfixed} (h : b.unfixed? = some u) :
    b.identity? = some u.diagnostic.identity := by
  cases b with
  | fixed => simp [unfixed?] at h
  | unfixed d reason detail =>
    obtain rfl := Option.some.inj h
    rw [diagnostic_ofReason]
    rfl

end Booking

/-- The books after a booking. -/
def State.enter (s : State) : Booking → State
  | .fixed r d? => s.bookFixed r d?
  | .unfixed d reason detail => s.bookUnfixed d reason detail

/-- The books after some bookings. -/
def State.ofBookings (bs : List Booking) : State := bs.foldl State.enter .empty

/-- The entries of the bookings behind which there is none about the same occurrence. -/
def outstanding : List Booking → List Unfixed
  | [] => []
  | b :: bs =>
    (if bs.any (·.identity? == b.identity?) then [] else b.unfixed?.toList) ++ outstanding bs

/-- The books say what the bookings do. -/
structure Booked (bs : List Booking) (s : State) : Prop where
  fixed : s.fixed = bs.filterMap Booking.record?
  unfixed : s.unfixed = outstanding bs
  nodup : (s.unfixed.map (·.diagnostic.identity)).Nodup
  mem_unfixed : ∀ u, u ∈ s.unfixed ↔ ∃ before b behind, bs = before ++ b :: behind ∧
    b.unfixed? = some u ∧ ∀ c ∈ behind, c.identity? ≠ b.identity?

/-! ## Outstanding entries -/

/-- A diagnostic is outstanding if it was booked as unfixed and nothing was booked for its
    identity afterwards. -/
theorem mem_outstanding_iff {bs : List Booking} {u : Unfixed} :
    u ∈ outstanding bs ↔ ∃ before b behind, bs = before ++ b :: behind ∧
      b.unfixed? = some u ∧ ∀ c ∈ behind, c.identity? ≠ b.identity? := by
  induction bs with
  | nil => simp [outstanding]
  | cons a bs ih =>
    rw [outstanding, List.mem_append, ih]
    constructor
    · rintro (h | ⟨before, b, behind, rfl, hb, hlast⟩)
      · split at h
        · simp at h
        · next hno =>
          refine ⟨[], a, bs, rfl, by simpa using h, fun c hc heq => hno ?_⟩
          exact List.any_eq_true.2 ⟨c, hc, by simp [heq]⟩
      · exact ⟨a :: before, b, behind, rfl, hb, hlast⟩
    · rintro ⟨before, b, behind, hbs, hb, hlast⟩
      cases before with
      | nil =>
        obtain ⟨rfl, rfl⟩ := List.cons.inj hbs
        refine .inl ?_
        rw [if_neg (by simpa using hlast), hb]
        simp
      | cons a' before =>
        obtain ⟨rfl, rfl⟩ := List.cons.inj hbs
        exact .inr ⟨before, b, behind, rfl, hb, hlast⟩

/-- There is at most one entry for an occurrence. -/
theorem nodup_outstanding (bs : List Booking) :
    ((outstanding bs).map (·.diagnostic.identity)).Nodup := by
  induction bs with
  | nil => simp [outstanding]
  | cons b bs ih =>
    rw [outstanding]
    split
    · exact ih
    · next hno =>
      cases hb : b.unfixed? with
      | none => simpa [hb] using ih
      | some u =>
        simp only [Option.toList_some, List.singleton_append, List.map_cons, List.nodup_cons]
        refine ⟨fun hmem => hno ?_, ih⟩
        obtain ⟨v, hv, huv⟩ := List.mem_map.1 hmem
        obtain ⟨before, c, behind, rfl, hc, -⟩ := mem_outstanding_iff.1 hv
        refine List.any_eq_true.2 ⟨c, by simp, ?_⟩
        rw [Booking.identity?_of_unfixed? hb, Booking.identity?_of_unfixed? hc, huv]
        simp

/-- A booking takes away the entry of its occurrence, and adds its own behind the others. -/
theorem outstanding_append (bs : List Booking) (b : Booking) :
    outstanding (bs ++ [b]) =
      (match b.identity? with
        | none => outstanding bs
        | some i => State.without i (outstanding bs)) ++ b.unfixed?.toList := by
  induction bs with
  | nil => cases hb : b.identity? <;> simp [outstanding, State.without]
  | cons a bs ih =>
    rw [List.cons_append, outstanding, ih, outstanding, ← List.append_assoc]
    congr 1
    -- The entry of `a` is still there unless one of the bookings behind it, or the new one,
    -- is about the same occurrence.
    cases ha : a.unfixed? with
    | none => cases hb : b.identity? <;> simp
    | some u =>
      have hi := Booking.identity?_of_unfixed? ha
      cases hb : b.identity? with
      | none => simp [hi, hb]
      | some i =>
        by_cases hui : u.diagnostic.identity = i
        · by_cases hbs : bs.any (·.identity? == a.identity?) <;>
            simp [hi, hb, hui, State.without]
        · have hiu : ¬i = u.diagnostic.identity := fun h => hui h.symm
          simp only [List.any_append, List.any_cons, List.any_nil, hi, hb, Option.some_beq_some,
            Bool.or_false, beq_false_of_ne hiu, State.without, List.filter_append]
          split <;> simp [hui]

/-- One more booking is entered into the state that those before it have left. -/
theorem State.ofBookings_append (bs : List Booking) (b : Booking) :
    State.ofBookings (bs ++ [b]) = (State.ofBookings bs).enter b := by
  simp [ofBookings]

/-- Books are the view of the bookings, whatever the bookings. -/
theorem booked_ofBookings (bs : List Booking) : Booked bs (.ofBookings bs) := by
  have h : State.ofBookings bs = ⟨bs.filterMap Booking.record?, outstanding bs⟩ := by
    induction bs using List.reverseRecOn with
    | nil => rfl
    | append_singleton bs b ih =>
      rw [State.ofBookings_append, ih, outstanding_append]
      cases b with
      | fixed r d? =>
        cases d? <;> simp [State.enter, State.bookFixed, Booking.record?, Booking.identity?,
          Booking.unfixed?]
      | unfixed d reason detail =>
        simp [State.enter, State.bookUnfixed, Booking.record?, Booking.identity?,
          Booking.unfixed?]
  rw [h]
  exact ⟨rfl, rfl, nodup_outstanding bs, fun _ => mem_outstanding_iff⟩

/-! ## Reasons -/

theorem Reason.ofName?_name (r : Reason) : Reason.ofName? r.name = some r := by
  cases r <;> rfl

/-- An entry for a known reason holds the reason and the detail as they are. -/
theorem Unfixed.ofReason_name (d : Diagnostic) (r : Reason) (detail : String) :
    Unfixed.ofReason d r.name detail = ⟨d, r.name, detail⟩ := by
  rw [ofReason, Reason.ofName?_name]

/-- A reason that is not known is kept in the detail. -/
theorem Unfixed.ofReason_of_unknown (d : Diagnostic) {reason : String} (detail : String)
    (h : ∀ r : Reason, reason ≠ r.name) :
    Unfixed.ofReason d reason detail =
      ⟨d, Reason.noChange.name, if detail = "" then reason else reason ++ ": " ++ detail⟩ := by
  have hnone : Reason.ofName? reason = none := by
    rw [Reason.ofName?, List.find?_eq_none]
    intro r _ hr
    exact h r (by simpa using Eq.symm (by simpa using hr))
  rw [ofReason, hnone]

/-! ## Bookings of a session -/

/-- The booking of a diagnostic with a result. -/
def Result.booking? (d : Diagnostic) : Result → Option Booking
  | .fixed r => some (.fixed r (some d))
  | .unfixed reason detail => some (.unfixed d reason detail)
  | .untouched => none

/-- The bookings that a log asks for. -/
def Log.bookings (log : Log) : List Booking := log.filterMap fun e => e.2.booking? e.1

/-- The books of a log are those of its bookings. -/
theorem State.ofLog_eq (log : Log) : State.ofLog log = .ofBookings log.bookings := by
  induction log using List.reverseRecOn with
  | nil => rfl
  | append_singleton log e ih =>
    obtain ⟨d, r⟩ := e
    rw [State.ofLog_append, ih]
    cases r <;> simp [Log.bookings, State.ofBookings, Result.booking?, State.book, State.enter]

/-- A result is a repair or a failure for a known reason. -/
inductive Result.IsBooked : Result → Prop
  | fixed (r : Record) : IsBooked (.fixed r)
  | unfixed (reason : Reason) (detail : String) : IsBooked (.unfixed reason.name detail)

section

variable {root : AbsolutePath} {w w' : World} {client : Option Assistant.Client} {useModel : Bool}

/-- A standard selector and the check for an equal content agree on what is a change, so that
    work that comes to a result is always booked. -/
theorem isBooked_of_attempt {d : Diagnostic} {r : Except Breakage Result}
    (h : attempt root d w = (r, w')) (hw : w.selector = .standard client useModel) :
    (∀ result, r = .ok result → result.IsBooked) ∧
      ∃ client', w'.selector = .standard client' useModel := by
  have hdecide : ∀ {content : String} {o : Outcome} {w₁ : World},
      w.Selected d content o w₁ → o.Consistent content ∧
        ∃ client', w₁.selector = .standard client' useModel := by
    intro content o w₁ hs
    have hc := Selector.select_standard client useModel d content
    rw [← hw, hs.selector] at hc
    exact hc
  have ha := h ▸ attempted root d w
  cases ha with
  | outOfScope => exact ⟨fun _ hr => by cases hr; exact .unfixed .outOfScope _, _, hw⟩
  | unread => exact ⟨fun _ hr => by cases hr; exact .unfixed .readFailed _, _, hw⟩
  | unchanged _ _ hs hc =>
    obtain ⟨hcons, hsel⟩ := hdecide hs
    obtain ⟨reason, hreason⟩ := hcons.reason hc
    refine ⟨fun _ hr => ?_, hsel⟩
    cases hr
    rw [hreason]
    exact .unfixed reason _
  | @replaced path content o _ _ record _ _ hs hc hr =>
    obtain ⟨hcons, hsel⟩ := hdecide hs
    refine ⟨fun _ hres => ?_, hr.selector ▸ hsel⟩
    cases hres
    cases record with
    | some r => exact .fixed r
    | none =>
      -- The selector says that the content changed, so the replacement is needed.
      have hneeded : (replacement path d content o).isNeeded = false :=
        Replacement.isNeeded_of_apply hr.applied
      have hneeds : (replacement path d content o).isNeeded = true := by
        simpa [Replacement.isNeeded, replacement] using hcons.changed_iff.1 hc
      simp [hneeds] at hneeded
  | failed _ _ hs _ hr =>
    exact ⟨fun _ hres => by cases hres; exact .unfixed .applyFailed _, hr.selector ▸ (hdecide hs).2⟩
  | broken _ _ hs _ hr =>
    refine ⟨fun _ hres => ?_, hr.selector ▸ (hdecide hs).2⟩
    cases hres

/-- Each diagnostic of a round is booked in one of the ways there are. -/
theorem Worked.isBooked {log : Log} (h : Worked root w log w')
    (hw : w.selector = .standard client useModel) :
    (∀ e ∈ log, e.2.IsBooked) ∧ ∃ client', w'.selector = .standard client' useModel := by
  induction h with
  | nil => exact ⟨nofun, client, hw⟩
  | snoc _ ha ih =>
    obtain ⟨hall, client', hw₁⟩ := ih
    obtain ⟨hr, hsel⟩ := isBooked_of_attempt ha hw₁
    refine ⟨fun e he => ?_, hsel⟩
    rcases List.mem_append.1 he with he | he
    · exact hall e he
    · obtain rfl := List.mem_singleton.1 he
      exact hr _ rfl

/-- Each diagnostic of a session is booked in one of the ways there are. -/
theorem Rounds.isBooked {n : Nat} {log : Log} (h : Rounds root w n log w')
    (hw : w.selector = .standard client useModel) :
    (∀ e ∈ log, e.2.IsBooked) ∧ ∃ client', w'.selector = .standard client' useModel := by
  induction h with
  | start => exact ⟨nofun, client, hw⟩
  | round _ _ hwork _ ih =>
    obtain ⟨hall, client', hw₁⟩ := ih
    obtain ⟨hmore, hsel⟩ := hwork.isBooked hw₁
    refine ⟨fun e he => ?_, hsel⟩
    exact (List.mem_append.1 he).elim (hall e) (hmore e)

/-- The log of some rounds names all the diagnostics that their builds found, in order. -/
theorem Rounds.map_fst {n : Nat} {log : Log} (h : Rounds root w n log w') :
    log.map Prod.fst = (List.range n).flatMap fun i => w.builder.found (i + 1) := by
  induction h with
  | start => rfl
  | round _ _ _ hds ih => rw [List.map_append, ih, hds, List.range_succ]; simp

end

/-- A log of booked results asks for one booking for each of its entries. -/
theorem Log.map_booking? {log : Log} (h : ∀ e ∈ log, e.2.IsBooked) :
    log.map (fun e => e.2.booking? e.1) = log.bookings.map some := by
  induction log with
  | nil => rfl
  | cons e log ih =>
    obtain ⟨d, r⟩ := e
    have hrest := ih fun e he => h e (List.mem_cons_of_mem _ he)
    cases h (d, r) List.mem_cons_self <;> simpa [Log.bookings, Result.booking?] using hrest

/-- A build that stops a session does so for another reason than the budget. -/
theorem Builder.verdict_ne_budgetExhausted (b : Builder) (i : Nat) :
    (b.verdict i).1.name ≠ Stop.budgetExhausted.name := by
  unfold verdict
  split
  · simp [Stop.name]
  · split <;> simp [Stop.name]

/-- Books say what the bookings do, and a session with a standard selector makes one booking,
    with a known reason if it is a failure, for each diagnostic of the rounds that it
    repaired. It breaks off exactly if it is to write a content that has no bytes; then only the
    diagnostic of that content is booked neither way. -/
theorem run_booked (root : AbsolutePath) (maxBuilds : Int) (w : World) :
    (∀ bs, Booked bs (.ofBookings bs)) ∧
    (∀ d (r : Reason) detail, Unfixed.ofReason d r.name detail = ⟨d, r.name, detail⟩) ∧
    (∀ d reason detail, (∀ r : Reason, reason ≠ r.name) →
      Unfixed.ofReason d reason detail =
        ⟨d, "NO_CHANGE", if detail = "" then reason else reason ++ ": " ++ detail⟩) ∧
    ∀ client useModel, w.selector = .standard client useModel →
      (∀ r, (run root maxBuilds w).1 = .ok r → ∃ n log w₁, Rounds root w n log w₁ ∧
        (r.attempts = n ∧ r.stopReason = "budget_exhausted" ∨
          r.attempts = n + 1 ∧ r.stopReason ≠ "budget_exhausted") ∧
        log.map Prod.fst = (List.range n).flatMap (fun i => w.builder.found (i + 1)) ∧
        (∀ e ∈ log, e.2.IsBooked) ∧
        log.map (fun e => e.2.booking? e.1) = log.bookings.map some ∧
        Booked log.bookings ⟨r.fixed, r.unfixed⟩) ∧
      (w.selector.Textual → ∃ r, (run root maxBuilds w).1 = .ok r) ∧
      (∀ why, (run root maxBuilds w).1 = .error why ↔
        ∃ e, why = .unwritable e ∧ (run root maxBuilds w).2.unwritten? = some e) ∧
      ∀ why, (run root maxBuilds w).1 = .error why → ∃ n log w₁ more w₂ d,
        Rounds root w n log w₁ ∧ Worked root (w₁.build (n + 1)).2 more w₂ ∧
        (∀ e ∈ log ++ more, e.2.IsBooked) ∧
        more.map Prod.fst ++ [d] <+: w.builder.found (n + 1) ∧
        attempt root d w₂ = (.error why, (run root maxBuilds w).2) := by
  refine ⟨booked_ofBookings, Unfixed.ofReason_name,
    fun d _ detail h => Unfixed.ofReason_of_unknown d detail h,
    fun client useModel hw => ⟨fun r hr => ?_, run_eq_ok_of_textual root maxBuilds,
      run_eq_error_iff root maxBuilds w, fun why hwhy => ?_⟩⟩
  · have hended := run_ended root maxBuilds w
    generalize run root maxBuilds w = p at hended hr
    cases hended with
    | @stopped n log w₁ h _ _ =>
      obtain rfl := Except.ok.inj hr
      have hall := (h.isBooked hw).1
      refine ⟨n, log, w₁, h, .inr ⟨by simp [report], w.builder.verdict_ne_budgetExhausted _⟩,
        h.map_fst, hall, Log.map_booking? hall, ?_⟩
      simpa only [report, State.ofLog_eq] using booked_ofBookings log.bookings
    | @exhausted log w₁ h =>
      obtain rfl := Except.ok.inj hr
      have hall := (h.isBooked hw).1
      refine ⟨_, log, w₁, h, .inl ⟨rfl, rfl⟩, h.map_fst, hall, Log.map_booking? hall, ?_⟩
      simpa only [report, State.ofLog_eq] using booked_ofBookings log.bookings
    | broken => simp at hr
  · have hended := run_ended root maxBuilds w
    generalize run root maxBuilds w = p at hended hwhy ⊢
    cases hended with
    | stopped | exhausted => simp at hwhy
    | @broken n log more d _ w₁ w₂ _ h _ _ hwork hds ha =>
      obtain rfl := Except.error.inj hwhy
      obtain ⟨hall, client', hw₁⟩ := h.isBooked hw
      obtain ⟨hmore, -⟩ := hwork.isBooked hw₁
      refine ⟨n, log, w₁, more, w₂, d, h, hwork, fun e he => ?_, hds, ha⟩
      exact (List.mem_append.1 he).elim (hall e) (hmore e)

/-- The diagnostic that a build finds in the world `torn` is booked neither way. -/
theorem unbooked_torn :
    torn.builder.found 1 = [tornDiagnostic] ∧
      (∀ r : Result, (attempt tornRoot tornDiagnostic (torn.build 1).2).1 ≠ .ok r) ∧
      ∀ r, (run tornRoot 3 torn).1 ≠ .ok r := by
  obtain ⟨_, -, ha⟩ := isTorn_torn.attempt_eq
  obtain ⟨_, -, h⟩ := run_torn
  exact ⟨read_tornLog, by simp [ha], by simp [h]⟩

end Mender.Session
