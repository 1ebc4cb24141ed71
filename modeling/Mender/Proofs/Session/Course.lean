import Mender.Proofs.Repair.Replacement
import Mender.Proofs.Session.Occurrences
import Mender.Proofs.Text.Utf8
import Mender.Session.Run

/-!
# The course of a session

What the builds of a session come to does not depend on what the session does between
them: the results are those of the builder alone (`Builder.result`). They decide how a
session goes.

* `Attempted`: all that the work on one diagnostic can come to.
* `Worked`, `Rounds`: a session goes from world to world by work on diagnostics and by
  whole rounds, and a log is kept of what it worked on.
* `run_ended`: every run goes through rounds until one of its builds stops it, until it
  has built as often as it may, or until it breaks off at a diagnostic.
-/

namespace Mender

open Repair

/-! ## Texts of files -/

/-- The text of a file, or why it cannot be read. -/
def FileTree.readText (t : FileTree) (path : String) : Except String String :=
  match t.read path with
  | .error e => .error e.message
  | .ok bytes =>
    match Text.Utf8.decode bytes with
    | .error e => .error e.message
    | .ok s => .ok (String.ofList s)

/-- A file that is read stands where its path says, with the bytes of the text. -/
theorem FileTree.file_of_readText {t : FileTree} {p : AbsolutePath} {content : String}
    (hp : p.Normal) (h : t.readText p.text = .ok content) :
    ∃ old mode, t.read p.text = .ok old ∧ Replacement.bytes content = old ∧
      t.lookup p.text = .ok (p.names, .file old mode) := by
  rw [readText] at h
  split at h
  · simp at h
  next old hread =>
  split at h
  · simp at h
  next s hdecode =>
  obtain rfl := Except.ok.inj h
  obtain ⟨l, mode, hlookup⟩ := lookup_of_read hread
  obtain rfl := eq_names_of_find hp (lookup_eq_ok.1 hlookup).1
  refine ⟨old, mode, hread, ?_, hlookup⟩
  rw [Replacement.bytes, String.toList_ofList]
  exact Text.Utf8.encode_of_decode hdecode

/-- A text is read from the file that holds its bytes. -/
theorem FileTree.readText_of_lookup {t : FileTree} {path content : String} {l : Location}
    {mode : Nat} (h : t.lookup path = .ok (l, .file (Replacement.bytes content) mode)) :
    t.readText path = .ok content := by
  simp only [readText, read_eq h, Replacement.bytes, Text.Utf8.decode_encode,
    String.ofList_toList]

namespace Session

/-- Worlds read their trees. -/
theorem World.readText_eq (w : World) (path : String) : w.readText path = w.tree.readText path :=
  rfl

/-! ## Builds -/

namespace Builder

/-- The builder after a number of builds. -/
def after (b : Builder) : Nat → Builder
  | 0 => b
  | n + 1 => (b.after n).build.2

/-- The result of a build, the builds counted from 1. -/
def result (b : Builder) (i : Nat) : Build.Outcome := (b.after (i - 1)).build.1

/-- The diagnostics in the log of a build, the builds counted from 1. -/
def found (b : Builder) : Nat → List Diagnostic
  | 0 => []
  | i + 1 => BuildLog.read (b.result (i + 1)).output

/-- A session that gets to this build stops there: it passes, it reports nothing, or it
    reports the occurrences of the build before, equally often. -/
def Stops (b : Builder) (i : Nat) : Prop :=
  (b.result i).success ∨ b.found i = [] ∨
    1 < i ∧ ((b.found i).map Diagnostic.identity).Perm ((b.found (i - 1)).map Diagnostic.identity)

/-- Why a session stops at a build that stops it, and the diagnostics that are left. -/
def verdict (b : Builder) (i : Nat) : Stop × List Diagnostic :=
  if (b.result i).success then (.success, [])
  else if b.found i = [] then (.noDiagnostics, b.found (i - 1))
  else (.stalled, b.found i)

end Builder

/-! ## Worlds -/

namespace World

/-- The numbers of the builds in the journal. -/
def builds (w : World) : List Nat :=
  w.journal.filterMap fun
    | .build n => some n
    | _ => none

/-- The fault of the content that was chosen last, if it was to be written and nothing came
    of that: no event followed. -/
def unwritten? (w : World) : Option Text.EncodeError :=
  match w.journal.getLast? with
  | some (.select _ o) =>
    match o.changed, o.content.encode with
    | true, .error e => some e
    | _, _ => none
  | _ => none

theorem builds_build (w : World) (n : Nat) : (w.build n).2.builds = w.builds ++ [n] := by
  simp [builds, build, note]

theorem unwritten?_build (w : World) (n : Nat) : (w.build n).2.unwritten? = none := by
  simp [unwritten?, build, note]

/-- The replacement with the next faults and, if something is to be written, at the next time. -/
def applied (w : World) (r : Replacement) : Except ReplaceFailure (Option Record) × FileTree :=
  r.apply w.process (w.faults.answer w.faults.taken)
    (if r.isNeeded then w.clock.answer w.clock.taken else 0) w.tree

/-- The event of a replacement; there is none if it breaks. -/
def eventOf (r : Replacement) : Except ReplaceFailure (Option Record) → Option Event
  | .ok record => some (.replace r.path record)
  | .error (.operation e) => some (.replaceFailed r.path e)
  | .error (.broken _) => none

/-- A decision in the world `w`, and the world afterwards. -/
structure Selected (w : World) (d : Diagnostic) (content : String) (o : Outcome) (w' : World) :
    Prop where
  selector : w.selector.select d content = (o, w'.selector)
  process : w'.process = w.process
  tree : w'.tree = w.tree
  clock : w'.clock = w.clock
  faults : w'.faults = w.faults
  builder : w'.builder = w.builder
  journal : w'.journal = w.journal ++ [.select d o]

/-- What a replacement in the world `w` comes to, and the world afterwards. -/
structure Replaced (w : World) (r : Replacement) (result : Except ReplaceFailure (Option Record))
    (w' : World) : Prop where
  applied : w.applied r = (result, w'.tree)
  process : w'.process = w.process
  faults : w'.faults = w.faults.take.2
  builder : w'.builder = w.builder
  selector : w'.selector = w.selector
  journal : w'.journal = w.journal ++ (eventOf r result).toList

/-- A decision changes nothing of a world but its selector and its journal. -/
theorem selected {w w' : World} {d : Diagnostic} {content : String} {o : Outcome}
    (h : w.select d content = (o, w')) : w.Selected d content o w' := by
  obtain ⟨rfl, rfl⟩ := Prod.mk.inj h
  exact ⟨rfl, rfl, rfl, rfl, rfl, rfl, rfl⟩

/-- A replacement takes the next faults, and the next time if something is to be written. -/
theorem replace_eq (w : World) (r : Replacement) :
    w.replace r = ((w.applied r).1, { w with
      tree := (w.applied r).2
      clock := if r.isNeeded then w.clock.take.2 else w.clock
      faults := w.faults.take.2
      journal := w.journal ++ (eventOf r (w.applied r).1).toList }) := by
  unfold replace applied
  cases r.isNeeded <;> simp only [Script.take, Bool.false_eq_true, if_false, if_true] <;>
    split <;> simp [note, eventOf, *]

/-- A replacement changes nothing of the builder and the selector of a world. -/
theorem replaced {w w' : World} {r : Replacement}
    {result : Except ReplaceFailure (Option Record)} (h : w.replace r = (result, w')) :
    w.Replaced r result w' := by
  rw [replace_eq] at h
  obtain ⟨rfl, rfl⟩ := Prod.mk.inj h
  exact ⟨rfl, rfl, rfl, rfl, rfl, rfl⟩

/-- A path that is read is one, so that no replacement of the file breaks over its path. -/
theorem ne_nullByte_of_readText {w w₁ w₂ : World} {r : Replacement} {content : String}
    (hread : w.readText r.path = .ok content) :
    ¬w₁.Replaced r (.error (.broken .nullByte)) w₂ := by
  intro hr
  have hnull := (Replacement.mem_of_apply (congrArg Prod.fst hr.applied)).2
  rw [readText_eq, FileTree.readText] at hread
  split at hread
  · simp at hread
  next hbytes => exact FileTree.not_mem_of_read hbytes hnull

/-- A file that is read stands where its path says, with the bytes of the text. -/
theorem file_of_readText {w : World} {p : AbsolutePath} {content : String} (hp : p.Normal)
    (h : w.readText p.text = .ok content) :
    ∃ old mode, w.tree.read p.text = .ok old ∧ Replacement.bytes content = old ∧
      w.tree.lookup p.text = .ok (p.names, .file old mode) :=
  FileTree.file_of_readText hp h

end World

/-! ## Work on a diagnostic -/

/-- What the work on a diagnostic comes to. -/
inductive Attempted (root : AbsolutePath) (d : Diagnostic) (w : World) : Working Result → Prop
  | outOfScope : root.resolve? d.file = none →
      Attempted root d w (.ok (.because .outOfScope ""), w)
  | unread {path : AbsolutePath} {why : String} : root.resolve? d.file = some path →
      w.readText path.text = .error why → Attempted root d w (.ok (.because .readFailed why), w)
  | unchanged {path : AbsolutePath} {content : String} {o : Outcome} {w₁ : World} :
      root.resolve? d.file = some path → w.readText path.text = .ok content →
      w.Selected d content o w₁ → o.changed = false →
      Attempted root d w (.ok (.unfixed o.reason o.detail), w₁)
  | replaced {path : AbsolutePath} {content : String} {o : Outcome} {w₁ w₂ : World}
      {record : Option Record} : root.resolve? d.file = some path →
      w.readText path.text = .ok content → w.Selected d content o w₁ → o.changed = true →
      w₁.Replaced (replacement path d content o) (.ok record) w₂ →
      Attempted root d w (.ok (record.elim .untouched .fixed), w₂)
  | failed {path : AbsolutePath} {content : String} {o : Outcome} {w₁ w₂ : World}
      {e : ReplaceError} : root.resolve? d.file = some path →
      w.readText path.text = .ok content → w.Selected d content o w₁ → o.changed = true →
      w₁.Replaced (replacement path d content o) (.error (.operation e)) w₂ →
      Attempted root d w (.ok (.because .applyFailed e.message), w₂)
  | broken {path : AbsolutePath} {content : String} {o : Outcome} {w₁ w₂ : World}
      {e : Text.EncodeError} : root.resolve? d.file = some path →
      w.readText path.text = .ok content → w.Selected d content o w₁ → o.changed = true →
      w₁.Replaced (replacement path d content o) (.error (.broken (.unwritable e))) w₂ →
      Attempted root d w (.error (.unwritable e), w₂)

/-- The work on a diagnostic comes to one of these. -/
theorem attempted (root : AbsolutePath) (d : Diagnostic) (w : World) :
    Attempted root d w (attempt root d w) := by
  rw [attempt]
  cases hpath : root.resolve? d.file with
  | none => exact .outOfScope hpath
  | some path =>
    simp only [repairFile]
    cases hread : w.readText path.text with
    | error why => exact .unread hpath hread
    | ok content =>
      simp only
      rcases hs : w.select d content with ⟨o, w₁⟩
      have hsel := World.selected hs
      cases hc : o.changed with
      | false => simpa [hc] using Attempted.unchanged hpath hread hsel hc
      | true =>
        simp only [Bool.not_true, Bool.false_eq_true, if_false]
        rcases hr : w₁.replace (replacement path d content o) with
          ⟨(e | _ | e) | (_ | r), w₂⟩
        · exact .failed hpath hread hsel hc (World.replaced hr)
        · exact absurd (World.replaced hr) (World.ne_nullByte_of_readText hread)
        · exact .broken hpath hread hsel hc (World.replaced hr)
        · exact .replaced hpath hread hsel hc (World.replaced hr)
        · exact .replaced hpath hread hsel hc (World.replaced hr)

/-! ## What the work on a diagnostic leaves alone -/

section

variable {root : AbsolutePath} {d : Diagnostic} {w w' : World}

/-- The work on a diagnostic leaves the builds to come as they are. -/
theorem builder_of_attempt {r : Except Breakage Result}
    (h : attempt root d w = (r, w')) : w'.builder = w.builder := by
  have ha := h ▸ attempted root d w
  cases ha with
  | outOfScope | unread => rfl
  | unchanged _ _ hs _ => exact hs.builder
  | replaced _ _ hs _ hr | failed _ _ hs _ hr | broken _ _ hs _ hr =>
    exact hr.builder.trans hs.builder

theorem process_of_attempt {r : Except Breakage Result}
    (h : attempt root d w = (r, w')) : w'.process = w.process := by
  have ha := h ▸ attempted root d w
  cases ha with
  | outOfScope | unread => rfl
  | unchanged _ _ hs _ => exact hs.process
  | replaced _ _ hs _ hr | failed _ _ hs _ hr | broken _ _ hs _ hr =>
    exact hr.process.trans hs.process

/-- The work on a diagnostic builds nothing. -/
theorem builds_of_attempt {r : Except Breakage Result}
    (h : attempt root d w = (r, w')) : w'.builds = w.builds := by
  have ha := h ▸ attempted root d w
  cases ha with
  | outOfScope | unread => rfl
  | unchanged _ _ hs _ => simp [World.builds, hs.journal]
  | replaced _ _ hs _ hr | failed _ _ hs _ hr | broken _ _ hs _ hr =>
    simp [World.builds, hr.journal, hs.journal, World.eventOf]

/-- Work that comes to a result leaves no content unwritten. -/
theorem unwritten?_of_attempt {r : Result} (h : attempt root d w = (.ok r, w'))
    (hw : w.unwritten? = none) : w'.unwritten? = none := by
  have ha := h ▸ attempted root d w
  cases ha with
  | outOfScope | unread => exact hw
  | unchanged _ _ hs hc => simp [World.unwritten?, hs.journal, hc]
  | replaced _ _ _ _ hr | failed _ _ _ _ hr =>
    simp [World.unwritten?, hr.journal, World.eventOf]

/-- Work that breaks off leaves a content unwritten. -/
theorem unwritten?_of_attempt_error {why : Breakage} (h : attempt root d w = (.error why, w')) :
    ∃ e, why = .unwritable e ∧ w'.unwritten? = some e := by
  have ha := h ▸ attempted root d w
  cases ha with
  | @broken path content o w₁ _ e _ _ hs hc hr =>
    have henc : o.content.encode = .error e := Replacement.encode_of_apply hr.applied
    exact ⟨e, rfl, by simp [World.unwritten?, hr.journal, hs.journal, World.eventOf, hc, henc]⟩

end

/-! ## Runs -/

/-- The diagnostics that were worked on, one after another, and what came of it. -/
abbrev Log := List (Diagnostic × Result)

/-- The books of a session with the given log. -/
def State.ofLog (log : Log) : State := log.foldl (fun s e => s.book e.1 e.2) .empty

/-- One more result is entered into the books of those before it. -/
theorem State.ofLog_append (log : Log) (d : Diagnostic) (r : Result) :
    State.ofLog (log ++ [(d, r)]) = (State.ofLog log).book d r := by
  simp [ofLog]

/-- Work on diagnostics, one after another, leads from the world `w` to another. -/
inductive Worked (root : AbsolutePath) (w : World) : Log → World → Prop
  | nil : Worked root w [] w
  | snoc {log : Log} {d : Diagnostic} {r : Result} {w₁ w₂ : World} : Worked root w log w₁ →
      attempt root d w₁ = (.ok r, w₂) → Worked root w (log ++ [(d, r)]) w₂

/-- A number of rounds, none of which stops the session, leads from the world `w` to another.
    A round is a build and the work on what it found. -/
inductive Rounds (root : AbsolutePath) (w : World) : Nat → Log → World → Prop
  | start : Rounds root w 0 [] w
  | round {n : Nat} {log more : Log} {w₁ w₂ : World} : Rounds root w n log w₁ →
      ¬w.builder.Stops (n + 1) → Worked root (w₁.build (n + 1)).2 more w₂ →
      more.map Prod.fst = w.builder.found (n + 1) → Rounds root w (n + 1) (log ++ more) w₂

/-- How a session that may build `limit` times ends: a build stops it, it has built as
    often as it may, or it breaks off in the midst of a round. -/
inductive Ended (root : AbsolutePath) (w : World) (limit : Nat) : Working Report → Prop
  | stopped {n : Nat} {log : Log} {w₁ : World} : Rounds root w n log w₁ → n < limit →
      w.builder.Stops (n + 1) →
      Ended root w limit (.ok (report (.ofLog log) (n + 1) (w.builder.verdict (n + 1)).1
        (w.builder.verdict (n + 1)).2), (w₁.build (n + 1)).2)
  | exhausted {log : Log} {w₁ : World} : Rounds root w limit log w₁ →
      Ended root w limit
        (.ok (report (.ofLog log) limit .budgetExhausted (w.builder.found limit)), w₁)
  | broken {n : Nat} {log more : Log} {d : Diagnostic} {why : Breakage} {w₁ w₂ w₃ : World} :
      Rounds root w n log w₁ → n < limit → ¬w.builder.Stops (n + 1) →
      Worked root (w₁.build (n + 1)).2 more w₂ →
      more.map Prod.fst ++ [d] <+: w.builder.found (n + 1) →
      attempt root d w₂ = (.error why, w₃) → Ended root w limit (.error why, w₃)

/-- The work of a round leaves the builds to come as they are. -/
theorem Worked.builder {root : AbsolutePath} {w w' : World} {log : Log}
    (h : Worked root w log w') : w'.builder = w.builder := by
  induction h with
  | nil => rfl
  | snoc _ ha ih => exact (builder_of_attempt ha).trans ih

/-- The work of a round builds nothing. -/
theorem Worked.builds {root : AbsolutePath} {w w' : World} {log : Log}
    (h : Worked root w log w') : w'.builds = w.builds := by
  induction h with
  | nil => rfl
  | snoc _ ha ih => exact (builds_of_attempt ha).trans ih

/-- The work of a round, if it comes to its end, leaves no content that could not be written. -/
theorem Worked.unwritten? {root : AbsolutePath} {w w' : World} {log : Log}
    (h : Worked root w log w') (hw : w.unwritten? = none) : w'.unwritten? = none := by
  induction h with
  | nil => exact hw
  | snoc _ ha ih => exact unwritten?_of_attempt ha ih

/-- After `n` rounds, `n` builds have been taken from the builder. -/
theorem Rounds.builder {root : AbsolutePath} {w w' : World} {n : Nat} {log : Log}
    (h : Rounds root w n log w') : w'.builder = w.builder.after n := by
  induction h with
  | start => rfl
  | round _ _ hw _ ih => rw [hw.builder, Builder.after, ← ih]; rfl

/-- The work on the diagnostics of a round goes on with the books of the rounds before. -/
theorem repairAll_worked {root : AbsolutePath} {w : World} (before : Log) :
    ∀ (ds : List Diagnostic) {more : Log} {w₁ : World}, Worked root w more w₁ →
      (∃ rest w₂, rest.map Prod.fst = ds ∧ Worked root w (more ++ rest) w₂ ∧
        repairAll root ds (.ofLog (before ++ more)) w₁ =
          (.ok (.ofLog (before ++ (more ++ rest))), w₂)) ∨
      ∃ rest d why w₂ w₃, rest.map Prod.fst ++ [d] <+: ds ∧ Worked root w (more ++ rest) w₂ ∧
        attempt root d w₂ = (.error why, w₃) ∧
        repairAll root ds (.ofLog (before ++ more)) w₁ = (.error why, w₃)
  | [], more, w₁, hw => .inl ⟨[], w₁, rfl, by simpa using hw, by simp [repairAll]⟩
  | d :: ds, more, w₁, hw => by
    rcases ha : attempt root d w₁ with ⟨e | r, w₂⟩
    · refine .inr ⟨[], d, e, w₁, w₂, ?_, by simpa using hw, ha, by simp [repairAll, ha]⟩
      exact ⟨ds, rfl⟩
    · -- What came of the diagnostic joins the log, and its books those of the log.
      have hstep : repairAll root (d :: ds) (.ofLog (before ++ more)) w₁ =
          repairAll root ds (.ofLog (before ++ (more ++ [(d, r)]))) w₂ := by
        rw [repairAll, ha, ← List.append_assoc, State.ofLog_append]
      rcases repairAll_worked before ds (hw.snoc ha) with
        ⟨rest, w₃, hds, hw₃, hall⟩ | ⟨rest, d', e, w₃, w₄, hds, hw₃, ha', hall⟩
      · refine .inl ⟨(d, r) :: rest, w₃, by simp [hds], by simpa using hw₃, ?_⟩
        rw [hstep, hall]
        simp
      · refine .inr ⟨(d, r) :: rest, d', e, w₃, w₄, ?_, by simpa using hw₃, ha', hstep.trans hall⟩
        simpa using hds

/-- What a session remembers of the build before, after a number of rounds. -/
def Builder.previous? (b : Builder) : Nat → Option (List Diagnostic)
  | 0 => none
  | i + 1 => some (b.found (i + 1))

theorem Builder.getD_previous? (b : Builder) (n : Nat) : (b.previous? n).getD [] = b.found n := by
  cases n <;> rfl

/-- A build stops a session if it passes, if nothing is found in its output, or if the same is
    found as in the build before. -/
theorem Builder.stops_succ_iff (b : Builder) (n : Nat) :
    b.Stops (n + 1) ↔ (b.result (n + 1)).success ∨ b.found (n + 1) = [] ∨
      isStalled (b.found (n + 1)) (b.previous? n) := by
  cases n with
  | zero => simp [Stops, previous?, isStalled]
  | succ n => simp [Stops, previous?, isStalled_iff_perm]

/-- By induction on the rounds that are left: the rounds so far and these make a session. -/
theorem rounds_ended {root : AbsolutePath} {w : World} :
    ∀ (left : Nat) {n : Nat} {log : Log} {w₁ : World}, Rounds root w n log w₁ →
      Ended root w (n + left) (rounds root left n (w.builder.previous? n) (.ofLog log) w₁)
  | 0, n, log, w₁, h => by
    rw [rounds, Builder.getD_previous?]
    exact .exhausted h
  | left + 1, n, log, w₁, h => by
    have hbuild : w₁.build (n + 1) = (w.builder.result (n + 1), (w₁.build (n + 1)).2) := by
      rw [Builder.result, Nat.add_sub_cancel, ← h.builder]
      rfl
    have hfound : BuildLog.read (w.builder.result (n + 1)).output = w.builder.found (n + 1) := rfl
    have hlt : n < n + (left + 1) := by omega
    rw [rounds, hbuild]
    simp only [hfound]
    by_cases hstop : w.builder.Stops (n + 1)
    · -- The three ways to stop, in the order in which they are looked for.
      have hended := Ended.stopped h hlt hstop
      rw [Builder.stops_succ_iff] at hstop
      by_cases hs : (w.builder.result (n + 1)).success
      · simpa [Builder.verdict, hs] using hended
      · by_cases hd : w.builder.found (n + 1) = []
        · simpa [Builder.verdict, hs, hd, Builder.getD_previous?] using hended
        · have hst : isStalled (w.builder.found (n + 1)) (w.builder.previous? n) = true := by
            simpa [hs, hd] using hstop
          simpa [Builder.verdict, hs, hd, hst] using hended
    · -- The session goes on: the round is worked on to its end, or breaks off.
      have hgo := hstop
      rw [Builder.stops_succ_iff] at hgo
      push Not at hgo
      obtain ⟨hs, hd, hst⟩ := hgo
      simp only [hs, hd, hst, if_false]
      have hnil : Worked root (w₁.build (n + 1)).2 [] (w₁.build (n + 1)).2 := .nil
      rcases repairAll_worked log (w.builder.found (n + 1)) hnil with
        ⟨more, w₂, hds, hw, hall⟩ | ⟨more, d, e, w₂, w₃, hds, hw, ha, hall⟩
      · rw [List.append_nil] at hall
        rw [hall]
        have := rounds_ended left (h.round hstop hw hds)
        simpa [Builder.previous?, Nat.add_assoc, Nat.add_comm 1 left] using this
      · rw [List.append_nil] at hall
        rw [hall]
        exact .broken h hlt hstop hw hds ha

/-- A session ends in one of these ways. -/
theorem run_ended (root : AbsolutePath) (maxBuilds : Int) (w : World) :
    Ended root w (budget maxBuilds) (run root maxBuilds w) := by
  have hstart : Rounds root w 0 [] w := .start
  have h := rounds_ended (budget maxBuilds) hstart
  rw [Nat.zero_add] at h
  exact h

/-- A session has built as often as its report says, if there is one. -/
theorem Ended.builder {root : AbsolutePath} {w w' : World} {limit : Nat}
    {result : Except Breakage Report} (h : Ended root w limit (result, w')) (hlimit : 1 ≤ limit) :
    ∃ n : Nat, 1 ≤ n ∧ n ≤ limit ∧ w'.builder = w.builder.after n ∧
      ∀ r, result = .ok r → r.attempts = n := by
  have hbuild : ∀ {n : Nat} {log : Log} {w₁ : World}, Rounds root w n log w₁ →
      (w₁.build (n + 1)).2.builder = w.builder.after (n + 1) := by
    intro n log w₁ h
    rw [Builder.after, ← h.builder]
    rfl
  cases h with
  | @stopped n log w₁ h hlt hstop =>
    exact ⟨n + 1, n.succ_pos, hlt, hbuild h, fun r hr => by cases hr; rfl⟩
  | exhausted h => exact ⟨limit, hlimit, le_rfl, h.builder, fun r hr => by cases hr; rfl⟩
  | @broken n log more d why w₁ w₂ w₃ h hlt hgo hwork hds ha =>
    refine ⟨n + 1, n.succ_pos, hlt, ?_, fun r hr => by cases hr⟩
    rw [builder_of_attempt ha, hwork.builder, hbuild h]

end Session

end Mender
