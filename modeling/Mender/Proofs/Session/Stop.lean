import Mender.Assistant.Wire
import Mender.Proofs.Repair.Strategy
import Mender.Proofs.Session.Course
import Mender.Settings

/-!
# When a session stops

The first build that passes, that reports nothing, or that reports what the build before
did stops a session (`Builder.FirstStop`); without one it goes on to the end of its budget.
Files, selectors and failed replacements have no say in this (`run_follows_builds`), with one
exception: a session that is to write a content that no file can have breaks off
(`run_eq_error_iff`). This takes a selector that comes up with such a content
(`run_eq_ok_of_textual`).
-/

namespace Mender.Session

open Repair

/-- The first build that stops a session, among those that it may run. -/
structure Builder.FirstStop (b : Builder) (limit k : Nat) : Prop where
  one_le : 1 ≤ k
  le_limit : k ≤ limit
  stops : b.Stops k
  goes_on : ∀ i, 1 ≤ i → i < k → ¬b.Stops i

/-- There is one first build to stop a session, whatever the limit. -/
theorem Builder.FirstStop.unique {b : Builder} {limit limit' k k' : Nat}
    (h : b.FirstStop limit k) (h' : b.FirstStop limit' k') : k = k' := by
  rcases Nat.lt_trichotomy k k' with hlt | heq | hlt
  · exact absurd h.stops (h'.goes_on k h.one_le hlt)
  · exact heq
  · exact absurd h'.stops (h.goes_on k' h'.one_le hlt)

section

variable {root : AbsolutePath} {w w' : World} {n : Nat} {log : Log}

/-- None of the builds of the rounds that a session went on from is one to stop it. -/
theorem Rounds.not_stops (h : Rounds root w n log w') :
    ∀ i, 1 ≤ i → i ≤ n → ¬w.builder.Stops i := by
  induction h with
  | start => intro i h1 h0; omega
  | @round n _ _ _ _ _ hgo _ _ ih =>
    intro i h1 hi
    rcases Nat.lt_or_ge n i with hlt | hle
    · rwa [show i = n + 1 by omega]
    · exact ih i h1 hle

/-- The builds of `n` rounds have the numbers from 1 to `n`. -/
theorem Rounds.builds (h : Rounds root w n log w') :
    w'.builds = w.builds ++ List.range' 1 n := by
  induction h with
  | start => simp
  | @round n _ _ _ _ _ _ hw _ ih =>
    rw [hw.builds, World.builds_build, ih, List.range'_concat, List.append_assoc]
    simp [Nat.add_comm]

/-- From the first build on, no content is left unwritten between two rounds. -/
theorem Rounds.unwritten? (h : Rounds root w n log w') (hn : 0 < n) : w'.unwritten? = none := by
  cases h with
  | start => omega
  | round _ _ hw _ => exact hw.unwritten? (World.unwritten?_build _ _)

/-- With a textual selector the work on a diagnostic comes to a result, and leaves such a
    selector. -/
theorem textual_of_attempt {d : Diagnostic} {r : Except Breakage Result}
    (h : attempt root d w = (r, w')) (hw : w.selector.Textual) :
    w'.selector.Textual ∧ ∃ result, r = .ok result := by
  have ha := h ▸ attempted root d w
  cases ha with
  | outOfScope | unread => exact ⟨hw, _, rfl⟩
  | @unchanged _ content _ _ _ _ hs _ =>
    have ht := (hw.select d content).2
    rw [hs.selector] at ht
    exact ⟨ht, _, rfl⟩
  | @replaced _ content _ _ _ _ _ _ hs _ hr | @failed _ content _ _ _ _ _ _ hs _ hr =>
    have ht := (hw.select d content).2
    rw [hs.selector] at ht
    exact ⟨hr.selector ▸ ht, _, rfl⟩
  | @broken _ content _ _ _ _ _ _ hs _ hr =>
    -- A text has bytes.
    obtain ⟨t, ht⟩ := (hw.select d content).1
    have henc := Replacement.encode_of_apply hr.applied
    rw [hs.selector] at ht
    rw [replacement, show _ = Text.Loose.whole t from ht] at henc
    simp [Text.Loose.encode] at henc

/-- The work of a round leaves a textual selector. -/
theorem Worked.textual (h : Worked root w log w') (hw : w.selector.Textual) :
    w'.selector.Textual := by
  induction h with
  | nil => exact hw
  | snoc _ ha ih => exact (textual_of_attempt ha ih).1

/-- Rounds leave a textual selector. -/
theorem Rounds.textual (h : Rounds root w n log w') (hw : w.selector.Textual) :
    w'.selector.Textual := by
  induction h with
  | start => exact hw
  | round _ _ hwork _ ih => exact hwork.textual ih

end

/-- A session may build once at least. -/
theorem one_le_budget (maxBuilds : Int) : 1 ≤ budget maxBuilds := by
  simp only [budget]
  omega

/-- A session breaks off exactly if it is to write a content that has no bytes, and that is the
    last that it does. Over a path that is none it never does. -/
theorem run_eq_error_iff (root : AbsolutePath) (maxBuilds : Int) (w : World) (why : Breakage) :
    (run root maxBuilds w).1 = .error why ↔
      ∃ e, why = .unwritable e ∧ (run root maxBuilds w).2.unwritten? = some e := by
  have h := run_ended root maxBuilds w
  generalize run root maxBuilds w = p at h ⊢
  cases h with
  | stopped => simp [World.unwritten?_build]
  | exhausted h => simp [h.unwritten? (one_le_budget maxBuilds)]
  | broken _ _ _ _ _ ha =>
    obtain ⟨e, rfl, he⟩ := unwritten?_of_attempt_error ha
    simp [he, eq_comm]

/-- A session with a selector that decides on texts does not break off. -/
theorem run_eq_ok_of_textual (root : AbsolutePath) (maxBuilds : Int) {w : World}
    (hw : w.selector.Textual) : ∃ r, (run root maxBuilds w).1 = .ok r := by
  have h := run_ended root maxBuilds w
  generalize run root maxBuilds w = p at h ⊢
  cases h with
  | stopped => exact ⟨_, rfl⟩
  | exhausted => exact ⟨_, rfl⟩
  | broken h _ _ hwork _ ha =>
    obtain ⟨_, result, hr⟩ := textual_of_attempt ha (hwork.textual (h.textual hw))
    exact absurd hr nofun

/-! ## A session that breaks off -/

section

open Assistant Text

/-- What the model replies: a content that is half of a surrogate pair. -/
def tornText : List Char :=
  "\x7b\"choices\":[\x7b\"message\":\x7b\"content\":\"\\ud800\"\x7d\x7d]\x7d".toList

/-- The reply in bytes. -/
def tornReply : Bytes := Utf8.encode tornText

/-- The settings with the model in use. -/
def tornSettings : Settings := { Settings.standard with keys := ⟨some "k", none, none⟩ }

/-- The client to which the model replies so. -/
def tornClient : Client :=
  .new (.standard 975) (Provider.selected? tornSettings.keys) tornSettings.policy
    (.always (.response 200 tornReply))

/-- The tree with one file in which the session begins. -/
def tornFiles : FileTree :=
  ⟨[([['p']], .directory), ([['p'], "a.ts".toList], .file [120] 0o644)], []⟩

/-- The tree in which the session ends, with a copy and an empty temporary file. -/
def tornTree : FileTree :=
  (tornFiles.put [['p'], "a.ts.backup.7".toList] (.file [120] 0o644)).put
    [['p'], "a.ts.tmp.4242".toList] (.file [] 0o644)

/-- The root of the session. -/
def tornRoot : AbsolutePath := .absolute "/" "p"

/-- The path of the file. -/
def tornFile : AbsolutePath := ⟨false, [['p'], "a.ts".toList]⟩

/-- The log of a build that fails. -/
def tornLog : String := "a.ts\n1:1  Error: m  r\n"

/-- What the build finds. -/
def tornDiagnostic : Diagnostic := ⟨"a.ts", 1, 1, "m", some "r", .error, .lint⟩

/-- The decision on that diagnostic. -/
def tornOutcome : Outcome := .ofContent byModel none "x" (.torn [.lone 0xd800])

/-- The fault of the content. -/
def tornFault : EncodeError := ⟨"utf-8", 0, [0xd800], "surrogates not allowed"⟩

/-- A session in this world breaks off: the first build fails and finds something in the only
    file, for which the model replies with a content that has no bytes. -/
structure World.IsTorn (w : World) : Prop where
  process : w.process = 4242
  tree : w.tree = tornFiles
  time : w.clock.answer w.clock.taken = 7
  faults : w.faults.answer w.faults.taken = Faults.none
  fails : (w.builder.result 1).success = false
  output : (w.builder.result 1).output = tornLog
  selector : w.selector = .standard (some tornClient) true

theorem read_tornLog : BuildLog.read tornLog = [tornDiagnostic] := by rfl

theorem readText_torn : tornFiles.readText tornFile.text = .ok "x" := by
  have hlookup : tornFiles.lookup tornFile.text =
      .ok ([['p'], "a.ts".toList], .file [120] 0o644) := by rfl
  have hdecode : Utf8.decode [120] = .ok ['x'] := Utf8.decode_encode ['x']
  simp only [FileTree.readText, FileTree.read_eq hlookup, hdecode]

theorem request_torn : ∃ p r, tornClient.provider = some p ∧
    request tornClient.wire p tornClient.policy (prompt tornDiagnostic "x") = .ok r ∧
      r.isAbsolute = true :=
  ⟨_, _, rfl, rfl, rfl⟩

theorem contentOf_torn : contentOf 975 tornReply = .ok (.str (.torn [.lone 0xd800])) := by
  have hread : Json.read 975 (tornText.map .char) =
      .ok (.obj [("choices", .arr [.obj [("message",
        .obj [("content", .str (.torn [.lone 0xd800]))])]])]) := by cbv
  exact contentOf_encode rfl hread

theorem generate_torn :
    (tornClient.generate (prompt tornDiagnostic "x")).1 = .ok (.torn [.lone 0xd800]) := by
  obtain ⟨p, r, hp, hr, habsolute⟩ := request_torn
  have hreply : Attempt.ofReply 975 r (.response 200 tornReply) =
      .answered (.torn [.lone 0xd800]) := by
    simp only [Attempt.ofReply, habsolute, contentOf_torn]
    rfl
  have hsend : tornClient.send (.ok r) = (.answered (.torn [.lone 0xd800]), _) :=
    Prod.ext hreply rfl
  have hattempts : tornClient.attempts = 2 + 1 := rfl
  rw [Client.generate, hp]
  simp only
  rw [hr, hattempts, Client.retry, hsend]

/-- The answer of the model is selected, though no file can have it as its content. -/
theorem select_torn :
    ((Selector.standard (some tornClient) true).select tornDiagnostic "x").1 = tornOutcome := by
  have hselect : ((Selector.standard (some tornClient) true).select tornDiagnostic "x").1 =
      .ofAnswer ((tornClient.generate (prompt tornDiagnostic "x")).1.map some) tornDiagnostic "x" :=
    rfl
  rw [hselect, generate_torn]
  rfl

/-- The temporary file is opened for what has no bytes, and is left behind empty. -/
theorem apply_torn :
    (replacement tornFile tornDiagnostic "x" tornOutcome).apply 4242 .none 7 tornFiles =
      (.error (.broken (.unwritable tornFault)), tornTree) := by rfl

/-- The work on the diagnostic comes to nothing, neither a repair nor a reason. -/
theorem World.IsTorn.attempt_eq {w : World} (h : w.IsTorn) : ∃ w', w'.tree = tornTree ∧
    attempt tornRoot tornDiagnostic (w.build 1).2 = (.error (.unwritable tornFault), w') := by
  have hpath : tornRoot.resolve? tornDiagnostic.file = some tornFile := by rfl
  have hread : (w.build 1).2.readText tornFile.text = .ok "x" := by
    rw [World.readText_eq]
    exact h.tree ▸ readText_torn
  rcases hs : (w.build 1).2.select tornDiagnostic "x" with ⟨o, w₁⟩
  have hselected := World.selected hs
  obtain rfl : o = tornOutcome := by
    rw [← select_torn, ← h.selector]
    exact (congrArg Prod.fst hselected.selector).symm
  have hneeded : (replacement tornFile tornDiagnostic "x" tornOutcome).isNeeded = true := by rfl
  have happlied : w₁.applied (replacement tornFile tornDiagnostic "x" tornOutcome) =
      (.error (.broken (.unwritable tornFault)), tornTree) := by
    rw [World.applied, hselected.process, hselected.faults, hselected.clock, hselected.tree,
      hneeded, if_pos rfl]
    have hworld : (w.build 1).2.process = w.process ∧ (w.build 1).2.faults = w.faults ∧
        (w.build 1).2.clock = w.clock ∧ (w.build 1).2.tree = w.tree := ⟨rfl, rfl, rfl, rfl⟩
    rw [hworld.1, hworld.2.1, hworld.2.2.1, hworld.2.2.2, h.process, h.faults, h.time, h.tree]
    exact apply_torn
  have hreplace := World.replace_eq w₁ (replacement tornFile tornDiagnostic "x" tornOutcome)
  rw [happlied] at hreplace
  have hchanged : tornOutcome.changed = true := by rfl
  refine ⟨(w₁.replace (replacement tornFile tornDiagnostic "x" tornOutcome)).2,
    by rw [hreplace], ?_⟩
  simp only [attempt, hpath, repairFile, hread, hs, hchanged]
  rw [hreplace]
  rfl

/-- The session breaks off at its first diagnostic. -/
theorem World.IsTorn.run_eq {w : World} (h : w.IsTorn) (maxBuilds : Int) : ∃ w',
    w'.tree = tornTree ∧ run tornRoot maxBuilds w = (.error (.unwritable tornFault), w') := by
  obtain ⟨w', htree, ha⟩ := h.attempt_eq
  refine ⟨w', htree, ?_⟩
  have hbuild : w.build 1 = (w.builder.result 1, (w.build 1).2) := rfl
  obtain ⟨n, hn⟩ : ∃ n, budget maxBuilds = n + 1 :=
    ⟨budget maxBuilds - 1, by have := one_le_budget maxBuilds; omega⟩
  rw [run, hn, rounds, hbuild]
  simp only [h.fails, h.output, read_tornLog]
  simp [isStalled, repairAll, ha]

/-- A world in which every build comes to this. -/
def torn : World where
  process := 4242
  tree := tornFiles
  clock := .always 7
  faults := .always .none
  builder := .given (.always (.ok ⟨false, tornLog, 1, false, none⟩))
  selector := .standard (some tornClient) true
  journal := []

theorem isTorn_torn : torn.IsTorn := ⟨rfl, rfl, rfl, rfl, rfl, rfl, rfl⟩

theorem run_torn : ∃ w, w.tree = tornTree ∧
    run tornRoot 3 torn = (.error (.unwritable tornFault), w) :=
  isTorn_torn.run_eq 3

end

/-! ## The report -/

/-- The results of the builds alone decide how many builds run and what the report says but
    for the books. A session breaks off exactly if it is to write a content that has no bytes,
    and never if all contents are texts. -/
theorem run_follows_builds (root : AbsolutePath) (maxBuilds : Int) (w : World) :
    (∀ why, (run root maxBuilds w).1 = .error why ↔
      ∃ e, why = .unwritable e ∧ (run root maxBuilds w).2.unwritten? = some e) ∧
    (w.selector.Textual → ∃ r, (run root maxBuilds w).1 = .ok r) ∧
    ∀ r, (run root maxBuilds w).1 = .ok r →
      (∀ k, w.builder.FirstStop (max 1 maxBuilds).toNat k →
        (run root maxBuilds w).2.builds = w.builds ++ List.range' 1 k ∧ r.attempts = k ∧
        ((w.builder.result k).success = true →
          r.success = true ∧ r.stopReason = "success" ∧ r.errors = none) ∧
        ((w.builder.result k).success = false → w.builder.found k = [] →
          r.success = false ∧ r.stopReason = "no_diagnostics" ∧
            r.errors = some (if k = 1 then [] else w.builder.found (k - 1))) ∧
        ((w.builder.result k).success = false → w.builder.found k ≠ [] →
          r.success = false ∧ r.stopReason = "stalled" ∧ r.errors = some (w.builder.found k))) ∧
      ((∀ k, ¬w.builder.FirstStop (max 1 maxBuilds).toNat k) →
        (run root maxBuilds w).2.builds = w.builds ++ List.range' 1 (max 1 maxBuilds).toNat ∧
        r.attempts = (max 1 maxBuilds).toNat ∧ r.success = false ∧
        r.stopReason = "budget_exhausted" ∧
        r.errors = some (w.builder.found (max 1 maxBuilds).toNat)) := by
  refine ⟨run_eq_error_iff root maxBuilds w, run_eq_ok_of_textual root maxBuilds, fun r hr => ?_⟩
  have hended := run_ended root maxBuilds w
  generalize run root maxBuilds w = p at hended hr ⊢
  have hlimit : budget maxBuilds = (max 1 maxBuilds).toNat := rfl
  cases hended with
  | @stopped n log w₁ h hlt hstop =>
    obtain rfl := Except.ok.inj hr
    -- No round that is over had a build that stops, so this build is the first.
    have hfirst : w.builder.FirstStop (max 1 maxBuilds).toNat (n + 1) :=
      ⟨by omega, by omega, hstop, fun i h1 hi => h.not_stops i h1 (by omega)⟩
    refine ⟨fun k hk => ?_, fun hno => absurd hfirst (hno _)⟩
    obtain rfl := hfirst.unique hk
    refine ⟨?_, by simp [report], fun hs => ?_, fun hs hd => ?_, fun hs hd => ?_⟩
    · rw [World.builds_build, h.builds, List.range'_concat, List.append_assoc]
      simp [Nat.add_comm]
    · have hv : w.builder.verdict (n + 1) = (.success, []) := by simp [Builder.verdict, hs]
      simp [hv, report, Stop.name]
    · have hv : w.builder.verdict (n + 1) = (.noDiagnostics, w.builder.found n) := by
        simp [Builder.verdict, hs, hd]
      cases n <;> simp [hv, report, Stop.name, Builder.found]
    · have hv : w.builder.verdict (n + 1) = (.stalled, w.builder.found (n + 1)) := by
        simp [Builder.verdict, hs, hd]
      simp [hv, report, Stop.name]
  | exhausted h =>
    obtain rfl := Except.ok.inj hr
    refine ⟨fun k hk => absurd hk.stops (h.not_stops k hk.one_le hk.le_limit), fun _ => ?_⟩
    exact ⟨h.builds, rfl, rfl, rfl, rfl⟩
  | broken => simp at hr

/-- A session with a model has no report if the model replies with half of a surrogate pair. -/
theorem no_report_torn :
    torn.selector = .standard (some tornClient) true ∧
      ¬∃ r, (run tornRoot 3 torn).1 = .ok r := by
  obtain ⟨w, -, h⟩ := run_torn
  refine ⟨rfl, ?_⟩
  rintro ⟨r, hr⟩
  rw [h] at hr
  simp at hr

end Mender.Session
