import Mender.Proofs.Service.Scene
import Mender.Proofs.Session.Stop
import Mender.Service.Framework

/-!
# Orders within limits

An order is checked in full before anything is done, so that an answer that refuses it leaves the
site as it was (`respond_within`). An order that is carried out keeps to its limits
(`Order.Within`): the session is on the directory that is named, it builds once at least and no
more often than it may, and no build is waited for longer than may be ordered.

However the numbers are written, it is the numbers that were read that are checked
(`Order.admitted_of_ofJson`), and these are what the job gets. All this holds in every framework
that leads orders to their route and refuses them with answers that are no success
(`Framework.Lawful`), as the one does that the service runs in (`lawful_standard`).

A session that breaks off is answered like any other failure of the service, when files have
changed already (`respond_torn`).
-/

namespace Mender

open Text

/-! ## What is taken in -/

namespace Json

variable {α β : Type}

theorem Intake.ap_eq_ok {f : Intake (α → β)} {a : Intake α} {b : β} :
    f.ap a = .ok b ↔ ∃ g x, f = .ok g ∧ a = .ok x ∧ g x = b := by
  rcases f with e | g <;> rcases a with e' | x <;> simp [ap]

theorem Intake.map_eq_ok {f : α → β} {a : Intake α} {b : β} :
    f <$> a = .ok b ↔ ∃ x, a = .ok x ∧ f x = b := by
  rcases a with e | x <;> simp [Functor.map, Except.map]

/-- What is admitted passes the test. -/
theorem of_admitted {read : Json → Intake α} {test : α → Bool} {why : String} {v : Json} {a : α}
    (h : admitted read test why v = .ok a) : test a = true := by
  rw [admitted] at h
  split at h
  · simp at h
  split at h
  · next htest => exact Except.ok.inj h ▸ htest
  · simp [flawed] at h

/-- A field passes a test that its default passes, and every value that is read for it. -/
theorem of_fieldOr {test : α → Bool} {name : String} {read : Json → Intake α} {default a : α}
    {ms : List (Loose × Json)} (hdefault : test default = true)
    (hread : ∀ v a, read v = .ok a → test a = true) (h : fieldOr name read default ms = .ok a) :
    test a = true := by
  rw [fieldOr] at h
  split at h
  · next v _ =>
    cases hv : read v with
    | error es => simp [hv, Intake.within] at h
    | ok b =>
      rw [hv] at h
      exact Except.ok.inj h ▸ hread v b hv
  · exact Except.ok.inj h ▸ hdefault

end Json

/-! ## Processes of a command -/

namespace Build

/-- Processes were asked for by this command only. -/
def AskedFor (c : Command) (p p' : Processes) : Prop :=
  ∃ calls, p'.calls = p.calls ++ calls ∧ ∀ call ∈ calls,
    call.command = c.text ∧ call.directory = c.directory ∧ ∀ n ∈ call.timeout, n = c.timeout

variable {c : Command} {p p' p'' : Processes}

theorem AskedFor.refl (c : Command) (p : Processes) : AskedFor c p p := ⟨[], by simp, nofun⟩

/-- What is asked for one after another is asked for together. -/
theorem AskedFor.trans (h : AskedFor c p p') (h' : AskedFor c p' p'') : AskedFor c p p'' := by
  obtain ⟨calls, heq, hcalls⟩ := h
  obtain ⟨calls', heq', hcalls'⟩ := h'
  refine ⟨calls ++ calls', by rw [heq', heq, List.append_assoc], ?_⟩
  exact List.forall_mem_append.2 ⟨hcalls, hcalls'⟩

theorem askedFor_of_calls_eq {timeout : Option Int} (h : ∀ n ∈ timeout, n = c.timeout)
    (heq : p'.calls = p.calls ++ [⟨c.text, c.directory, timeout⟩]) : AskedFor c p p' :=
  ⟨_, heq, List.forall_mem_singleton.2 ⟨rfl, rfl, h⟩⟩

/-- The launches of a build ask for its command only, in its directory and within its limit. -/
theorem askedFor_attempt (c : Command) (attempts : Nat) (error : String) (p : Processes) :
    AskedFor c p (c.attempt attempts error p).2 := by
  induction attempts generalizing error p with
  | zero => exact .refl c p
  | succ attempts ih =>
    simp only [Command.attempt]
    split
    · exact (askedFor_of_calls_eq (by simp) rfl).trans (ih _ _)
    · exact askedFor_of_calls_eq (by simp) rfl
    · split <;> exact askedFor_of_calls_eq (by simp) rfl

end Build

/-- A command that builds stays the same. -/
theorem Session.Builder.after_command (c : Build.Command) (retries : Int)
    (p : Build.SteadyProcesses) (n : Nat) :
    ∃ p' : Build.SteadyProcesses, (Builder.command c retries p).after n = .command c retries p' ∧
      Build.AskedFor c p.toProcesses p'.toProcesses := by
  induction n with
  | zero => exact ⟨p, rfl, .refl c _⟩
  | succ n ih =>
    obtain ⟨p', hafter, hasked⟩ := ih
    refine ⟨(c.build retries p').2, ?_, hasked.trans (Build.askedFor_attempt c _ _ _)⟩
    rw [Builder.after, hafter]
    rfl

namespace Service

open Build Session

variable {f : Framework} {settings : Settings} {client : Assistant.Client} {o : Order} {v : Json}

/-! ## Orders -/

namespace Order

/-- Whatever is written in an order, its numbers are in range once they are read. -/
theorem admitted_of_ofJson (h : ofJson f settings v = .ok o) :
    isMaxBuilds o.maxBuilds = true ∧ isTimeout o.buildTimeout = true := by
  cases v with
  | obj ms =>
    simp only [ofJson, Json.fieldsOf, Json.Intake.ap_eq_ok, Json.Intake.map_eq_ok] at h
    obtain ⟨_, _, ⟨_, _, ⟨_, _, ⟨_, maxBuilds, ⟨_, -, rfl⟩, hmaxBuilds, rfl⟩, -, rfl⟩, htimeout,
      rfl⟩, -, rfl⟩ := h
    exact ⟨Json.of_fieldOr rfl (fun _ _ => Json.of_admitted) hmaxBuilds,
      Json.of_fieldOr rfl (fun _ _ => Json.of_admitted) htimeout⟩
  | _ => simp [ofJson, Json.fieldsOf, Json.flawed] at h

/-- A truth value and a text may stand for numbers. -/
example :
    (ofJson (.standard 956) .standard
        (.obj [("max_retries", .bool true), ("timeout_seconds", .str " 1800.0")])).toOption =
      some ⟨Settings.standard.target, some 1, none, some 1800, false⟩ := by
  decide +kernel

/-- A number that is missing or zero gives way to the default. -/
theorem orDefault_cases (n : Option Int) (default : Int) :
    (n = none ∨ n = some 0) ∧ orDefault n default = default ∨ n = some (orDefault n default) := by
  rcases n with _ | n
  · exact .inl ⟨.inl rfl, rfl⟩
  by_cases hn : n = 0
  · subst hn
    exact .inl ⟨.inr rfl, rfl⟩
  · exact .inr (by simp only [orDefault])

/-- A number of builds that is ordered is what the job gets. -/
theorem maxBuilds_job {n : Int} (h : isMaxBuilds o.maxBuilds = true) (hn : o.maxBuilds = some n) :
    1 ≤ n ∧ (o.job settings client).maxBuilds = n := by
  rw [hn] at h
  have hone : 1 ≤ n := by simpa [isMaxBuilds] using h
  refine ⟨hone, ?_⟩
  rcases orDefault_cases o.maxBuilds settings.maxBuilds with ⟨hdefault, -⟩ | heq
  · simp only [hn, Option.some.injEq, reduceCtorEq, false_or] at hdefault
    omega
  · exact (Option.some.inj (hn.symm.trans heq)).symm

/-- The time for a build is in range, whether it is ordered or not. -/
theorem buildTimeout_job (client : Assistant.Client) (h : isTimeout o.buildTimeout = true)
    (hone : 1 ≤ settings.buildTimeout) (hle : settings.buildTimeout ≤ maxTimeout) :
    1 ≤ (o.job settings client).buildTimeout ∧
      (o.job settings client).buildTimeout ≤ maxTimeout := by
  have hjob : (o.job settings client).buildTimeout =
    orDefault o.buildTimeout settings.buildTimeout := rfl
  rw [hjob]
  rcases orDefault_cases o.buildTimeout settings.buildTimeout with ⟨-, heq⟩ | heq
  · rw [heq]
    exact ⟨hone, hle⟩
  · rw [heq] at h
    simpa [isTimeout] using h

/-- A report is written to the place that is set up for it, if anywhere. -/
theorem reportPath_job {path : String} (h : path ∈ (o.job settings client).reportPath) :
    path = settings.reportPath := by
  simp only [job, Option.mem_def, Option.ite_none_right_eq_some, Option.some.injEq] at h
  exact h.2.symm

end Order

/-! ## Jobs -/

/-- What is released after it was admitted leaves the registry as it was. -/
theorem release_of_admit? {r r' : Registry} {directory : String}
    (h : r.admit? directory = some r') : r'.release directory = r := by
  simp only [Registry.admit?, Option.ite_none_left_eq_some, Option.some.injEq] at h
  obtain ⟨hout, rfl⟩ := h
  rw [Registry.release, List.filter_append, Scene.filter_ne_eq_self hout]
  simp

/-- What a job that was run has done, and what it comes to. -/
structure Job.Ran (j : Job) (settings : Settings) (s : Site)
    (result : Except Repair.Breakage Report) (s' : Site) : Prop where
  registry : s'.registry = s.registry
  attempts : ∀ r, result = .ok r → 1 ≤ r.attempts ∧ r.attempts ≤ budget j.maxBuilds
  processes : AskedFor ⟨j.buildCommand, (s.home.join j.directory).text, j.buildTimeout⟩
    s.processes.toProcesses s'.processes.toProcesses
  /-- It breaks off only over a content that has no bytes or a place for the report that is
      none. -/
  reported : (Repair.Selector.standard (some j.client) settings.useModel).Textual →
    (∀ path ∈ j.reportPath, '\x00' ∉ (reportPlace path s.tree).toList) → ∃ r, result = .ok r

/-- What is filed is the report of the session. -/
theorem eq_ok_of_filed {timestamp : String} {reportPath : Option String}
    {result : Except Repair.Breakage Report} {t : FileTree} {r : Report}
    (h : (filed timestamp reportPath result t).1 = .ok r) : result = .ok r := by
  unfold filed at h
  split at h
  · exact h
  · exact h
  · exact h
  · split at h <;> simp_all

/-- A report is filed if its place is one, whether or not it can be written there. -/
theorem filed_ok {timestamp : String} {reportPath : Option String} {r : Report} {t : FileTree}
    (h : ∀ path ∈ reportPath, '\x00' ∉ (reportPlace path t).toList) :
    (filed timestamp reportPath (.ok r) t).1 = .ok r := by
  unfold filed
  split
  · rfl
  · rfl
  · rfl
  · next path _ heq =>
    obtain rfl := Except.ok.inj heq
    simp only [writeReport, if_neg (h path rfl)]

/-- A job on a directory on which no session is running is run. -/
theorem Job.run_of_free (j : Job) (settings : Settings) (timestamp : String) (s : Site)
    (hfree : (s.home.join j.directory).text ∉ s.registry.running) :
    ∃ result s' client, j.run settings timestamp s = (result.mapError .broken, s', client) ∧
      j.Ran settings s result s' := by
  obtain ⟨registry, hadmission⟩ : ∃ registry,
      s.registry.admit? (s.home.join j.directory).text = some registry :=
    ⟨_, if_neg hfree⟩
  rw [Job.run, hadmission]
  simp only
  generalize hw : j.world settings (s.home.join j.directory).text { s with registry } = w
  have htree : w.tree = s.tree := by rw [← hw]; rfl
  have hselector : w.selector = .standard (some j.client) settings.useModel := by rw [← hw]; rfl
  have hbuilder : w.builder = .command ⟨j.buildCommand, (s.home.join j.directory).text,
      j.buildTimeout⟩ settings.launchRetries s.processes := by rw [← hw]; rfl
  have htextual := run_eq_ok_of_textual (s.home.join j.directory) j.maxBuilds (w := w)
  have hended := run_ended (s.home.join j.directory) j.maxBuilds w
  rcases hrun : Session.run (s.home.join j.directory) j.maxBuilds w with ⟨result, w'⟩
  have halone := (alone_iff_run _ _ _ _ _).2 hrun
  rw [hrun] at hended htextual
  -- The builder at the end has run the command as often as the session has built.
  obtain ⟨n, hone, hle, hafter, hattempts⟩ := hended.builder (one_le_budget j.maxBuilds)
  obtain ⟨p', hp', hasked⟩ := Builder.after_command ⟨j.buildCommand, (s.home.join j.directory).text,
    j.buildTimeout⟩ settings.launchRetries s.processes n
  rw [hbuilder, hp'] at hafter
  refine ⟨(filed timestamp j.reportPath result w'.tree).1, _, _, rfl,
    release_of_admit? hadmission, fun r hr => ?_, ?_, fun hclient hplace => ?_⟩
  · rw [hattempts r (eq_ok_of_filed hr)]
    omega
  · simpa [siteAfter, hafter] using hasked
  · obtain ⟨r, rfl⟩ := htextual (hselector ▸ hclient)
    have hhome : ∀ path, reportPlace path w'.tree = reportPlace path s.tree := by
      intro path
      rw [reportPlace, reportPlace, halone.home, htree]
    exact ⟨r, filed_ok fun path hpath => hhome path ▸ hplace path hpath⟩

/-! ## Answers -/

/-- A request orders a job that can be done: it can be read, it names a directory, and no session
    is running there. -/
structure Accepted (f : Framework) (settings : Settings) (r : HttpRequest) (s : Site) (o : Order) :
    Prop where
  isRead : ∃ v, f.body r = .ok v ∧ Order.ofJson f settings v = .ok o
  isDirectory : s.tree.isDirectory o.target = true
  isFree : (s.home.join o.target).text ∉ s.registry.running

/-- The job of an order at a site. -/
def Order.jobAt (o : Order) (settings : Settings) (s : Site) : Job :=
  o.job settings (s.client settings)

/-- The limits that an order is carried out in, with a report unless the session broke off. -/
structure Order.Within (o : Order) (settings : Settings) (s : Site)
    (result : Except Repair.Breakage Report) (s' : Site) : Prop where
  /-- The sessions that are running are those that were. -/
  registry : s'.registry = s.registry
  /-- The directory of the session is the one that the order names. -/
  directory : s.tree.lookup o.target = .ok ((s.home.join o.target).names, .directory)
  /-- A number of builds that is ordered is at least 1, and it is the one that the session gets. -/
  ordered : ∀ n ∈ o.maxBuilds, 1 ≤ n ∧ (o.jobAt settings s).maxBuilds = n
  /-- There was one build at least, and there were no more than allowed. -/
  attempts : ∀ report, result = .ok report →
    1 ≤ report.attempts ∧ report.attempts ≤ budget (o.jobAt settings s).maxBuilds
  /-- Every process of the session ran its command in its directory, and was waited for within the
      limits, if those of the settings are. -/
  processes : ∃ calls, s'.processes.calls = s.processes.calls ++ calls ∧ ∀ call ∈ calls,
    call.command = (o.jobAt settings s).buildCommand ∧
      call.directory = (s.home.join o.target).text ∧
        (1 ≤ settings.buildTimeout → settings.buildTimeout ≤ maxTimeout →
          ∀ n ∈ call.timeout, 1 ≤ n ∧ n ≤ maxTimeout)

section

variable {r : HttpRequest} {s : Site}

/-- An order that is accepted is carried out, and the answer is what its job comes to. -/
theorem Accepted.order_eq (h : Accepted f settings r s o) (timestamp : String) :
    ∃ (result : Except Repair.Breakage Report) (s' : Site) (client : Assistant.Client),
      (o.jobAt settings s).run settings timestamp s = (result.mapError .broken, s', client) ∧
      order f settings timestamp r s =
        (answer (result.mapError .broken), { s' with replies := client.replies }) ∧
      o.Within settings s result { s' with replies := client.replies } ∧
      ((Repair.Selector.standard (some (s.client settings)) settings.useModel).Textual →
        '\x00' ∉ (reportPlace settings.reportPath s.tree).toList →
        ∃ report, result = .ok report) := by
  obtain ⟨⟨v, hv, ho⟩, hdirectory, hfree⟩ := h
  obtain ⟨hmaxBuilds, htimeout⟩ := Order.admitted_of_ofJson ho
  obtain ⟨result, s', client, hrun, hran⟩ :=
    (o.jobAt settings s).run_of_free settings timestamp s hfree
  have horder : order f settings timestamp r s =
      (answer (result.mapError .broken), { s' with replies := client.replies }) := by
    rw [Order.jobAt] at hrun
    simp [order, hv, ho, hdirectory, hrun]
  refine ⟨result, s', client, hrun, horder, ⟨hran.registry, ?_,
    fun n hn => Order.maxBuilds_job hmaxBuilds hn, hran.attempts, ?_⟩,
    fun hclient hplace => hran.reported hclient fun path hpath => ?_⟩
  · rw [FileTree.isDirectory] at hdirectory
    split at hdirectory
    · next l hlookup =>
      rw [hlookup, FileTree.eq_join_of_find (FileTree.lookup_eq_ok.1 hlookup).1]
      rfl
    · simp at hdirectory
  · obtain ⟨calls, heq, hcalls⟩ := hran.processes
    refine ⟨calls, heq, fun call hcall => ?_⟩
    obtain ⟨hcommand, hplace, hlimit⟩ := hcalls call hcall
    refine ⟨hcommand, hplace, fun hone hle n hn => ?_⟩
    rw [hlimit n hn]
    exact Order.buildTimeout_job (s.client settings) htimeout hone hle
  · rwa [Order.reportPath_job hpath]

/-- An order that is not accepted does nothing. -/
theorem order_of_not_accepted (hf : f.Lawful) (h : ∀ o, ¬Accepted f settings r s o)
    (timestamp : String) :
    ∃ response, order f settings timestamp r s = (response, s) ∧ response.status ≠ 200 := by
  cases hv : f.body r with
  | error response =>
    simp only [order, hv]
    exact ⟨response, rfl, hf.body r response hv⟩
  | ok v =>
    cases ho : Order.ofJson f settings v with
    | error issues =>
      simp only [order, hv, ho]
      exact ⟨_, rfl, hf.refusal issues⟩
    | ok o =>
      cases hdirectory : s.tree.isDirectory o.target with
      | false =>
        simp only [order, hv, ho, hdirectory]
        exact ⟨_, rfl, by simp [HttpResponse.detail]⟩
      | true =>
        -- All that can be amiss with such an order is that a session is running there.
        have hbusy : (s.home.join o.target).text ∈ s.registry.running := by
          by_contra hfree
          exact h o ⟨⟨v, hv, ho⟩, hdirectory, hfree⟩
        have hrun := Scene.run_of_busy (o.job settings (s.client settings)) settings timestamp hbusy
        simp only [order, hv, ho, hdirectory, hrun]
        exact ⟨_, rfl, by simp [answer, HttpResponse.detail]⟩

end

/-! ## The framework -/

theorem status_unprocessable (faults : List Json) : (unprocessable faults).status ≠ 200 := by
  rw [unprocessable]
  split <;> simp [HttpResponse.detail, HttpResponse.failure]

theorem status_responseToBodyError (e : Json.BodyError) : (responseToBodyError e).status ≠ 200 := by
  fun_cases responseToBodyError e with
  | case1 => exact status_unprocessable _
  | _ => simp [HttpResponse.detail]

/-- A body without value is never answered with success. -/
theorem status_of_bodyValue {depth : Nat} {r : HttpRequest} {response : HttpResponse}
    (h : bodyValue depth r = .error response) : response.status ≠ 200 := by
  rw [bodyValue] at h
  split at h
  · exact Except.error.inj h ▸ status_unprocessable _
  split at h
  · cases hbody : Json.ofBody depth r.body with
    | error e =>
      rw [hbody] at h
      exact Except.error.inj h ▸ status_responseToBodyError e
    | ok v =>
      rw [hbody] at h
      exact nomatch h
  · simp at h

/-- The path of a route has no escapes. -/
theorem pathOf_path (route : Route) : pathOf route.path = .ok route.path.toList := by
  have hpath : (pathOf route.path).toOption = some route.path.toList := by
    cases route <;> decide +kernel
  cases h : pathOf route.path with
  | error e => simp [h, Except.toOption] at hpath
  | ok path =>
    rw [h] at hpath
    exact congrArg Except.ok (Option.some.inj hpath)

/-- Whatever the depth is to which bodies are read. -/
theorem lawful_standard (depth : Nat) : (Framework.standard depth).Lawful where
  dispatch route method hmethod contentType body := by
    have hroute : Route.ofPath? route.path.toList = some route := by
      cases route <;> decide +kernel
    have hcontains : route.methods.contains method = true := by simpa using hmethod
    simp only [Framework.standard, HttpRequest.dispatch, pathOf_path, Except.map, dispatchAt,
      hroute, hcontains, if_true]
  body r response h := status_of_bodyValue h
  refusal issues := status_unprocessable _

/-! ## What is posted -/

/-- What is posted to the route of jobs is an order. -/
theorem respond_compileFix (hf : f.Lawful) (settings : Settings) (timestamp : String)
    (contentType : Option String) (body : Bytes) (s : Site) :
    respond f settings timestamp ⟨"POST", Route.compileFix.path, contentType, body⟩ s =
      .ok (order f settings timestamp ⟨"POST", Route.compileFix.path, contentType, body⟩ s) := by
  have hdispatch := hf.dispatch .compileFix "POST" (by decide) contentType body
  have hhead : "POST" ≠ "HEAD" := by decide
  rw [respond, hdispatch]
  simp only [Except.map, Route.respond, if_neg hhead]

/-- Whatever is posted, an answer that refuses it leaves the site as it was, and is given only
    where the order cannot be accepted; otherwise the session is run within the limits, and the
    answer is its report. If the session breaks off, though, the answer is a failure. This takes
    a content without bytes that a model replies with, or a place for the report that is none. -/
theorem respond_within (hf : f.Lawful) (settings : Settings) (timestamp : String)
    (contentType : Option String) (body : Bytes) (s : Site) :
    let r : HttpRequest := ⟨"POST", Route.compileFix.path, contentType, body⟩
    ∃ response s', respond f settings timestamp r s = .ok (response, s') ∧
      (response.status = 200 → ∃ o report s₁ client, Accepted f settings r s o ∧
        (o.jobAt settings s).run settings timestamp s = (.ok report, s₁, client) ∧
          s' = { s₁ with replies := client.replies } ∧
          response.content = .json report.toJson ∧ o.Within settings s (.ok report) s') ∧
      (response.status ≠ 200 → (s' = s ∧ ∀ o, ¬Accepted f settings r s o) ∨
        ∃ o why s₁ client, Accepted f settings r s o ∧
          (o.jobAt settings s).run settings timestamp s = (.error (.broken why), s₁, client) ∧
          s' = { s₁ with replies := client.replies } ∧
          response.status = 500 ∧ o.Within settings s (.error why) s') ∧
      ((Repair.Selector.standard (some (s.client settings)) settings.useModel).Textual →
        '\x00' ∉ (reportPlace settings.reportPath s.tree).toList →
        response.status ≠ 200 → s' = s ∧ ∀ o, ¬Accepted f settings r s o) := by
  intro r
  rw [respond_compileFix hf]
  by_cases h : ∃ o, Accepted f settings r s o
  · obtain ⟨o, ho⟩ := h
    obtain ⟨result, s₁, client, hrun, horder, hwithin, hreported⟩ := ho.order_eq timestamp
    rw [horder]
    refine ⟨_, _, rfl, ?_⟩
    cases result with
    | ok report =>
      refine ⟨fun _ => ⟨o, report, s₁, client, ho, hrun, rfl, rfl, hwithin⟩,
        fun hstatus => absurd rfl hstatus, fun _ _ hstatus => absurd rfl hstatus⟩
    | error why =>
      refine ⟨fun hstatus => ?_,
        fun _ => .inr ⟨o, why, s₁, client, ho, hrun, rfl, rfl, hwithin⟩,
        fun hclient hplace _ => ?_⟩
      · exact absurd hstatus (by change (500 : Nat) ≠ 200; decide)
      · obtain ⟨report, hreport⟩ := hreported hclient hplace
        exact absurd hreport nofun
  · obtain ⟨response, horder, hstatus⟩ := order_of_not_accepted hf (not_exists.1 h) timestamp
    rw [horder]
    exact ⟨response, s, rfl, fun hok => absurd hok hstatus, fun _ => .inl ⟨rfl, not_exists.1 h⟩,
      fun _ _ _ => ⟨rfl, not_exists.1 h⟩⟩

/-! ## Two orders -/

/-- An order that names a directory. -/
def orderText : List Char := "\x7b\"target_dir\":\"/p\"\x7d".toList

/-- The order as it is posted. -/
def orderRequest : HttpRequest :=
  ⟨"POST", Route.compileFix.path, some "application/json", Utf8.encode orderText⟩

/-- What is ordered. -/
def orderOfText : Order := ⟨"/p", none, none, none, false⟩

/-- A site with the directory, where every build ends with an output and an exit code, and every
    request to a model with a reply. -/
def siteOf (output : String) (exitCode : Int) (reply : Assistant.Reply) : Site where
  process := 4242
  tree := tornFiles
  clock := .always 7
  processes := .ofScript (.always ⟨.ended (Utf8.encode output.toList) [] exitCode, rfl⟩)
  wire := .standard 975
  replies := .always reply
  registry := .empty

/-- The order is accepted, whatever its session comes to. -/
theorem accepted_orderRequest (settings : Settings) (output : String) (exitCode : Int)
    (reply : Assistant.Reply) :
    Accepted (.standard 956) settings orderRequest (siteOf output exitCode reply) orderOfText := by
  have hread : Json.read 956 (orderText.map .char) = .ok (.obj [("target_dir", .str "/p")]) := by
    cbv
  have hbody : (Framework.standard 956).body orderRequest =
      .ok (.obj [("target_dir", .str "/p")]) := by
    have hjson : announcesJson "application/json" = true := by decide +kernel
    have hne : Utf8.encode orderText ≠ [] := by decide +kernel
    simp only [Framework.standard, bodyValue, orderRequest, hne, if_false, Option.any, hjson,
      if_true, Json.ofBody_encode rfl hread]
    rfl
  exact ⟨⟨_, hbody, rfl⟩, rfl, List.not_mem_nil⟩

/-- Where builds pass, the order is carried out. -/
theorem respond_within_passing :
    (Framework.standard 956).Lawful ∧ ∃ response s',
      respond (.standard 956) .standard "now" orderRequest (siteOf "" 0 .timeout) =
          .ok (response, s') ∧ response.status = 200 ∧ s'.registry = .empty := by
  obtain ⟨response, s', hresponse, hdone, -, hreported⟩ := respond_within (lawful_standard 956)
    .standard "now" (some "application/json") (Utf8.encode orderText) (siteOf "" 0 .timeout)
  have htextual : (Repair.Selector.standard (some ((siteOf "" 0 .timeout).client .standard))
      Settings.standard.useModel).Textual := by
    rintro c ⟨⟩ i status body text h
    simp [siteOf, Site.client, Assistant.Client.new, Script.always] at h
  have hstatus : response.status = 200 := by
    by_contra hstatus
    exact (hreported htextual (by decide +kernel) hstatus).2 _ (accepted_orderRequest _ _ _ _)
  obtain ⟨o, report, s₁, client, -, -, -, -, hwithin⟩ := hdone hstatus
  exact ⟨lawful_standard 956, response, s', hresponse, hstatus, hwithin.registry⟩

/-- The site of a session that breaks off. -/
def tornSite : Site := siteOf tornLog 1 (.response 200 tornReply)

/-- The job breaks off, and leaves the temporary file behind. -/
theorem run_tornSite : ∃ s' client,
    (orderOfText.jobAt tornSettings tornSite).run tornSettings "now" tornSite =
        (.error (.broken (.unwritable tornFault)), s', client) ∧ s'.tree = tornTree := by
  have hadmission : tornSite.registry.admit? (tornSite.home.join "/p").text = some ⟨["/p"]⟩ := rfl
  have htorn : ((orderOfText.jobAt tornSettings tornSite).world tornSettings "/p"
      { tornSite with registry := ⟨["/p"]⟩ }).IsTorn :=
    ⟨rfl, rfl, rfl, rfl, rfl, by decide +kernel, rfl⟩
  obtain ⟨w', htree, hrun⟩ := htorn.run_eq 3
  rw [Job.run, show (orderOfText.jobAt tornSettings tornSite).directory = "/p" from rfl, hadmission]
  simp only
  rw [show tornSite.home.join "/p" = tornRoot from rfl,
    show (orderOfText.jobAt tornSettings tornSite).maxBuilds = 3 from rfl,
    show tornRoot.text = "/p" from rfl, hrun]
  exact ⟨_, _, rfl, htree⟩

/-- Where the session breaks off, the answer to the order is a failure, though files have
    changed. -/
theorem respond_torn : ∃ response s',
    respond (.standard 956) tornSettings "now" orderRequest tornSite = .ok (response, s') ∧
      response.status = 500 ∧ tornSite.tree.get? [['p'], "a.ts.tmp.4242".toList] = none ∧
      s'.tree.get? [['p'], "a.ts.tmp.4242".toList] = some (.file [] FileTree.newMode) := by
  have haccepted := accepted_orderRequest tornSettings tornLog 1 (.response 200 tornReply)
  obtain ⟨result, s', client, hrun, horder, -, -⟩ := haccepted.order_eq "now"
  obtain ⟨s'', client', hrun', htree⟩ := run_tornSite
  obtain ⟨hresult, hleft⟩ := Prod.mk.inj (hrun.symm.trans hrun')
  obtain ⟨rfl, rfl⟩ := Prod.mk.inj hleft
  rw [hresult] at horder
  have hrespond : respond (.standard 956) tornSettings "now" orderRequest tornSite =
      .ok (.failure, { s' with replies := client.replies }) :=
    (respond_compileFix (lawful_standard 956) _ _ _ _ _).trans (congrArg Except.ok horder)
  have hget : s'.tree.get? [['p'], "a.ts.tmp.4242".toList] = some (.file [] FileTree.newMode) := by
    rw [htree]
    rfl
  exact ⟨_, _, hrespond, rfl, rfl, hget⟩

end Service

end Mender
