import TestImpact.Proofs.Commands.Options
import TestImpact.Proofs.Commands.Secrecy
import TestImpact.Proofs.Masking
import TestImpact.Proofs.Paths.Texts

/-!
# Showing a run and running it

`tia args` shows what `tia run` does. Given the same options, both commands come to the same plan or
fail by the same error. The run hands the plan over to its launcher, and it ends with the exit code
that the launcher ended with.
-/

namespace TestImpact.Proofs
open Files CommandLine

variable {s : Situation} {verbose : Bool} {o o' : LaunchOptions} {desk mid later : Desk}
  {journal : Journal} {config : Config} {setting : Setting} {request : LaunchRequest} {plan : Plan}
  {call : LauncherCall} {fs : Files} {read read' : ReadWords} {words words' : List String}

/-! ### The plan of a command -/

/-- The plan that options come to, with the desk on which it is shown, or what is in its way. -/
def planFor (s : Situation) (verbose : Bool) (o : LaunchOptions) (desk : Desk) :
    Desk × Attempt (Config × Plan) :=
  match prepare s verbose o desk with
  | (_, mid, .error f) => (mid, .error f)
  | (_, mid, .ok config) =>
    match o.request mid.files s.directory with
    | .error f => (mid, .error (.fault f))
    | .ok request =>
      (mid, (Plan.build config ⟨some s.directory, s.env, s.reader.digitLimit⟩ request).map
        fun plan => (config, plan))

/-- Arguments as they are to be shown: hidden behind the flag of the token, and nowhere else. -/
def shownArguments (args : List String) : List String :=
  args.mapIdx fun i arg =>
    if 0 < i ∧ args[i - 1]? = some "--access-token" then "****" else arg

lemma mask_eq_shown (args : List String) : Arguments.mask args = shownArguments args := by
  rw [mask_eq]
  refine List.ext_getElem? fun i => ?_
  rw [getElem?_maskAfter, shownArguments, List.getElem?_mapIdx]
  cases i with
  | zero => simp
  | succ i =>
    simp only [List.getElem?_cons_succ, Nat.succ_pos, Nat.add_sub_cancel, true_and]
    split
    · rfl
    · exact Option.map_id'.symm

/-- What is printed for a plan: its directive and its arguments, with the secret hidden. -/
def planText (asJson : Bool) (plan : Plan) : String :=
  if asJson then
    Json.write (.indented 2) (.ofFields
      [("directive", .ofOption plan.directive),
       ("arguments", .ofTexts (shownArguments plan.arguments)),
       ("working_dir", plan.workingDir.toText), ("artifact", plan.artifact.toText)]) ++ "\n"
  else
    String.join ((plan.directive.toList ++ shownArguments plan.arguments).map (· ++ "\n"))

lemma ne_empty_of_directive {limit : Number.DigitLimit} {agent : Agent}
    {cwd workingDir artifact : Path} {directive : String}
    (h : agent.directive limit cwd workingDir artifact = .ok (some directive)) : directive ≠ "" := by
  cases agent with
  | running url => simp [Agent.directive] at h
  | attached jar port includes excludes dumpDir =>
    obtain ⟨n, -, h⟩ := bind_eq_ok.mp h
    cases jar with
    | none => simp at h
    | some jar =>
      obtain rfl := Option.some.inj (Except.ok.inj h)
      intro hempty
      have hlength := congrArg String.length hempty
      simp [String.length_append, Agent.directiveLead] at hlength

lemma describePlan_eq {around : Surroundings} (h : Planned config around request plan)
    (asJson : Bool) : describePlan asJson plan = planText asJson plan := by
  have hdirective : plan.directive.filter (· ≠ "") = plan.directive := by
    cases hd : plan.directive with
    | none => rfl
    | some directive =>
      have hbuilt := h.directive
      rw [hd] at hbuilt
      simp [ne_empty_of_directive hbuilt]
  rw [describePlan, planText, hdirective, mask_eq_shown]

lemma args_outcome (verbose : Bool) (hread : readWords Command.args.spec true words = .ok read)
    (hchecked : checkWords desk.files s.location Command.args.spec read = .ok ())
    (hrest : read.rest = []) :
    runCommand s verbose .args words desk =
      match planFor s verbose (.ofWords read) desk with
      | (mid, .ok (_, plan)) => ⟨mid.write .output (planText (LaunchOptions.ofWords read).asJson plan),
          .exit 0, []⟩
      | (mid, .error f) => fail mid [] f := by
  rw [runCommand, hread]
  dsimp only
  rw [hchecked, hrest, planFor]
  dsimp only [List.isEmpty_nil, Bool.not_true, Bool.false_eq_true, if_false]
  generalize prepare s verbose (.ofWords read) desk = prepared
  obtain ⟨journal, mid, f | config⟩ := prepared
  · rfl
  dsimp only [Bool.false_eq_true, if_false, showPlan]
  cases (LaunchOptions.ofWords read).request mid.files s.directory with
  | error f => rfl
  | ok request =>
    dsimp only
    cases hbuild : Plan.build config ⟨some s.directory, s.env, s.reader.digitLimit⟩ request with
    | error f => rfl
    | ok plan =>
      simp only [Except.map, describePlan_eq (planned_of_build hbuild)]
      rfl

/-! ### The directory of the program -/

/-- A program that stands in a directory can tell its path. -/
lemma pathOf_hold {p : Path} (hanchor : p.anchor = .root)
    (hdir : fs.get? p.segments.reverse = some .dir) :
    fs.pathOf (fs.hold p.segments.reverse) = some p := by
  have hstands : fs.directory? (fs.hold p.segments.reverse) = some p.segments.reverse := by
    have hat : fs.isDirAt (fs.hold p.segments.reverse) p.segments.reverse = true := by
      simp [isDirAt, hdir, hold]
    exact if_pos hat
  have htext : pathText p.segments.reverse = p.toText := by
    rw [Path.toText, if_neg (by simp [hanchor]), pathText, List.reverse_reverse, hanchor]
    rfl
  rw [pathOf, hstands, Option.map_some, htext, ofText_toText]

lemma openSinks_keepsDirs (cwd : Location) (logging : LoggingConfig) (outputs : List LogOutput)
    (fs : Files) : KeepsDirs fs (Journal.openSinks cwd logging outputs fs).2.1 := by
  have htarget : ∀ destination fs, KeepsDirs fs (Journal.openTarget cwd destination fs).1 := by
    intro destination fs
    unfold Journal.openTarget
    split
    · exact .refl fs
    · exact .refl fs
    dsimp only
    have habove := ensureDir_keepsDirs fs cwd (Path.ofText destination).parent
    split
    · rename_i mid f h
      rwa [h] at habove
    · rename_i mid h
      rw [h] at habove
      split
      · exact habove
      · rename_i later happend
        have hkept := habove.trans (append_keepsDirs happend)
        split <;> exact hkept
  induction outputs generalizing fs with
  | nil => exact .refl fs
  | cons o outputs ih =>
    have hfirst := htarget o.destination fs
    rw [Journal.openSinks]
    split
    · rename_i mid f h
      rwa [h] at hfirst
    · rename_i mid target h
      rw [h] at hfirst
      exact hfirst.trans (ih mid)

lemma writeFiles_keepsDirs (lines : List (LogTarget × String)) (fs : Files) :
    KeepsDirs fs (Journal.writeFiles lines fs) := by
  induction lines generalizing fs with
  | nil => exact .refl fs
  | cons entry lines ih =>
    obtain ⟨target, line⟩ := entry
    cases target with
    | stream _ => exact ih fs
    | file held => exact (extend_keepsDirs fs held _).trans (ih _)

/-- Whatever the journal writes to, directories stay. -/
lemma prepare_keepsDirs (s : Situation) (verbose : Bool) (o : LaunchOptions) (desk : Desk) :
    KeepsDirs desk.files (prepare s verbose o desk).2.1.files := by
  unfold prepare
  dsimp only
  split
  · exact .refl _
  rename_i config _
  have hopened := openSinks_keepsDirs s.location (loggingOf verbose config)
    (loggingOf verbose config).outputs desk.files
  dsimp only [Journal.configure]
  split
  · exact hopened
  · exact hopened.trans (writeFiles_keepsDirs _ _)

/-! ### Options that say the same -/

lemma SameOptions.prepare_eq (h : SameOptions read read') (s : Situation) (verbose : Bool)
    (desk : Desk) :
    prepare s verbose (.ofWords read') desk = prepare s verbose (.ofWords read) desk := by
  have hfile : (LaunchOptions.ofWords read).configFile = (LaunchOptions.ofWords read').configFile :=
    (congrArg LaunchOptions.configFile h.ofWords_eq :)
  rw [prepare, ← hfile, prepare]

/-- The requests are the same but for the time limit. -/
lemma SameOptions.request_eq (h : SameOptions read read') (files : Files) (directory : Path) :
    (LaunchOptions.ofWords read).request files directory =
      ((LaunchOptions.ofWords read').request files directory).map fun request =>
        { request with timeout := (LaunchOptions.ofWords read).timeout } := by
  rw [h.ofWords_eq]
  generalize LaunchOptions.ofWords read' = o
  simp only [LaunchOptions.request]
  cases files.resolve directory.segments.reverse (o.workingDir.getD directory) with
  | error f => rfl
  | ok workingDir => cases files.resolve directory.segments.reverse o.buildDir <;> rfl

/-! ### Calls of the launcher -/

lemma call_of_one {trace : List TraceEntry} {call' : LauncherCall} {state state' : LaunchState}
    (hone : callsOf trace = 1) (h : .call call state ∈ trace) (h' : .call call' state' ∈ trace) :
    call' = call ∧ state' = state := by
  rw [callsOf, List.countP_eq_length_filter, List.length_eq_one_iff] at hone
  obtain ⟨entry, hentry⟩ := hone
  have hmem : ∀ {c : LauncherCall} {st : LaunchState}, .call c st ∈ trace → .call c st = entry := by
    intro c st hc
    have hfiltered : TraceEntry.call c st ∈ trace.filter TraceEntry.isCall :=
      List.mem_filter.mpr ⟨hc, rfl⟩
    rwa [hentry, List.mem_singleton] at hfiltered
  simpa using (hmem h').trans (hmem h).symm

lemma exists_call {trace : List TraceEntry} (h : 0 < callsOf trace) :
    ∃ call state, .call call state ∈ trace := by
  obtain ⟨entry, hmem, hcall⟩ := List.countP_pos_iff.mp h
  cases entry with
  | call call state => exact ⟨call, state, hmem⟩
  | record r => simp [TraceEntry.isCall] at hcall
  | reply answer state => simp [TraceEntry.isCall] at hcall

/-- A launcher that finds the records before its call in the log files. -/
def loggedLauncher (s : Situation) (journal : Journal) (setting : Setting) (call : LauncherCall)
    (session : Session) : Session × LauncherEnd :=
  (s.launcher setting.standing call).play setting
    { session with
      files := Journal.writeFiles (linesOf s journal session.trace) session.files }

lemma launchLogged_session (s : Situation) (journal : Journal) (config : Config)
    (request : LaunchRequest) (desk : Desk) :
    (launchLogged s journal config request desk).1 =
        ((Session.start desk.files).launchBy (s.setting config desk.files)
          (loggedLauncher s journal (s.setting config desk.files)) request).1 ∧
      (launchLogged s journal config request desk).2.2 =
        ((Session.start desk.files).launchBy (s.setting config desk.files)
          (loggedLauncher s journal (s.setting config desk.files)) request).2 :=
  ⟨rfl, rfl⟩

lemma loggedLauncher_keeps {t u : Session} {ending : LauncherEnd} (h : InFlight t t)
    (hplay : loggedLauncher s journal setting call t = (u, ending)) :
    InFlight t u ∧ t.trace <+: u.trace := by
  have hlogged : InFlight t { t with
      files := Journal.writeFiles (linesOf s journal t.trace) t.files } :=
    ⟨h.busy, h.state, rfl, rfl, rfl, rfl⟩
  refine ⟨inFlight_play hlogged hplay, ?_⟩
  exact trace_reached (s := { t with
    files := Journal.writeFiles (linesOf s journal t.trace) t.files })
    ⟨h.busy, h.state, rfl, rfl, rfl, rfl⟩ (reached_play _ _ hplay)

/-- The trace of a launch that comes to its launcher holds one call, which is that of the launcher, and
all of its records are under the id of the launch. -/
lemma trace_of_handover {t : Session} (hhand : handover? setting request (Session.start fs) =
      some (plan, call, t)) (s : Situation) (journal : Journal) :
    .call call .running ∈ ((Session.start fs).launchBy setting
        (loggedLauncher s journal setting) request).1.trace ∧
      callsOf ((Session.start fs).launchBy setting
        (loggedLauncher s journal setting) request).1.trace = 1 ∧
      ∀ r ∈ recordsOf ((Session.start fs).launchBy setting
        (loggedLauncher s journal setting) request).1.trace, r.runId = some (setting.runIds 0) := by
  obtain ⟨-, happroach⟩ := handover_approach hhand
  obtain ⟨-, -, -, -, v, hlogs, rfl⟩ := approach_ok happroach
  cases hplay : loggedLauncher s journal setting call (v.note (.call call .running)) with
  | mk u ending =>
    obtain ⟨hflight, hprefix⟩ := loggedLauncher_keeps (inFlight_handover hhand).1 hplay
    have hconclude := conclude_logs setting request plan u ending
    rw [launchBy_of_handover hhand hplay]
    refine ⟨?_, ?_, ?_⟩
    · have hcalled : TraceEntry.call call .running ∈ u.trace :=
        hprefix.subset (List.mem_append_right _ (List.mem_singleton.mpr rfl))
      obtain ⟨records, htrace, -⟩ := hconclude.trace
      obtain ⟨more, hmore⟩ := finish_trace (u.conclude setting request plan ending)
      rw [hmore, htrace]
      exact List.mem_append_left _ (List.mem_append_left _ hcalled)
    · rw [finish_calls, hconclude.calls, hflight.calls, callsOf_note_call, hlogs.calls]
      rfl
    · have hbegun : LogsUnder (setting.runIds 0) ((Session.start fs).begin setting) :=
        ⟨rfl, by simp [Session.begin, Session.start, recordsOf]⟩
      have hcalled := hlogs.logsUnder hbegun
      have hended : LogsUnder (setting.runIds 0) u := by
        refine ⟨hflight.runId.trans hcalled.1, fun r hr => ?_⟩
        rw [hflight.records, recordsOf_note_call] at hr
        exact hcalled.2 r hr
      have hconcluded := hconclude.logsUnder hended
      generalize u.conclude setting request plan ending = outcome at hconcluded ⊢
      obtain ⟨w, f | result⟩ := outcome
      · exact ((fail_tells w f).logsUnder hconcluded).2
      · exact hconcluded.2

/-- A call in the trace of a launch was handed over. -/
lemma handover_of_call {state : LaunchState} (hcall : .call call state ∈
      ((Session.start fs).launchBy setting (loggedLauncher s journal setting) request).1.trace) :
    ∃ plan t, handover? setting request (Session.start fs) = some (plan, call, t) := by
  rcases handover_or_stop (s := Session.start fs) rfl setting request with
    ⟨plan, call', t, hhand⟩ | ⟨t, f, happroach, -⟩
  · obtain ⟨hmem, hone, -⟩ := trace_of_handover hhand s journal
    obtain ⟨rfl, -⟩ := call_of_one hone hmem hcall
    exact ⟨plan, t, hhand⟩
  · rw [launchBy_of_stop rfl happroach] at hcall
    have hnone : callsOf (Session.finish (t, .error f)).1.trace = 0 := by
      rw [finish_calls, (approach_tells happroach).calls]
      rfl
    have hsome : 0 < callsOf (Session.finish (t, .error f)).1.trace :=
      List.countP_pos_iff.mpr ⟨_, hcall, rfl⟩
    omega

/-- A launch under a command that has no plan ends with what is in the way of its plan. -/
lemma launchLogged_of_build {f : Failure}
    (h : Plan.build config ((s.setting config desk.files).around desk.files) request = .error f)
    (journal : Journal) :
    (launchLogged s journal config request desk).2.2 = .error f ∧
      callsOf (launchLogged s journal config request desk).1.trace = 0 := by
  have hbuild : Plan.build (s.setting config desk.files).config ((s.setting config desk.files).around
      ((Session.start desk.files).begin (s.setting config desk.files)).files) request =
        .error f := h
  obtain ⟨t, happroach⟩ := approach_of_build hbuild (s.runIds 0)
  obtain ⟨hsession, hresult⟩ := launchLogged_session s journal config request desk
  rw [hsession, hresult, launchBy_of_stop rfl happroach, finish_calls,
    (approach_tells happroach).calls]
  exact ⟨rfl, rfl⟩

/-- A launch under a command that returns ends with the exit code of its launcher. -/
lemma launchLogged_returns {result : LaunchResult}
    (h : (launchLogged s journal config request desk).2.2 = .ok result) :
    ∃ call t u, .call call .running ∈ (launchLogged s journal config request desk).1.trace ∧
      (s.launcher (desk.files.hold s.location) call).play (s.setting config desk.files) t =
        (u, .exit result.exitCode) := by
  obtain ⟨hsession, hresult⟩ := launchLogged_session s journal config request desk
  rw [hresult] at h
  rw [hsession]
  rcases handover_or_stop (s := Session.start desk.files) rfl (s.setting config desk.files) request
    with ⟨plan, call, t, hhand⟩ | ⟨t, f, happroach, -⟩
  · cases hplay : loggedLauncher s journal (s.setting config desk.files) call t with
    | mk u ending =>
      have hreturned := h
      rw [launchBy_of_handover hhand hplay, finish_result] at hreturned
      obtain ⟨-, rfl, -⟩ := conclude_ok (Prod.ext rfl hreturned)
      exact ⟨call, _, u, (trace_of_handover hhand s journal).1, hplay⟩
  · rw [launchBy_of_stop rfl happroach] at h
    simp [Session.finish] at h

/-! ### The run -/

lemma run_outcome (verbose : Bool) (hread : readWords Command.run.spec true words = .ok read)
    (hchecked : checkWords desk.files s.location Command.run.spec read = .ok ())
    (hrest : read.rest = []) :
    runCommand s verbose .run words desk =
      match prepare s verbose (.ofWords read) desk with
      | (_, mid, .error f) => fail mid [] f
      | (journal, mid, .ok config) => runLaunch s journal config (.ofWords read) mid := by
  rw [runCommand, hread]
  dsimp only
  rw [hchecked, hrest]
  rfl

lemma stop_trace (c : CommandSpec) (desk : Desk) (e : Stop) : (stop c desk e).trace = [] := by
  cases e <;> rfl

lemma fail_trace (desk : Desk) (trace : List TraceEntry) (f : Failure) :
    (fail desk trace f).trace = trace := by
  cases f with
  | fault g => cases g <;> rfl
  | _ => rfl

lemma runLaunch_trace (hrequest : o.request desk.files s.directory = .ok request) :
    (runLaunch s journal config o desk).trace =
      (launchLogged s journal config request desk).1.trace := by
  rw [runLaunch, hrequest]
  dsimp only
  obtain ⟨session, later, f | result⟩ := launchLogged s journal config request desk
  · exact fail_trace _ _ _
  · rfl

lemma runLaunch_error (hrequest : o.request desk.files s.directory = .ok request) {f : Failure}
    (hlaunch : (launchLogged s journal config request desk).2.2 = .error f) :
    ∃ later, runLaunch s journal config o desk =
      fail later (launchLogged s journal config request desk).1.trace f := by
  rw [runLaunch, hrequest]
  dsimp only
  generalize launchLogged s journal config request desk = launched at hlaunch ⊢
  obtain ⟨session, later, result⟩ := launched
  obtain rfl : result = .error f := hlaunch
  exact ⟨later, rfl⟩

lemma runLaunch_returns (hrequest : o.request desk.files s.directory = .ok request)
    {result : LaunchResult}
    (hlaunch : (launchLogged s journal config request desk).2.2 = .ok result) :
    (runLaunch s journal config o desk).ending = .exit result.exitCode := by
  rw [runLaunch, hrequest]
  dsimp only
  generalize launchLogged s journal config request desk = launched at hlaunch ⊢
  obtain ⟨session, later, outcome⟩ := launched
  obtain rfl : outcome = .ok result := hlaunch
  rfl

/-- A launch under a command is planned around the directory of the program. -/
lemma around_setting (hroot : s.directory.anchor = .root)
    (hdir : fs.get? s.location = some .dir) (config : Config) :
    (s.setting config fs).around fs = ⟨some s.directory, s.env, s.reader.digitLimit⟩ := by
  have hpath : fs.pathOf (fs.hold s.location) = some s.directory := pathOf_hold hroot hdir
  rw [Setting.around, Situation.setting]
  dsimp only
  rw [hpath]

/-- A run in whose trace something happened had its words in order. -/
lemma inOrder_of_trace {entry : TraceEntry} (hread : readWords Command.run.spec true words = .ok read)
    (hentry : entry ∈ (runCommand s verbose .run words desk).trace) :
    checkWords desk.files s.location Command.run.spec read = .ok () ∧ read.rest = [] := by
  rw [runCommand, hread] at hentry
  dsimp only at hentry
  cases hchecked : checkWords desk.files s.location Command.run.spec read with
  | error e =>
    rw [hchecked] at hentry
    simp [stop_trace] at hentry
  | ok _ =>
    refine ⟨rfl, ?_⟩
    cases hrest : read.rest with
    | nil => rfl
    | cons word rest =>
      rw [hchecked, hrest] at hentry
      simp [reportProblem] at hentry

/-- A call that starts the executor as a plan says: its environment is the inherited one with the
variables of the configuration on top, and the two marks on top of these. -/
structure StartsPlan (s : Situation) (config : Config) (plan : Plan) (call : LauncherCall) :
    Prop where
  command : call.command = plan.command
  directory : call.directory = plan.workingDir
  runId : call.env.get? "TIALAUNCH_RUN_ID" = some (s.runIds 0)
  execution : call.env.get? "TIALAUNCH_EXECUTION" = some "1"
  inherited : ∀ name, name ≠ "TIALAUNCH_RUN_ID" → name ≠ "TIALAUNCH_EXECUTION" →
    call.env.get? name = (config.executor.env.reverse.lookup name).or (s.env.get? name)

lemma startsPlan_of_handover {t : Session} (hhand : handover? (s.setting config fs) request
      (Session.start fs) = some (plan, call, t)) : StartsPlan s config plan call := by
  obtain ⟨hplanned, rfl⟩ := handover_call hhand
  have henv : plan.env = (s.env.overlay config.executor.env).set "TIALAUNCH_EXECUTION" "1" :=
    hplanned.env
  refine ⟨rfl, rfl, ?_, ?_, fun name hid hmark => ?_⟩
  · exact (Environment.get?_set _ _ _ _).trans (if_pos rfl)
  · rw [henv, Environment.get?_set, if_neg (by decide), Environment.get?_set, if_pos rfl]
  · have hother : name ≠ Session.runIdVariable := hid
    rw [henv, Environment.get?_set, if_neg hother, Environment.get?_set, if_neg hmark,
      Environment.get?_overlay]

/-! ### Both commands -/

/-- A launch of `tia run` is planned as `tia args` shows it. -/
lemma planFor_of_build (hsame : SameOptions read read') (hroot : s.directory.anchor = .root)
    (hdir : desk.files.get? s.location = some .dir)
    (hprepare : prepare s verbose (.ofWords read) desk = (journal, mid, .ok config))
    (hrequest : (LaunchOptions.ofWords read).request mid.files s.directory = .ok request) :
    planFor s verbose (.ofWords read') desk =
      (mid, (Plan.build config ((s.setting config mid.files).around mid.files) request).map
        fun plan => (config, plan)) := by
  have hstill : mid.files.get? s.location = some .dir := by
    have hkept := prepare_keepsDirs s verbose (.ofWords read) desk s.location hdir
    rwa [hprepare] at hkept
  rw [hsame.request_eq] at hrequest
  rw [planFor, hsame.prepare_eq, hprepare, around_setting hroot hstill]
  dsimp only
  cases hrequest' : (LaunchOptions.ofWords read').request mid.files s.directory with
  | error f => simp [hrequest', Except.map] at hrequest
  | ok request' =>
    rw [hrequest'] at hrequest
    obtain rfl := Except.ok.inj hrequest
    rfl

/-- Where no plan can be shown, there is no run, for the same reason. -/
lemma run_fails (hsame : SameOptions read read') (hroot : s.directory.anchor = .root)
    (hdir : desk.files.get? s.location = some .dir) {e : LaunchError}
    (hplan : planFor s verbose (.ofWords read') desk = (mid, .error (.error e))) :
    ∃ later trace,
      (match prepare s verbose (.ofWords read) desk with
        | (_, mid, .error f) => fail mid [] f
        | (journal, mid, .ok config) => runLaunch s journal config (.ofWords read) mid) =
        fail later trace (.error e) ∧ callsOf trace = 0 := by
  cases hprepare : prepare s verbose (.ofWords read) desk with
  | mk journal rest =>
    obtain ⟨mid', f | config⟩ := rest
    · rw [planFor, hsame.prepare_eq, hprepare] at hplan
      obtain rfl := Except.error.inj (Prod.mk.inj hplan).2
      exact ⟨mid', [], rfl, rfl⟩
    · cases hrequest : (LaunchOptions.ofWords read).request mid'.files s.directory with
      | error f =>
        have hrequest' : (LaunchOptions.ofWords read').request mid'.files s.directory = .error f := by
          rw [hsame.request_eq] at hrequest
          cases hother : (LaunchOptions.ofWords read').request mid'.files s.directory with
          | error g => rw [hother] at hrequest; exact hrequest
          | ok request => simp [hother, Except.map] at hrequest
        rw [planFor, hsame.prepare_eq, hprepare] at hplan
        simp [hrequest'] at hplan
      | ok request =>
        rw [planFor_of_build hsame hroot hdir hprepare hrequest] at hplan
        cases hbuild : Plan.build config ((s.setting config mid'.files).around mid'.files) request with
        | ok plan => simp [hbuild, Except.map] at hplan
        | error f =>
          rw [hbuild] at hplan
          obtain rfl : f = .error e := Except.error.inj (Prod.mk.inj hplan).2
          obtain ⟨hresult, hcalls⟩ := launchLogged_of_build hbuild journal
          obtain ⟨later, hfailed⟩ := runLaunch_error hrequest hresult
          exact ⟨later, _, hfailed, hcalls⟩

/-- `tia args` shows what `tia run` does, with the same options. A run that calls its launcher does so
with the command, the directory and the environment of a plan, and the directive and the arguments of
this plan are what is shown. A launch error of the one command is reported by the other one in the
same words, and no launcher is called. A launch that returns ends the run with the exit code that its
launcher ended with. -/
theorem args_shows_what_run_does (s : Situation) (verbose : Bool) (words words' : List String)
    (desk : Desk) (read read' : ReadWords)
    (hread : readWords Command.run.spec true words = .ok read)
    (hread' : readWords Command.args.spec true words' = .ok read')
    (hsame : SameOptions read read') (hroot : s.directory.anchor = .root)
    (hdir : desk.files.get? s.location = some .dir) :
    (∀ call state, .call call state ∈ (runCommand s verbose .run words desk).trace →
      ∃ mid config plan, planFor s verbose (.ofWords read') desk = (mid, .ok (config, plan)) ∧
        StartsPlan s config plan call ∧
        (∀ r ∈ recordsOf (runCommand s verbose .run words desk).trace,
          r.runId = call.env.get? "TIALAUNCH_RUN_ID") ∧
        runCommand s verbose .args words' desk =
          ⟨mid.write .output (planText (LaunchOptions.ofWords read').asJson plan), .exit 0, []⟩) ∧
      (checkWords desk.files s.location Command.args.spec read' = .ok () → read'.rest = [] →
        (∀ (mid : Desk) e, planFor s verbose (.ofWords read') desk = (mid, .error (.error e)) →
          runCommand s verbose .args words' desk =
              ⟨mid.write .errors ("Error: " ++ e.toText ++ "\n"), .exit 1, []⟩ ∧
            ∃ (later : Desk) (trace : List TraceEntry), runCommand s verbose .run words desk =
                ⟨later.write .errors ("Error: " ++ e.toText ++ "\n"), .exit 1, trace⟩ ∧
              callsOf trace = 0) ∧
        ∀ journal mid config request session later result,
          prepare s verbose (.ofWords read) desk = (journal, mid, .ok config) →
          (LaunchOptions.ofWords read).request mid.files s.directory = .ok request →
          launchLogged s journal config request mid = (session, later, .ok result) →
          (runCommand s verbose .run words desk).ending = .exit result.exitCode ∧
            ∃ call t u, .call call .running ∈ (runCommand s verbose .run words desk).trace ∧
              (s.launcher (mid.files.hold s.location) call).play (s.setting config mid.files) t =
                (u, .exit result.exitCode)) := by
  have horder : checkWords desk.files s.location Command.run.spec read = .ok () ↔
      checkWords desk.files s.location Command.args.spec read' = .ok () :=
    hsame.checkWords_iff hread hread'
  refine ⟨fun call state hcall => ?_, fun hchecked hrest => ⟨fun mid e hplan => ?_, ?_⟩⟩
  · obtain ⟨hchecked, hrest⟩ := inOrder_of_trace hread hcall
    rw [run_outcome verbose hread hchecked hrest] at hcall ⊢
    cases hprepare : prepare s verbose (.ofWords read) desk with
    | mk journal rest =>
      obtain ⟨mid, f | config⟩ := rest
      · rw [hprepare] at hcall
        simp [fail_trace] at hcall
      rw [hprepare] at hcall
      dsimp only at hcall ⊢
      cases hrequest : (LaunchOptions.ofWords read).request mid.files s.directory with
      | error f => simp [runLaunch, hrequest, fail_trace] at hcall
      | ok request =>
        rw [runLaunch_trace hrequest, (launchLogged_session s journal config request mid).1] at hcall ⊢
        obtain ⟨plan, t, hhand⟩ := handover_of_call hcall
        have hstarts := startsPlan_of_handover hhand
        have hbuild : Plan.build config ((s.setting config mid.files).around mid.files) request =
            .ok plan := (approach_ok (handover_approach hhand).2).1
        have hplan := planFor_of_build hsame hroot hdir hprepare hrequest
        rw [hbuild] at hplan
        refine ⟨mid, config, plan, hplan, hstarts, ?_, ?_⟩
        · intro r hr
          rw [hstarts.runId]
          exact (trace_of_handover hhand s journal).2.2 r hr
        · rw [args_outcome verbose hread' (horder.mp hchecked) (hsame.rest.trans hrest), hplan]
          rfl
  · have hrun := run_outcome verbose hread (horder.mpr hchecked)
      (hsame.rest.symm.trans hrest)
    have hargs := args_outcome verbose hread' hchecked hrest
    rw [hplan] at hargs
    refine ⟨hargs, ?_⟩
    obtain ⟨later, trace, hfailed, hcalls⟩ := run_fails hsame hroot hdir hplan
    exact ⟨later, trace, hrun.trans hfailed, hcalls⟩
  · intro journal mid config request session later result hprepare hrequest hlaunch
    have hrun := run_outcome verbose hread (horder.mpr hchecked)
      (hsame.rest.symm.trans hrest)
    rw [hprepare] at hrun
    have hresult : (launchLogged s journal config request mid).2.2 = .ok result := by rw [hlaunch]
    rw [hrun]
    refine ⟨runLaunch_returns hrequest hresult, ?_⟩
    dsimp only
    rw [runLaunch_trace hrequest]
    exact launchLogged_returns hresult

/-! ### A run for examples -/

/-- A name that leads to no link is kept in a real path. -/
lemma realFrom_name {name : String} {links : Nat} {opened : List Location} {dir : Location}
    {rest : List String} (hname : name ≠ "" ∧ name ≠ "." ∧ name ≠ "..")
    (hlink : (fs.get? (name :: dir)).all (· == .dir)) :
    fs.realFrom links opened dir (name :: rest) = fs.realFrom links opened (name :: dir) rest := by
  obtain ⟨hempty, hdot, hdots⟩ := hname
  rw [realFrom, if_neg (by simp [hempty, hdot]), if_neg hdots]
  split
  · rename_i target h
    simp [h] at hlink
  · rfl

lemma resolve_location {cwd l : Location} {p : Path} (hnull : hasNull p.toText = false)
    (hreal : ∀ links,
      fs.realFrom links [] (if p.isAbsolute then [] else cwd) p.segments = .location l)
    (hloop : (match fs.stat cwd (Path.ofText (pathText l)) with
      | .error (.os e) => e.kind == .tooManyLinks
      | _ => false) = false) :
    fs.resolve cwd p = .ok (Path.ofText (pathText l)) := by
  simp only [resolve, hnull, Bool.false_eq_true, if_false, hreal]
  rw [pathText] at hloop ⊢
  split
  · rename_i e he
    rw [he] at hloop
    simp only at hloop
    rw [hloop]
    rfl
  · rfl

def sampleAsked : LaunchRequest :=
  { sampleRequest with context := ⟨"test", "/w/build", "/w", [⟨"main", [], none, []⟩]⟩ }

lemma sample_asks :
    (LaunchOptions.ofWords sampleRead).request sampleFiles (Path.ofText "/w") = .ok sampleAsked := by
  have hworking : sampleFiles.resolve ["w"] (Path.ofText "/w") = .ok (Path.ofText "/w") := by
    refine resolve_location (l := ["w"]) (by decide +kernel) (fun links => ?_) (by decide +kernel)
    exact (realFrom_name (by decide) (by decide +kernel)).trans (realFrom.eq_1 ..)
  have hbuild : sampleFiles.resolve ["w"] (Path.ofText "build") = .ok (Path.ofText "/w/build") := by
    refine resolve_location (l := ["build", "w"]) (by decide +kernel) (fun links => ?_)
      (by decide +kernel)
    exact (realFrom_name (by decide) (by decide +kernel)).trans (realFrom.eq_1 ..)
  have hcwd : (Path.ofText "/w").segments.reverse = ["w"] := by decide +kernel
  have hhere : (LaunchOptions.ofWords sampleRead).workingDir.getD (Path.ofText "/w") =
      Path.ofText "/w" := by decide +kernel
  have hthere : (LaunchOptions.ofWords sampleRead).buildDir = Path.ofText "build" := by
    decide +kernel
  simp only [LaunchOptions.request, hcwd, hhere, hthere, hworking, hbuild]
  rfl

/-- With a class path and an executable there is a run, and it is shown. -/
theorem sample_args_shows_what_run_does :
    ∃ call state config plan,
      .call call state ∈
        (runCommand (sampleSituation "t") false .run sampleWords sampleDesk).trace ∧
      StartsPlan (sampleSituation "t") config plan call ∧
      ∃ mid : Desk, runCommand (sampleSituation "t") false .args sampleWords sampleDesk =
        ⟨mid.write .output (planText false plan), .exit 0, []⟩ := by
  have hread : readWords Command.run.spec true sampleWords = .ok sampleRead :=
    eq_ok_of_toOption (by decide +kernel)
  have hread' : readWords Command.args.spec true sampleWords = .ok sampleRead :=
    eq_ok_of_toOption (by decide +kernel)
  have hsame : SameOptions sampleRead sampleRead := ⟨fun _ _ => rfl, rfl, by decide +kernel⟩
  obtain ⟨hshown, -⟩ := args_shows_what_run_does (sampleSituation "t") false sampleWords sampleWords
    sampleDesk sampleRead sampleRead hread hread' hsame rfl (by decide +kernel)
  obtain ⟨journal, hprepare⟩ : ∃ journal, prepare (sampleSituation "t") false (.ofWords sampleRead)
      sampleDesk = (journal, sampleDesk, .ok (withToken sampleConfig "t")) := by
    have hload : configOf (sampleSituation "t") (.ofWords sampleRead) sampleDesk =
        .ok (withToken sampleConfig "t") := sample_loads (by simp)
    rw [configOf] at hload
    rw [prepare, hload]
    exact ⟨_, rfl⟩
  have hcalls : 0 < callsOf
      (runCommand (sampleSituation "t") false .run sampleWords sampleDesk).trace := by
    rw [run_outcome false hread (eq_ok_of_toOption (by decide +kernel)) rfl, hprepare]
    dsimp only
    have hhanded : (handover? ((sampleSituation "t").setting (withToken sampleConfig "t") sampleFiles)
        sampleAsked (Session.start sampleFiles)).isSome = true := by decide +kernel
    obtain ⟨⟨plan, call, t⟩, hhand⟩ := Option.isSome_iff_exists.mp hhanded
    have hone := (trace_of_handover hhand (sampleSituation "t") journal).2.1
    rw [runLaunch_trace sample_asks, (launchLogged_session _ _ _ _ _).1]
    exact Nat.lt_of_lt_of_eq Nat.zero_lt_one hone.symm
  obtain ⟨call, state, hcall⟩ := exists_call hcalls
  obtain ⟨mid, config, plan, -, hstarts, -, hargs⟩ := hshown call state hcall
  have hplain : (LaunchOptions.ofWords sampleRead).asJson = false := by decide +kernel
  rw [hplain] at hargs
  exact ⟨call, state, config, plan, hcall, hstarts, mid, hargs⟩

end TestImpact.Proofs
