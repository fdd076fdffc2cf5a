import TestImpact.Proofs.Files.Contents
import TestImpact.Proofs.Launch.Interruption

/-!
# Secrecy of the access token

Two launches under configurations that differ in the access token alone are compared step by step.
Their plans are the same once the secrets in them are masked, and nothing else of a plan comes into
a log record or an error. So the two show the same to whoever looks on.
-/

namespace TestImpact.Proofs
open Files Session

variable {config config' : Config} {setting setting' : Setting} {request : LaunchRequest}
  {run : RunContext} {plan plan' : Plan} {around around' : Surroundings} {s t : Session}
  {path : Path}

/-- A token that can be told from the flag before it. -/
def IsSecret (token : String) : Prop := token ≠ "" ∧ token ≠ "--access-token"

instance (token : String) : Decidable (IsSecret token) := inferInstanceAs (Decidable (_ ∧ _))

def withToken (config : Config) (token : String) : Config :=
  { config with server := { config.server with accessToken := some token } }

/-- Two configurations that differ in the access token alone. -/
def DifferInToken (config config' : Config) : Prop :=
  ∃ common token token', IsSecret token ∧ IsSecret token' ∧
    config = withToken common token ∧ config' = withToken common token'

/-! ### Arguments -/

lemma maskAfter_public {previous previous' : String}
    (h : Arguments.secretFlags.contains previous = false)
    (h' : Arguments.secretFlags.contains previous' = false) (args : List String) :
    Arguments.maskAfter previous args = Arguments.maskAfter previous' args := by
  cases args with
  | nil => rfl
  | cons arg rest => simp only [Arguments.maskAfter, h, h']

lemma maskAfter_token {token token' : String} (h : IsSecret token) (h' : IsSecret token')
    (previous : String) (before after : List String) :
    Arguments.maskAfter previous (before ++ "--access-token" :: token :: after) =
      Arguments.maskAfter previous (before ++ "--access-token" :: token' :: after) := by
  induction before generalizing previous with
  | nil =>
    have hpublic : ∀ {word : String}, IsSecret word →
        Arguments.secretFlags.contains word = false := by
      intro word hword
      simp [Arguments.secretFlags, hword.2]
    have hflag : Arguments.secretFlags.contains "--access-token" = true := by decide +kernel
    simp only [List.nil_append, Arguments.maskAfter, hflag, if_true]
    rw [maskAfter_public (hpublic h) (hpublic h')]
  | cons arg before ih => simp only [List.cons_append, Arguments.maskAfter, ih]

def Selection.withToken (selection : Selection) (token : String) : Selection :=
  { selection with identity := { selection.identity with accessToken := token } }

/-- The masked arguments of two selections that differ in the token alone are the same. -/
lemma build_masked {token token' : String} (h : IsSecret token) (h' : IsSecret token')
    (cwd : Path) (selection : Selection) :
    (Arguments.build cwd (Selection.withToken selection token')).map Arguments.mask =
      (Arguments.build cwd (Selection.withToken selection token)).map Arguments.mask := by
  have htoken : ∀ {word : String}, IsSecret word →
      Arguments.require "server.access_token" word = .ok word := by
    intro word hword
    rw [Arguments.require, if_neg hword.1]
  refine map_bind_congr_right _ fun url => map_bind_congr_right _ fun project =>
    map_bind_congr_right _ fun user => ?_
  refine map_bind_congr (f := fun _ => ()) ?_ fun accessToken accessToken' hfirst hsecond _ => ?_
  · dsimp only [Selection.withToken]
    rw [htoken h, htoken h']
    rfl
  obtain rfl := Except.ok.inj ((htoken h).symm.trans hfirst)
  obtain rfl := Except.ok.inj ((htoken h').symm.trans hsecond)
  refine map_bind_congr_right _ fun partitionName => map_bind_congr_right _ fun baseline =>
    map_bind_congr_right _ fun fin => map_bind_congr_right _ fun agentUrl =>
    map_bind_congr_right _ fun filter => ?_
  -- The token comes after a fixed number of arguments, and the flag stands before it.
  have hmasked := maskAfter_token h h' "--url" [url, "--project", project, "--user", user]
  simp only [List.cons_append, List.nil_append] at hmasked
  simp only [Except.map, Arguments.mask, List.cons_append, List.nil_append, List.append_assoc,
    hmasked]
  rfl

/-! ### Plans -/

/-- A plan as it is shown. -/
def shownPlan (plan : Plan) : Plan :=
  { plan with command := plan.command.take 1, arguments := Arguments.mask plan.arguments, env := [] }

lemma reading_masked {α β : Type} {g : α → β} {paths : List Path}
    {make make' : Path → Attempt α} (hdirectory : around'.directory = around.directory)
    (hmake : ∀ cwd, (make' cwd).map g = (make cwd).map g) :
    (around'.reading paths make').map g = (around.reading paths make).map g := by
  rw [Surroundings.reading, Surroundings.reading, hdirectory]
  rcases map_eq_map (hmake (around.directory.getD .here)) with ⟨e, hmade, hmade'⟩ |
    ⟨made, made', hmade, hmade', hsame⟩
  · rw [hmade, hmade']
  · rw [hmade, hmade']
    dsimp only
    split
    · exact congrArg Except.ok hsame
    · rfl

lemma map_ofError_congr {α β : Type} {g : α → β} {x x' : Except LaunchError α}
    (h : x'.map g = x.map g) : (Failure.ofError x').map g = (Failure.ofError x).map g := by
  rcases map_eq_map h with ⟨e, rfl, rfl⟩ | ⟨a, a', rfl, rfl, hsame⟩
  · rfl
  · exact congrArg Except.ok hsame

/-- The plans of a request under two configurations that differ in the token alone. -/
lemma build_shown (h : DifferInToken config config') (request : LaunchRequest)
    (hdirectory : around'.directory = around.directory)
    (hlimit : around'.digitLimit = around.digitLimit) :
    (Plan.build config' around' request).map shownPlan =
      (Plan.build config around request).map shownPlan := by
  obtain ⟨common, token, token', hsecret, hsecret', rfl, rfl⟩ := h
  refine map_bind_congr (f := id) ?_ fun directive directive' _ _ hdirective => ?_
  · refine reading_masked hdirectory fun cwd => ?_
    rw [hlimit]
    rfl
  obtain rfl : directive' = directive := hdirective
  refine map_bind_congr (f := Arguments.mask) ?_ fun arguments arguments' _ _ hmask => ?_
  · refine reading_masked hdirectory fun cwd => map_ofError_congr ?_
    exact build_masked hsecret hsecret' cwd (Plan.selection common request (agentOf common request))
  · simp only [Except.map, shownPlan, hmask]
    rfl

/-! ### What is seen of a session -/

/-- Two settings that differ in the access token, and in what no one can tell a token from: the ids of
launches, and variables that are not looked up. -/
structure TokensApart (setting setting' : Setting) : Prop where
  config : DifferInToken setting.config setting'.config
  standing : setting'.standing = setting.standing
  path : setting'.env.get? "PATH" = setting.env.get? "PATH"
  elapsed : setting'.elapsed = setting.elapsed
  digitLimit : setting'.digitLimit = setting.digitLimit

/-- The log records of a trace, without the ids of launches. -/
def shownRecords (trace : List TraceEntry) : List LogRecord :=
  (recordsOf trace).map fun r => { r with runId := none }

/-- A session without what is not shown: ids, calls, and the contents of files. -/
def seen (s : Session) : Session :=
  ⟨s.state, s.busy, none, 0, emptied s.files, (shownRecords s.trace).map .record⟩

lemma seen_log (s : Session) (level : LogLevel) (event : String) (fields : List (String × Data)) :
    (seen s).log level event fields = seen (s.log level event fields) := by
  simp [seen, log, note, shownRecords, recordsOf]

lemma location_seen (h : setting'.standing = setting.standing) (s : Session) :
    setting'.location (seen s).files = setting.location s.files := by
  rw [Setting.location, Setting.location, h]
  exact standing_emptied _

lemma DifferInToken.report (h : DifferInToken config config') : config'.report = config.report := by
  obtain ⟨_, _, _, -, -, rfl, rfl⟩ := h
  rfl

lemma DifferInToken.executor (h : DifferInToken config config') :
    config'.executor = config.executor := by
  obtain ⟨_, _, _, -, -, rfl, rfl⟩ := h
  rfl

lemma resetArtifact_seen (h : setting'.standing = setting.standing) (path : Path) (s : Session) :
    (seen s).resetArtifact setting' path =
      (seen (s.resetArtifact setting path).1, (s.resetArtifact setting path).2) := by
  rw [resetArtifact, resetArtifact, location_seen h]
  have hunlink : (seen s).files.unlink (setting.location s.files) path =
      (s.files.unlink (setting.location s.files) path).map emptied := unlink_emptied ..
  rw [hunlink]
  cases s.files.unlink (setting.location s.files) path with
  | ok files => exact congrArg (·, _) (seen_log { s with files } ..)
  | error f =>
    cases f with
    | os e => by_cases hkind : e.kind = .noEntry <;> simp [Except.map, hkind]
    | _ => rfl

lemma prepareArtifact_seen (h : TokensApart setting setting') (run : RunContext) (s : Session) :
    (seen s).prepareArtifact setting' run =
      (seen (s.prepareArtifact setting run).1, (s.prepareArtifact setting run).2) := by
  rw [prepareArtifact, prepareArtifact]
  dsimp only
  rw [h.config.report, resetArtifact_seen h.standing]
  generalize s.resetArtifact setting (setting.config.report.artifact run) = done
  obtain ⟨t, f | ⟨⟩⟩ := done
  · rfl
  · have hmade : (seen t).files.ensureDir (setting.location t.files)
        (setting.config.report.artifact run).parent =
        (emptied (t.files.ensureDir (setting.location t.files)
          (setting.config.report.artifact run).parent).1,
        (t.files.ensureDir (setting.location t.files)
          (setting.config.report.artifact run).parent).2) := ensureDir_emptied ..
    dsimp only
    rw [location_seen h.standing, hmade]
    generalize t.files.ensureDir (setting.location t.files)
      (setting.config.report.artifact run).parent = made
    obtain ⟨files, f | ⟨⟩⟩ := made
    · cases f <;> rfl
    · rfl

lemma discardArtifact_seen (h : setting'.standing = setting.standing) (path : Path) (s : Session) :
    (seen s).discardArtifact setting' path =
      (seen (s.discardArtifact setting path).1, (s.discardArtifact setting path).2) := by
  rw [discardArtifact, discardArtifact, resetArtifact_seen h]
  generalize s.resetArtifact setting path = done
  obtain ⟨t, outcome⟩ := done
  cases outcome with
  | ok _ => rfl
  | error failure =>
    cases failure with
    | error e =>
      obtain ⟨family, cause⟩ := e
      cases cause with
      | resetFailed path' reason => exact congrArg (·, _) (seen_log t ..)
      | _ => rfl
    | refused _ => rfl
    | fault _ => rfl

lemma conclude_seen (h : TokensApart setting setting') (hplan : shownPlan plan' = shownPlan plan)
    (request : LaunchRequest) (s : Session) (ending : LauncherEnd) :
    (seen s).conclude setting' request plan' ending =
      (seen (s.conclude setting request plan ending).1,
        (s.conclude setting request plan ending).2) := by
  have hartifact : plan'.artifact = plan.artifact := (congrArg Plan.artifact hplan :)
  have hreports : plan'.reportsDir = plan.reportsDir := (congrArg Plan.reportsDir hplan :)
  have hcommand : plan'.command.headD "" = plan.command.headD "" := by
    have htake : plan'.command.take 1 = plan.command.take 1 := congrArg Plan.command hplan
    cases hc : plan.command <;> cases hc' : plan'.command <;> simp_all
  cases ending with
  | exit code =>
    have hpresent : (seen s).files.isFile (setting'.location (seen s).files) plan'.artifact =
        s.files.isFile (setting.location s.files) plan.artifact := by
      rw [location_seen h.standing, hartifact]
      exact isFile_emptied ..
    unfold conclude
    dsimp only
    rw [hpresent, hartifact, hreports, h.elapsed]
    cases s.files.isFile (setting.location s.files) plan.artifact with
    | error f => rfl
    | ok present =>
      have hcompleted := seen_log { s with state := .completed } .info "launch.completed"
        [("exit_code", .int code), ("artifact_present", .bool present),
         ("duration_seconds", .float setting.elapsed)]
      cases present with
      | true => exact congrArg (·, _) hcompleted
      | false =>
        refine congrArg (·, _) (.trans ?_ (seen_log _ .warning "launch.no_coverage"
          [("artifact", plan.artifact.toText)]))
        exact congrArg (log · _ _ _) hcompleted
  | failure f =>
    by_cases hos : ∃ e, f = .fault (.os e)
    · obtain ⟨e, rfl⟩ := hos
      simp only [conclude, hcommand]
    · have hother : ∀ e, f ≠ .fault (.os e) := fun e he => hos ⟨e, he⟩
      rw [conclude_failure hother, conclude_failure hother, hartifact,
        discardArtifact_seen h.standing]

lemma fail_seen (s : Session) (f : Failure) : (seen s).fail f = seen (s.fail f) := by
  have hlog := fun event fields => seen_log { s with state := .failed } .error event fields
  cases f <;> exact hlog _ _

lemma finish_seen (s : Session) (result : Attempt LaunchResult) :
    finish (seen s, result) = (seen (finish (s, result)).1, (finish (s, result)).2) := by
  cases result with
  | ok result => rfl
  | error f =>
    simp only [finish, fail_seen]
    rfl

/-! ### Coming to the launcher -/

/-- Plans that show the same, or the same failure. -/
lemma build_seen (h : TokensApart setting setting') (request : LaunchRequest) (s : Session) :
    (Plan.build setting'.config (setting'.around (seen s).files) request).map shownPlan =
      (Plan.build setting.config (setting.around s.files) request).map shownPlan := by
  refine build_shown h.config request ?_ h.digitLimit
  rw [Setting.around, Setting.around, h.standing]
  exact pathOf_emptied _

lemma prepare_seen (h : TokensApart setting setting') (request : LaunchRequest) (s : Session) :
    ((seen s).prepare setting' request).1 = seen (s.prepare setting request).1 ∧
      ((seen s).prepare setting' request).2.map shownPlan =
        (s.prepare setting request).2.map shownPlan := by
  rw [prepare, prepare]
  dsimp only
  have hlog := seen_log { s with state := .preparing } .info "launch.preparing"
    [("task", request.context.task),
     ("baseline", RevisionPoint.describe request.window.baseline),
     ("end", RevisionPoint.describe request.window.fin),
     ("run_all_tests", .bool request.runAll)]
  change Session.log { seen s with state := .preparing } _ _ _ = _ at hlog
  rw [hlog]
  generalize ({ s with state := .preparing } : Session).log .info "launch.preparing" _ = t
  rcases map_eq_map (build_seen h request t) with ⟨e, hbuild, hbuild'⟩ |
    ⟨plan, plan', hbuild, hbuild', hplan⟩
  · rw [hbuild, hbuild']
    exact ⟨rfl, rfl⟩
  rw [hbuild, hbuild', prepareArtifact_seen h]
  have hreports : plan'.reportsDir = plan.reportsDir := (congrArg Plan.reportsDir hplan :)
  generalize t.prepareArtifact setting request.context = done
  obtain ⟨u, f | path⟩ := done
  · exact ⟨rfl, rfl⟩
  have hmade : (seen u).files.ensureDir (setting.location u.files) plan.reportsDir =
      (emptied (u.files.ensureDir (setting.location u.files) plan.reportsDir).1,
      (u.files.ensureDir (setting.location u.files) plan.reportsDir).2) := ensureDir_emptied ..
  dsimp only
  rw [location_seen h.standing, hreports, hmade]
  generalize u.files.ensureDir (setting.location u.files) plan.reportsDir = made
  obtain ⟨files, f | ⟨⟩⟩ := made
  · cases f <;> exact ⟨rfl, rfl⟩
  · exact ⟨rfl, congrArg Except.ok hplan⟩

lemma checkSpawnable_seen (h : TokensApart setting setting') (hplan : shownPlan plan' = shownPlan plan)
    (s : Session) :
    checkSpawnable setting' (seen s).files plan' = checkSpawnable setting s.files plan := by
  have hdirective : plan'.directive = plan.directive := (congrArg Plan.directive hplan :)
  have hwhich : (seen s).files.which = s.files.which := by
    funext cwd path name
    exact which_emptied ..
  simp only [checkSpawnable, location_seen h.standing, h.config.executor, h.path, hdirective, hwhich]

lemma seen_call (s : Session) (call : LauncherCall) (state : LaunchState) :
    seen (s.note (.call call state)) = seen s := by
  simp [seen, note, shownRecords, recordsOf]

lemma seen_seen (s : Session) : seen (seen s) = seen s := by
  have hempty : emptied (emptied s.files) = emptied s.files := emptied_emptied s.files
  have hshown : shownRecords ((shownRecords s.trace).map .record) = shownRecords s.trace := by
    rw [shownRecords, recordsOf_records, shownRecords, List.map_map]
    rfl
  simp only [seen, hempty, hshown]

/-- A plan is handed over with the same records, or refused by the same error. -/
lemma handOver_seen (h : TokensApart setting setting') (hplan : shownPlan plan' = shownPlan plan)
    (request : LaunchRequest) (runId runId' : String) (s : Session) :
    seen ((seen s).handOver setting' request runId' plan').1 =
        seen (s.handOver setting request runId plan).1 ∧
      ((seen s).handOver setting' request runId' plan').2.map (fun _ => ()) =
        (s.handOver setting request runId plan).2.map (fun _ => ()) := by
  have hspawnable := checkSpawnable_seen h hplan s
  have hdirective : plan'.directive = plan.directive := (congrArg Plan.directive hplan :)
  have hworking : plan'.workingDir = plan.workingDir := (congrArg Plan.workingDir hplan :)
  have harguments : Arguments.mask plan'.arguments = Arguments.mask plan.arguments :=
    (congrArg Plan.arguments hplan :)
  rw [handOver, handOver]
  dsimp only
  rw [hspawnable]
  cases checkSpawnable setting s.files plan with
  | error e => exact ⟨seen_seen { s with state := .running }, rfl⟩
  | ok _ =>
    refine ⟨?_, rfl⟩
    dsimp only
    have hlog := fun event fields => seen_log { s with state := .running } .info event fields
    change ∀ event fields, Session.log { seen s with state := .running } _ event fields = _ at hlog
    rw [seen_call, seen_call, hdirective, hworking, harguments, hlog, seen_log, seen_seen]

lemma approach_seen (h : TokensApart setting setting') (request : LaunchRequest)
    (runId runId' : String) (s : Session) :
    seen ((seen s).approach setting' request runId').1 =
        seen (s.approach setting request runId).1 ∧
      ((seen s).approach setting' request runId').2.map (fun x => shownPlan x.1) =
        (s.approach setting request runId).2.map (fun x => shownPlan x.1) := by
  obtain ⟨hprepare, hplans⟩ := prepare_seen h request s
  rw [approach, approach]
  generalize (seen s).prepare setting' request = prepared' at hprepare hplans ⊢
  generalize s.prepare setting request = prepared at hprepare hplans ⊢
  obtain ⟨t', result'⟩ := prepared'
  obtain ⟨t, result⟩ := prepared
  obtain rfl : t' = seen t := hprepare
  rcases map_eq_map hplans with ⟨e, rfl, rfl⟩ | ⟨plan, plan', rfl, rfl, hplan⟩
  · exact ⟨seen_seen t, rfl⟩
  obtain ⟨hover, hcalls⟩ := handOver_seen h hplan request runId runId' t
  dsimp only
  generalize (seen t).handOver setting' request runId' plan' = handed' at hover hcalls ⊢
  generalize t.handOver setting request runId plan = handed at hover hcalls ⊢
  obtain ⟨u', result'⟩ := handed'
  obtain ⟨u, result⟩ := handed
  rcases map_eq_map hcalls with ⟨e, rfl, rfl⟩ | ⟨call, call', rfl, rfl, -⟩
  · exact ⟨hover, rfl⟩
  · exact ⟨hover, congrArg Except.ok hplan⟩

/-! ### Whole launches -/

/-- The settings compared with themselves. -/
lemma TokensApart.right (h : TokensApart setting setting') : TokensApart setting' setting' := by
  obtain ⟨common, token, token', -, hsecret', -, hconfig'⟩ := h.config
  exact ⟨⟨common, token', token', hsecret', hsecret', hconfig', hconfig'⟩, rfl, rfl, rfl, rfl⟩

lemma approach_alike (h : TokensApart setting setting') (hseen : seen t = seen s)
    (request : LaunchRequest) (runId runId' : String) :
    seen (t.approach setting' request runId').1 = seen (s.approach setting request runId).1 ∧
      (t.approach setting' request runId').2.map (fun x => shownPlan x.1) =
        (s.approach setting request runId).2.map (fun x => shownPlan x.1) := by
  obtain ⟨hsession, hresult⟩ := approach_seen h request runId runId' s
  obtain ⟨hsession', hresult'⟩ := approach_seen h.right request runId' runId' t
  rw [hseen] at hsession' hresult'
  exact ⟨hsession'.symm.trans hsession, hresult'.symm.trans hresult⟩

lemma begin_alike (setting setting' : Setting) (hseen : seen t = seen s) :
    seen (t.begin setting') = seen (s.begin setting) :=
  congrArg (fun w : Session => { w with busy := true }) hseen

/-- Both launchers are called over the same, with plans that show the same. -/
lemma handover_alike {call call' : LauncherCall} {u u' : Session} (h : TokensApart setting setting')
    (hseen : seen t = seen s) (hhand : handover? setting request s = some (plan, call, u))
    (hhand' : handover? setting' request t = some (plan', call', u')) :
    seen u' = seen u ∧ shownPlan plan' = shownPlan plan := by
  obtain ⟨-, happroach⟩ := handover_approach hhand
  obtain ⟨-, happroach'⟩ := handover_approach hhand'
  obtain ⟨hsession, hresult⟩ := approach_alike h (begin_alike setting setting' hseen) request
    (setting.runIds s.launches) (setting'.runIds t.launches)
  rw [happroach, happroach'] at hsession hresult
  exact ⟨hsession, Except.ok.inj hresult⟩

lemma finish_alike (hseen : seen t = seen s) (result : Attempt LaunchResult) :
    seen (finish (t, result)).1 = seen (finish (s, result)).1 ∧
      (finish (t, result)).2 = (finish (s, result)).2 := by
  have hs := finish_seen s result
  have ht := finish_seen t result
  rw [hseen, hs] at ht
  obtain ⟨hsession, hresult⟩ := Prod.mk.inj ht
  exact ⟨hsession.symm, hresult.symm⟩

lemma conclude_alike (h : TokensApart setting setting') (hseen : seen t = seen s)
    (hplan : shownPlan plan' = shownPlan plan) (request : LaunchRequest) (ending : LauncherEnd) :
    seen (finish (t.conclude setting' request plan' ending)).1 =
        seen (finish (s.conclude setting request plan ending)).1 ∧
      (finish (t.conclude setting' request plan' ending)).2 =
        (finish (s.conclude setting request plan ending)).2 := by
  have hs := conclude_seen h hplan request s ending
  have ht := conclude_seen h.right (Eq.refl (shownPlan plan')) request t ending
  rw [hseen, hs] at ht
  obtain ⟨hsession, hresult⟩ := Prod.mk.inj ht
  rw [← Prod.eta (t.conclude setting' request plan' ending), ← hresult,
    ← Prod.eta (s.conclude setting request plan ending)]
  exact finish_alike hsession.symm _

/-- Runs of launchers that do the same: they end in the same way, with the same entries. -/
def BehaveAlike (x x' : Session × LauncherEnd) : Prop :=
  x'.2 = x.2 ∧ emptied x'.1.files = emptied x.1.files

/-- After runs that did the same, the same is seen. -/
lemma seen_inFlight {u u' v v' : Session} (h : InFlight u v) (h' : InFlight u' v')
    (hseen : seen u' = seen u) (hfiles : emptied v'.files = emptied v.files) :
    seen v' = seen v := by
  have htrace : (shownRecords u'.trace).map TraceEntry.record =
      (shownRecords u.trace).map .record := (congrArg Session.trace hseen :)
  have hv : shownRecords v.trace = shownRecords u.trace := by
    rw [shownRecords, h.records, shownRecords]
  have hv' : shownRecords v'.trace = shownRecords u'.trace := by
    rw [shownRecords, h'.records, shownRecords]
  simp only [seen, h.state, h'.state, h.busy, h'.busy, hfiles, hv, hv', htrace]

/-- Launches that differ in the token alone, with launchers that do the same, show the same. -/
lemma launch_alike {launcher launcher' : Launcher} (h : TokensApart setting setting')
    (hseen : seen t = seen s)
    (hbehave : ∀ plan call u plan' call' u', handover? setting request s = some (plan, call, u) →
      handover? setting' request t = some (plan', call', u') →
      BehaveAlike ((launcher call).play setting u) ((launcher' call').play setting' u')) :
    seen (t.launch setting' launcher' request).1 = seen (s.launch setting launcher request).1 ∧
      (t.launch setting' launcher' request).2 = (s.launch setting launcher request).2 := by
  have hsame : t.busy = s.busy := (congrArg Session.busy hseen :)
  have hstate : t.state = s.state := (congrArg Session.state hseen :)
  cases hbusy : s.busy with
  | true =>
    rw [launch_busy hbusy, launch_busy (hsame.trans hbusy), hstate]
    exact ⟨hseen, rfl⟩
  | false =>
    obtain ⟨hsession, hresult⟩ := approach_alike h (begin_alike setting setting' hseen) request
      (setting.runIds s.launches) (setting'.runIds t.launches)
    rcases handover_or_stop hbusy setting request with ⟨plan, call, u, hhand⟩ |
      ⟨u, f, happroach, hlaunch⟩
    · obtain ⟨-, happroach⟩ := handover_approach hhand
      rw [happroach] at hsession hresult
      rcases handover_or_stop (hsame.trans hbusy) setting' request with ⟨plan', call', u', hhand'⟩ |
        ⟨u', f', happroach', -⟩
      · obtain ⟨hcalled, hplan⟩ := handover_alike h hseen hhand hhand'
        have hbehaved := hbehave plan call u plan' call' u' hhand hhand'
        cases hplay : (launcher call).play setting u with
        | mk v ending =>
          cases hplay' : (launcher' call').play setting' u' with
          | mk v' ending' =>
            rw [hplay, hplay'] at hbehaved
            obtain ⟨rfl, hfiles⟩ : ending' = ending ∧ emptied v'.files = emptied v.files := hbehaved
            have hended := seen_inFlight (inFlight_play (inFlight_handover hhand).1 hplay)
              (inFlight_play (inFlight_handover hhand').1 hplay') hcalled hfiles
            rw [launch_of_handover hhand hplay, launch_of_handover hhand' hplay']
            exact conclude_alike h hended hplan request ending'
      · simp [happroach', Except.map] at hresult
    · rw [happroach] at hsession hresult
      rcases handover_or_stop (hsame.trans hbusy) setting' request with ⟨plan', call', u', hhand'⟩ |
        ⟨u', f', happroach', hlaunch'⟩
      · obtain ⟨-, happroach'⟩ := handover_approach hhand'
        simp [happroach', Except.map] at hresult
      · rw [happroach'] at hsession hresult
        obtain rfl : f' = f := Except.error.inj hresult
        rw [hlaunch, hlaunch']
        exact finish_alike hsession _

end TestImpact.Proofs
