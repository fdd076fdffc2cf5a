import TestImpact.Config.Lax
import TestImpact.CommandLine.Basic
import TestImpact.Proofs.Launch.Secrecy

/-!
# What `tia args` shows

Two calls of `tia args` with the same words, over trees that differ in the contents of files alone,
come to configurations that differ in the access token alone. Whatever they print is the same.
-/

namespace TestImpact.Proofs
open Files CommandLine

variable {config config' : Config} {s s' : Situation} {desk desk' : Desk} {journal : Journal}
  {o : LaunchOptions} {cwd : Location} {fs fs' : Files}

/-- Desks with the same text on the terminal, over trees that differ in the contents of files. -/
structure DesksAlike (desk desk' : Desk) : Prop where
  terminal : desk'.terminal = desk.terminal
  files : emptied desk'.files = emptied desk.files

lemma DesksAlike.write (h : DesksAlike desk desk') (stream : StandardStream) (text : String) :
    DesksAlike (desk.write stream text) (desk'.write stream text) :=
  ⟨congrArg (·.write stream text) h.terminal, h.files⟩

/-! ### Options -/

lemma checkPath_emptied (fs : Files) (cwd : Location) (filesAllowed directoriesAllowed : Bool)
    (option value : String) :
    checkPath (emptied fs) cwd filesAllowed directoriesAllowed option value =
      checkPath fs cwd filesAllowed directoriesAllowed option value := by
  rw [checkPath, checkPath, locateText_emptied]
  rcases fs.locateText cwd true value with kind | ⟨l, _ | e⟩
  · rfl
  · rfl
  · cases e <;> rfl

lemma checkWords_emptied (fs : Files) (cwd : Location) (c : CommandSpec) (words : ReadWords) :
    checkWords (emptied fs) cwd c words = checkWords fs cwd c words := by
  have hvalue : checkValue (emptied fs) cwd = checkValue fs cwd := by
    funext o value
    simp only [checkValue, checkPath_emptied]
  have hoption : checkOption (emptied fs) cwd = checkOption fs cwd := by
    funext words o
    simp only [checkOption, hvalue]
  rw [checkWords, hoption, checkWords]

lemma request_emptied (o : LaunchOptions) (fs : Files) (directory : Path) :
    o.request (emptied fs) directory = o.request fs directory := by
  simp only [LaunchOptions.request, resolve_emptied]

/-! ### The journal -/

lemma openTarget_emptied (cwd : Location) (destination : String) (fs : Files) :
    Journal.openTarget cwd destination (emptied fs) =
      (emptied (Journal.openTarget cwd destination fs).1,
        (Journal.openTarget cwd destination fs).2) := by
  unfold Journal.openTarget
  split
  · rfl
  · rfl
  dsimp only
  rw [ensureDir_emptied]
  generalize fs.ensureDir cwd (Path.ofText destination).parent = above
  obtain ⟨mid, f | ⟨⟩⟩ := above
  · rfl
  dsimp only
  rw [append_emptied mid cwd (Path.ofText destination).lexical []]
  cases mid.append cwd (Path.ofText destination).lexical [] with
  | error f => rfl
  | ok later =>
    simp only [Except.map, find_emptied]
    cases later.find cwd true (Path.ofText destination).lexical <;> rfl

lemma openSinks_emptied (cwd : Location) (logging : LoggingConfig) (outputs : List LogOutput)
    (fs : Files) :
    Journal.openSinks cwd logging outputs (emptied fs) =
      ((Journal.openSinks cwd logging outputs fs).1,
        emptied (Journal.openSinks cwd logging outputs fs).2.1,
        (Journal.openSinks cwd logging outputs fs).2.2) := by
  induction outputs generalizing fs with
  | nil => rfl
  | cons o outputs ih =>
    rw [Journal.openSinks, Journal.openSinks, openTarget_emptied]
    generalize Journal.openTarget cwd o.destination fs = opened
    obtain ⟨mid, f | target⟩ := opened
    · rfl
    · simp only [ih]

lemma openSinks_alike (h : emptied fs' = emptied fs) (cwd : Location) (logging : LoggingConfig)
    (outputs : List LogOutput) :
    ∃ sinks mid mid' result, emptied mid' = emptied mid ∧
      Journal.openSinks cwd logging outputs fs = (sinks, mid, result) ∧
      Journal.openSinks cwd logging outputs fs' = (sinks, mid', result) := by
  have hopened := openSinks_emptied cwd logging outputs fs
  have hopened' := openSinks_emptied cwd logging outputs fs'
  rw [h, hopened] at hopened'
  obtain ⟨hsinks, hrest⟩ := Prod.mk.inj hopened'
  obtain ⟨hfiles, hresult⟩ := Prod.mk.inj hrest
  exact ⟨_, _, _, _, hfiles.symm, rfl, Prod.ext hsinks.symm (Prod.ext rfl hresult.symm)⟩

/-- Lines go to the same files, whatever these hold. -/
lemma writeFiles_alike (lines : List (LogTarget × String)) (h : emptied fs' = emptied fs) :
    emptied (Journal.writeFiles lines fs') = emptied (Journal.writeFiles lines fs) := by
  induction lines generalizing fs fs' with
  | nil => exact h
  | cons entry lines ih =>
    obtain ⟨target, line⟩ := entry
    cases target with
    | stream _ => exact ih h
    | file held =>
      refine ih ?_
      rw [← extend_emptied, h, extend_emptied]

lemma DesksAlike.record (h : DesksAlike desk desk') (journal : Journal) (time : String)
    (r : LogRecord) : DesksAlike (journal.record time r desk) (journal.record time r desk') :=
  ⟨congrArg (Journal.writeStreams _) h.terminal, writeFiles_alike _ h.files⟩

/-! ### The command -/

/-- The configuration that a command loads by its options. -/
def configOf (s : Situation) (o : LaunchOptions) (desk : Desk) : Attempt Config :=
  Config.load s.reader desk.files s.location s.env ⟨s.userFile, s.directory, o.configFile, []⟩

lemma DifferInToken.logging (h : DifferInToken config config') :
    config'.logging = config.logging := by
  obtain ⟨_, _, _, -, -, rfl, rfl⟩ := h
  rfl

lemma prepare_alike (hdesk : DesksAlike desk desk') (hdirectory : s'.directory = s.directory)
    (htime : s'.time = s.time) (hconfig : configOf s o desk = .ok config)
    (hconfig' : configOf s' o desk' = .ok config') (hdiffer : DifferInToken config config')
    (verbose : Bool) :
    ∃ journal mid mid', DesksAlike mid mid' ∧
      ((∃ f, prepare s verbose o desk = (journal, mid, .error f) ∧
          prepare s' verbose o desk' = (journal, mid', .error f)) ∨
        prepare s verbose o desk = (journal, mid, .ok config) ∧
          prepare s' verbose o desk' = (journal, mid', .ok config')) := by
  have hlocation : s'.location = s.location := by
    rw [Situation.location, hdirectory, Situation.location]
  have hlogging : loggingOf verbose config' = loggingOf verbose config := by
    rw [loggingOf, loggingOf, hdiffer.logging]
  obtain ⟨sinks, files, files', result, hfiles, hopened, hopened'⟩ := openSinks_alike hdesk.files
    s.location (loggingOf verbose config) (loggingOf verbose config).outputs
  rw [configOf] at hconfig hconfig'
  rw [prepare, prepare, hconfig, hconfig']
  dsimp only [Journal.configure]
  rw [hlocation, hlogging, hopened, hopened', htime]
  have hopen : DesksAlike { desk with files } { desk' with files := files' } :=
    ⟨hdesk.terminal, hfiles⟩
  cases result with
  | error f => exact ⟨_, _, _, hopen, .inl ⟨_, rfl, rfl⟩⟩
  | ok _ => exact ⟨_, _, _, hopen.record _ _ _, .inr ⟨rfl, rfl⟩⟩

/-- How a command ends, and what it leaves on the terminal. -/
def printed (outcome : Outcome) : Terminal × Ending := (outcome.desk.terminal, outcome.ending)

lemma fail_alike (hdesk : DesksAlike desk desk') (trace : List TraceEntry) (f : Failure) :
    printed (fail desk' trace f) = printed (fail desk trace f) := by
  have hterminal := hdesk.terminal
  cases f with
  | error e => simp only [fail, printed, Desk.write, hterminal]
  | refused issues => simp only [fail, printed, hterminal]
  | fault g => cases g <;> simp only [fail, printed, Desk.write, hterminal]

lemma describePlan_shown {plan plan' : Plan} (h : shownPlan plan' = shownPlan plan) (asJson : Bool) :
    describePlan asJson plan' = describePlan asJson plan := by
  have hdirective : plan'.directive = plan.directive := (congrArg Plan.directive h :)
  have hworking : plan'.workingDir = plan.workingDir := (congrArg Plan.workingDir h :)
  have hartifact : plan'.artifact = plan.artifact := (congrArg Plan.artifact h :)
  have harguments : Arguments.mask plan'.arguments = Arguments.mask plan.arguments :=
    (congrArg Plan.arguments h :)
  simp only [describePlan, hdirective, hworking, hartifact, harguments]

lemma showPlan_alike (hdesk : DesksAlike desk desk') (hdirectory : s'.directory = s.directory)
    (hlimit : s'.reader.digitLimit = s.reader.digitLimit) (hdiffer : DifferInToken config config') (o : LaunchOptions) :
    printed (showPlan s' config' o desk') = printed (showPlan s config o desk) := by
  have hrequest : o.request desk'.files s'.directory = o.request desk.files s.directory := by
    rw [hdirectory, ← request_emptied, hdesk.files, request_emptied]
  rw [showPlan, showPlan, hrequest]
  cases o.request desk.files s.directory with
  | error f => exact fail_alike hdesk [] _
  | ok request =>
    have hbuild : (Plan.build config' ⟨some s'.directory, s'.env, s'.reader.digitLimit⟩
        request).map shownPlan =
        (Plan.build config ⟨some s.directory, s.env, s.reader.digitLimit⟩ request).map shownPlan :=
      build_shown hdiffer request (congrArg some hdirectory) hlimit
    rcases map_eq_map hbuild with ⟨e, he, he'⟩ | ⟨plan, plan', hplan, hplan', hshown⟩
    · simp only [he, he']
      exact fail_alike hdesk [] e
    · simp only [hplan, hplan', printed, describePlan_shown hshown,
        (hdesk.write .output _).terminal]

lemma stop_alike (hdesk : DesksAlike desk desk') (c : CommandSpec) (e : Stop) :
    printed (stop c desk' e) = printed (stop c desk e) := by
  cases e with
  | problem p => simp only [stop, reportProblem, printed, (hdesk.write .errors _).terminal]
  | fault f => simp only [stop, printed, hdesk.terminal]
  | help => simp only [stop, printed, (hdesk.write .output _).terminal]
  | version => simp only [stop, printed, (hdesk.write .output _).terminal]

lemma runCommand_alike (hdesk : DesksAlike desk desk') (hdirectory : s'.directory = s.directory)
    (htime : s'.time = s.time) (hlimit : s'.reader.digitLimit = s.reader.digitLimit)
    (verbose : Bool) (words : List String)
    (hconfig : ∀ read, readWords Command.args.spec true words = .ok read →
      ∃ config config', configOf s (.ofWords read) desk = .ok config ∧
        configOf s' (.ofWords read) desk' = .ok config' ∧ DifferInToken config config') :
    printed (runCommand s' verbose .args words desk') =
      printed (runCommand s verbose .args words desk) := by
  rw [runCommand, runCommand]
  cases hread : readWords Command.args.spec true words with
  | error p => exact stop_alike hdesk _ (.problem p)
  | ok read =>
    have hcheck : checkWords desk'.files s'.location Command.args.spec read =
        checkWords desk.files s.location Command.args.spec read := by
      rw [Situation.location, hdirectory, ← checkWords_emptied, hdesk.files, checkWords_emptied,
        Situation.location]
    dsimp only
    rw [hcheck]
    cases checkWords desk.files s.location Command.args.spec read with
    | error e => exact stop_alike hdesk _ e
    | ok _ =>
      dsimp only
      split
      · exact stop_alike hdesk _ (.problem _)
      obtain ⟨config, config', hload, hload', hdiffer⟩ := hconfig read hread
      obtain ⟨journal, mid, mid', hmid, ⟨f, hprepare, hprepare'⟩ | ⟨hprepare, hprepare'⟩⟩ :=
        prepare_alike hdesk hdirectory htime hload hload' hdiffer verbose
      · rw [hprepare, hprepare']
        exact fail_alike hmid [] f
      · rw [hprepare, hprepare']
        exact showPlan_alike hmid hdirectory hlimit hdiffer (.ofWords read)

/-! ### A command for examples -/

def sampleWords : List String := ["--baseline", "rev-100", "--end", "rev-120"]

def sampleRead : ReadWords := ⟨[⟨.baseline, "rev-100"⟩, ⟨.endRevision, "rev-120"⟩], []⟩

/-- A program that stands in a directory and finds its settings in three variables. -/
def sampleSituation (token : String) : Situation where
  directory := "/w"
  env :=
    [("tialaunch__server",
      "\x7b\"url\":\"https://ts.example\",\"project\":\"demo\",\"user\":\"u\"," ++
        "\"access_token\":\"" ++ token ++ "\"\x7d"),
     ("tialaunch__agent__jar", "lib/agent.jar"),
     ("tialaunch__executor", "\x7b\"java\":\"/bin/java\",\"classpath\":[\"lib/executor.jar\"]\x7d")]
  userFile := "/home/config.yaml"
  reader := ⟨.lax, ⟨none, fun _ => none⟩, .standard⟩
  runIds := fun n => s!"run-{n}"
  elapsed := .ofInt 0
  time := "1970-01-01 00:00:00"
  launcher := fun _ => idleLauncher

def sampleDesk : Desk := ⟨sampleFiles, .empty⟩

lemma sample_loads {token : String} (htoken : token ∈ ["t", "u"]) :
    configOf (sampleSituation token) (.ofWords sampleRead) sampleDesk =
      .ok (withToken sampleConfig token) := by
  have hloads : ∀ token ∈ ["t", "u"],
      (configOf (sampleSituation token) (.ofWords sampleRead) sampleDesk).toOption =
        some (withToken sampleConfig token) := by decide +kernel
  exact eq_ok_of_toOption (hloads token htoken)

/-! ### The token -/

/-- The access token is not shown. Launches under settings that differ in the token alone, whose
launchers do the same, log the same records but for their ids, and they end with the same result or
the same failure. And `tia args` prints the same text, with the same exit code, for configurations
that differ in the token alone. -/
theorem token_is_not_shown :
    (∀ (setting setting' : Setting) (launcher launcher' : Launcher) (request : LaunchRequest)
        (s t : Session), TokensApart setting setting' → seen t = seen s →
      (∀ plan call u plan' call' u', handover? setting request s = some (plan, call, u) →
        handover? setting' request t = some (plan', call', u') →
        BehaveAlike ((launcher call).play setting u) ((launcher' call').play setting' u')) →
      shownRecords (t.launch setting' launcher' request).1.trace =
          shownRecords (s.launch setting launcher request).1.trace ∧
        (t.launch setting' launcher' request).2 = (s.launch setting launcher request).2) ∧
      ∀ (s s' : Situation) (desk desk' : Desk) (verbose : Bool) (words : List String),
        s'.directory = s.directory → s'.time = s.time →
        s'.reader.digitLimit = s.reader.digitLimit → DesksAlike desk desk' →
        (∀ read, readWords Command.args.spec true words = .ok read →
          ∃ config config', configOf s (.ofWords read) desk = .ok config ∧
            configOf s' (.ofWords read) desk' = .ok config' ∧ DifferInToken config config') →
        (runCommand s' verbose .args words desk').desk.terminal =
            (runCommand s verbose .args words desk).desk.terminal ∧
          (runCommand s' verbose .args words desk').ending =
            (runCommand s verbose .args words desk).ending := by
  constructor
  · intro setting setting' launcher launcher' request s t hapart hseen hbehave
    obtain ⟨hsession, hresult⟩ := launch_alike hapart hseen hbehave
    refine ⟨?_, hresult⟩
    have htrace := (congrArg (fun w : Session => recordsOf w.trace) hsession :)
    rwa [seen, seen, recordsOf_records, recordsOf_records] at htrace
  · intro s s' desk desk' verbose words hdirectory htime hlimit hdesk hconfig
    exact Prod.mk.inj (runCommand_alike hdesk hdirectory htime hlimit verbose words hconfig)

def sampleOtherSetting : Setting := { sampleSetting with config := withToken sampleConfig "u" }

/-- Whether the token is "t" or "u", a launch has the same result, and the arguments are shown alike. -/
theorem sample_token_is_not_shown :
    (∃ result,
      ((Session.start sampleFiles).launch sampleSetting idleLauncher sampleRequest).2 = .ok result ∧
      ((Session.start sampleFiles).launch sampleOtherSetting idleLauncher sampleRequest).2 =
        .ok result) ∧
      (runCommand (sampleSituation "u") false .args sampleWords sampleDesk).desk.terminal =
        (runCommand (sampleSituation "t") false .args sampleWords sampleDesk).desk.terminal := by
  obtain ⟨hlaunch, hargs⟩ := token_is_not_shown
  constructor
  · have hreturns : ((Session.start sampleFiles).launch sampleSetting idleLauncher
        sampleRequest).2.toOption.isSome = true := by decide +kernel
    have hapart : TokensApart sampleSetting sampleOtherSetting :=
      ⟨⟨sampleConfig, "t", "u", by decide, by decide, rfl, rfl⟩, rfl, rfl, rfl, rfl⟩
    obtain ⟨-, hresult⟩ := hlaunch sampleSetting sampleOtherSetting idleLauncher idleLauncher
      sampleRequest (Session.start sampleFiles) (Session.start sampleFiles) hapart rfl
      fun plan call u plan' call' u' hhand hhand' =>
        ⟨rfl, (congrArg Session.files (handover_alike hapart rfl hhand hhand').1 :)⟩
    cases hdone : ((Session.start sampleFiles).launch sampleSetting idleLauncher sampleRequest).2 with
    | error f => simp [hdone, Except.toOption] at hreturns
    | ok result => exact ⟨result, rfl, hresult.trans hdone⟩
  · have hread : readWords Command.args.spec true sampleWords = .ok sampleRead :=
      eq_ok_of_toOption (by decide +kernel)
    refine (hargs (sampleSituation "t") (sampleSituation "u") sampleDesk sampleDesk false sampleWords
      rfl rfl rfl ⟨rfl, rfl⟩ fun read hread' => ?_).1
    obtain rfl := Except.ok.inj (hread.symm.trans hread')
    exact ⟨_, _, sample_loads (by simp), sample_loads (by simp), sampleConfig, "t", "u", by decide,
      by decide, rfl, rfl⟩

end TestImpact.Proofs
