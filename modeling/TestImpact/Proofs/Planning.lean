import Mathlib.Tactic.Lemma
import TestImpact.Plan
import TestImpact.Proofs.Reading

/-!
# Planning

A plan is refused by an error about the configuration. There are two exceptions: a plan for which
the current directory is needed after it was removed, and a control port with more digits than are
written. A plan that is made holds what was built for it.
-/

namespace TestImpact.Proofs

variable {α β : Type} {x : Except LaunchError α} {around : Surroundings} {f : Failure}
  {config : Config} {request : LaunchRequest} {plan : Plan}

/-! ### Failures -/

/-- Whatever goes wrong is an error about the configuration. -/
def Configures (x : Except LaunchError α) : Prop := ∀ e, x = .error e → e.isConfiguration = true

lemma Configures.ok (a : α) : Configures (.ok a : Except LaunchError α) := fun _ h => by simp at h

lemma Configures.error {e : LaunchError} (h : e.isConfiguration = true) :
    Configures (.error e : Except LaunchError α) := by
  intro e' he
  obtain rfl := Except.error.inj he
  exact h

lemma Configures.bind {next : α → Except LaunchError β} (h : Configures x)
    (hnext : ∀ a, Configures (next a)) : Configures (x >>= next) := by
  cases x with
  | error e => exact .error (h e rfl)
  | ok a => exact hnext a

lemma require_configures (field value : String) : Configures (Arguments.require field value) := by
  rw [Arguments.require]
  split
  · exact .error rfl
  · exact .ok _

lemma requirePoint_configures (field : String) (point : Option RevisionPoint) :
    Configures (Arguments.requirePoint field point) := by
  cases point with
  | none => exact .error rfl
  | some p =>
    rw [Arguments.requirePoint]
    split
    · exact .error rfl
    · exact .ok _

lemma normalize_configures (pattern : String) : Configures (ClassPattern.normalize pattern) := by
  unfold ClassPattern.normalize
  dsimp only
  split
  · exact .error rfl
  · exact .ok _

lemma regexes_configures (patterns : List String) : Configures (Arguments.regexes patterns) := by
  induction patterns with
  | nil => exact .ok _
  | cons pattern patterns ih =>
    exact (normalize_configures pattern).bind fun _ => ih.bind fun _ => .ok _

lemma arguments_configures (cwd : Path) (selection : Selection) :
    Configures (Arguments.build cwd selection) := by
  have hfilter : Configures (Arguments.filterArguments selection.filter) :=
    (regexes_configures _).bind fun _ => (regexes_configures _).bind fun _ => .ok _
  exact (require_configures _ _).bind fun _ => (require_configures _ _).bind fun _ =>
    (require_configures _ _).bind fun _ => (require_configures _ _).bind fun _ =>
    (require_configures _ _).bind fun _ => (requirePoint_configures _ _).bind fun _ =>
    (requirePoint_configures _ _).bind fun _ => (require_configures _ _).bind fun _ =>
    hfilter.bind fun _ => .ok _

/-! ### Directives -/

/-- The failure about a control port out of range. It tells the port; where that has more digits
than are written, there is no error about it either. -/
def portFailure (limit : Number.DigitLimit) (port : Int) : Failure :=
  if limit.writes port then
    .error (.of (.invalidValue "agent.port" (toString port) "must be 1-65535"))
  else .fault (.badValue limit.writingComplaint)

lemma checkControlPort_int (limit : Number.DigitLimit) (port : Int) :
    Agent.checkControlPort limit (.int port) =
      if 1 ≤ port ∧ port ≤ 65535 then .ok port else .error (portFailure limit port) := rfl

/-- A failure of planning, told from where it happens. -/
def PlanFailure (config : Config) (around : Surroundings) (f : Failure) : Prop :=
  (∃ e, f = .error e ∧ e.isConfiguration = true) ∨
    (around.directory = none ∧ f = .fault (.os .nowhere)) ∨
    (config.agent.mode = .local ∧
      ¬(1 ≤ config.agent.controlPort ∧ config.agent.controlPort ≤ 65535) ∧
      around.digitLimit.writes config.agent.controlPort = false ∧
      f = .fault (.badValue around.digitLimit.writingComplaint))

lemma directive_error {cwd workingDir artifact dumpDir : Path}
    (h : (config.agent.agent dumpDir).directive around.digitLimit cwd workingDir artifact =
      .error f) : PlanFailure config around f := by
  cases hmode : config.agent.mode with
  | remote =>
    rw [AgentConfig.agent, hmode] at h
    cases h
  | «local» =>
    rw [AgentConfig.agent, hmode, Agent.directive, checkControlPort_int] at h
    by_cases hrange : 1 ≤ config.agent.controlPort ∧ config.agent.controlPort ≤ 65535
    · rw [if_pos hrange] at h
      cases hjar : config.agent.jar with
      | none =>
        rw [hjar] at h
        exact .inl ⟨_, (Except.error.inj h).symm, rfl⟩
      | some jar =>
        rw [hjar] at h
        cases h
    · rw [if_neg hrange] at h
      obtain rfl := Except.error.inj h
      unfold portFailure
      cases hwritten : around.digitLimit.writes config.agent.controlPort with
      | true => exact .inl ⟨_, rfl, rfl⟩
      | false => exact .inr (.inr ⟨hmode, hrange, hwritten, rfl⟩)

lemma arguments_error {cwd : Path} {selection : Selection}
    (h : Failure.ofError (Arguments.build cwd selection) = .error f) :
    PlanFailure config around f := by
  cases hmade : Arguments.build cwd selection with
  | error e =>
    rw [hmade] at h
    exact .inl ⟨e, (Except.error.inj h).symm, arguments_configures cwd selection e hmade⟩
  | ok arguments =>
    rw [hmade] at h
    cases h

/-! ### Planning -/

lemma reading_error {paths : List Path} {make : Path → Attempt α}
    (hmake : ∀ cwd f, make cwd = .error f → PlanFailure config around f)
    (h : around.reading paths make = .error f) : PlanFailure config around f := by
  rw [Surroundings.reading] at h
  split at h
  · rename_i g hg
    obtain rfl := Except.error.inj h
    exact hmake _ g hg
  · split at h
    · simp at h
    · rename_i hnowhere
      obtain rfl := Except.error.inj h
      refine .inr (.inl ⟨?_, rfl⟩)
      cases hdir : around.directory with
      | none => rfl
      | some dir => simp [hdir] at hnowhere

/-- A plan is refused by an error about the configuration, unless the current directory is needed
and was removed, or the control port has more digits than are written. -/
theorem build_error
    (h : Plan.build config around request = .error f) : PlanFailure config around f := by
  rw [Plan.build] at h
  dsimp only [bind, Except.bind] at h
  split at h
  · rename_i g hdirective
    obtain rfl := Except.error.inj h
    exact reading_error (fun _ _ => directive_error) hdirective
  · split at h
    · rename_i g harguments
      obtain rfl := Except.error.inj h
      exact reading_error (fun _ _ => arguments_error) harguments
    · simp at h

/-! ### Plans -/

/-- The agent of a run. -/
def agentOf (config : Config) (request : LaunchRequest) : Agent :=
  config.agent.agent (config.report.dumpDir request.context)

/-- What a plan for a request holds. -/
structure Planned (config : Config) (around : Surroundings) (request : LaunchRequest)
    (plan : Plan) : Prop where
  directive : (agentOf config request).directive around.digitLimit (around.directory.getD .here)
    request.context.workingDir (config.report.artifact request.context) = .ok plan.directive
  arguments : Arguments.build (around.directory.getD .here)
    (Plan.selection config request (agentOf config request)) = .ok plan.arguments
  command : plan.command = config.executor.java :: config.executor.jvmArgs ++
    plan.directive.toList ++ Plan.classpathOptions config.executor.classpath ++
    config.executor.mainClass :: plan.arguments
  workingDir : plan.workingDir = request.context.workingDir
  env : plan.env = Plan.environment around config.executor
  artifact : plan.artifact = config.report.artifact request.context
  reportsDir : plan.reportsDir = config.report.reportsDir request.context

lemma ofError_eq_ok {x : Except LaunchError α} {a : α} (h : Failure.ofError x = .ok a) :
    x = .ok a := by
  cases x with
  | error e => cases h
  | ok b => exact congrArg Except.ok (Except.ok.inj h)

lemma reading_ok {paths : List Path} {make : Path → Attempt α} {made : α}
    (h : around.reading paths make = .ok made) : make (around.directory.getD .here) = .ok made := by
  rw [Surroundings.reading] at h
  split at h
  · simp at h
  · rename_i made' hmade
    split at h
    · rw [hmade, Except.ok.inj h]
    · simp at h

lemma planned_of_build (h : Plan.build config around request = .ok plan) :
    Planned config around request plan := by
  rw [Plan.build] at h
  obtain ⟨directive, hdirective, h⟩ := bind_eq_ok.mp h
  obtain ⟨arguments, harguments, h⟩ := bind_eq_ok.mp h
  obtain rfl := Except.ok.inj h
  exact ⟨reading_ok hdirective, ofError_eq_ok (reading_ok harguments), rfl, rfl, rfl, rfl, rfl⟩

/-- The arguments of a plan tell the address of the agent, the directory of the reports and those to
scan. -/
lemma Planned.told (h : Planned config around request plan) :
    ∃ i, instructions? plan.arguments = some i ∧
      i.agentUrl = (agentOf config request).controlUrl ∧
      i.reportsDir = (plan.reportsDir.absolute (around.directory.getD .here)).toText ∧
      i.scanPath = ScanPath.join ((ScanPath.collect request.context.units).map Path.toText) := by
  obtain ⟨i, hi, hargs⟩ := build_eq_ok h.arguments
  refine ⟨i, by rw [hargs, instructions?_items], ?_⟩
  rw [h.reportsDir]
  exact instructionsOf_eq_ok hi

end TestImpact.Proofs
