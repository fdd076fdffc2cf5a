import TestImpact.Proofs.Launch.Spawning

/-!
# Requirements of plans

What can be in the way of a plan: fields that are missing, a control port out of range, class patterns
that are refused, and relative paths in a current directory that was removed. A plan is made exactly
if nothing is in its way, and otherwise the first thing in its way is reported.
-/

namespace TestImpact.Proofs

/-! ### What is in the way -/

def failureOf? {ε α : Type} : Except ε α → Option ε
  | .ok _ => none
  | .error e => some e

/-- A field that has to hold something. -/
def required (field text : String) : List LaunchError :=
  if text = "" then [.of (.missing field)] else []

/-- A point of the history that has to be there and to say something. -/
def requiredPoint (field : String) (point : Option RevisionPoint) : List LaunchError :=
  if point.any fun p => !p.isEmpty then [] else [.of (.missing field)]

/-- The errors of the class patterns that are refused. -/
def patternDefects (patterns : List String) : List LaunchError :=
  patterns.filterMap fun pattern => failureOf? (ClassPattern.normalize pattern)

/-- Only an agent that is attached needs a port in range and a jar. -/
def agentDefects (limit : Number.DigitLimit) (c : AgentConfig) : List Failure :=
  match c.mode with
  | .remote => []
  | .local =>
    (if 1 ≤ c.controlPort ∧ c.controlPort ≤ 65535 then [] else [portFailure limit c.controlPort]) ++
    if c.jar.isSome then [] else [.error (.of (.missing "agent.jar"))]

def argumentDefects (config : Config) (request : LaunchRequest) : List LaunchError :=
  [required "server.url" (config.server.url.getD ""),
    required "server.project" (config.server.project.getD ""),
    required "server.user" (config.server.user.getD ""),
    required "server.access_token" (config.server.accessToken.getD ""),
    required "report.partition" (config.report.partitionFor request.context.task),
    requiredPoint "window.baseline" request.window.baseline,
    requiredPoint "window.end" request.window.fin,
    required "agent.url" (agentOf config request).controlUrl,
    patternDefects request.filter.includeClasses,
    patternDefects request.filter.excludeClasses].flatten

/-- All that is wrong with a configuration and a request, in the order in which it is looked at. -/
def planDefects (limit : Number.DigitLimit) (config : Config) (request : LaunchRequest) :
    List Failure :=
  agentDefects limit config.agent ++ (argumentDefects config request).map .error

/-- Paths that have to be read from a current directory that was removed. -/
def unplaced (around : Surroundings) (paths : List Path) : List Failure :=
  if around.directory.isSome || paths.all Path.isAbsolute then [] else [.fault (.os .nowhere)]

/-- All that is in the way of a plan, in the order in which it is met. -/
def hindrances (config : Config) (around : Surroundings) (request : LaunchRequest) : List Failure :=
  (agentDefects around.digitLimit config.agent ++
    unplaced around ((agentOf config request).paths request.context.workingDir
      (config.report.artifact request.context))) ++
  ((argumentDefects config request).map .error ++
    unplaced around [config.report.reportsDir request.context])

variable {ε α β : Type} {x : Except ε α} {errors later : List ε} {rest : List (List ε)}
  {config : Config} {around : Surroundings} {request : LaunchRequest}

/-! ### Reporting the first -/

/-- A result that is an error exactly if there are errors, and then the first of them. -/
def ReportsFirst (x : Except ε α) (errors : List ε) : Prop := failureOf? x = errors.head?

lemma ReportsFirst.ok (a : α) : ReportsFirst (.ok a : Except ε α) [] := rfl

lemma ReportsFirst.eq_nil {a : α} (h : ReportsFirst (.ok a) errors) : errors = [] :=
  List.head?_eq_none_iff.mp h.symm

lemma ReportsFirst.eq_cons {e : ε} (h : ReportsFirst (.error e : Except ε α) errors) :
    ∃ later, errors = e :: later :=
  List.head?_eq_some_iff.mp h.symm

/-- What the second step reports comes after what the first one does. -/
lemma ReportsFirst.append {next : α → Except ε β} (h : ReportsFirst x errors)
    (hnext : ∀ a, ReportsFirst (next a) later) : ReportsFirst (x >>= next) (errors ++ later) := by
  cases x with
  | error e =>
    obtain ⟨more, rfl⟩ := h.eq_cons
    exact rfl
  | ok a =>
    rw [h.eq_nil, List.nil_append]
    exact hnext a

lemma ReportsFirst.bind {next : α → Except ε β} (h : ReportsFirst x errors)
    (hnext : ∀ a, ReportsFirst (next a) rest.flatten) :
    ReportsFirst (x >>= next) (errors :: rest).flatten := by
  rw [List.flatten_cons]
  exact h.append hnext

lemma ReportsFirst.map (h : ReportsFirst x errors) (f : α → β) :
    ReportsFirst (x >>= fun a => .ok (f a)) errors := by
  have hdone := h.append fun a => ReportsFirst.ok (f a)
  rwa [List.append_nil] at hdone

lemma ReportsFirst.ok_iff (h : ReportsFirst x errors) : (∃ a, x = .ok a) ↔ errors = [] := by
  cases x with
  | error e =>
    obtain ⟨more, rfl⟩ := h.eq_cons
    simp
  | ok a => simp [h.eq_nil]

lemma ReportsFirst.error_iff (h : ReportsFirst x errors) (e : ε) :
    x = .error e ↔ errors.head? = some e := by
  rw [← h]
  cases x <;> simp [failureOf?]

/-! ### Arguments -/

lemma require_reportsFirst (field text : String) :
    ReportsFirst (Arguments.require field text) (required field text) := by
  unfold Arguments.require required
  split <;> rfl

lemma requirePoint_reportsFirst (field : String) (point : Option RevisionPoint) :
    ReportsFirst (Arguments.requirePoint field point) (requiredPoint field point) := by
  unfold Arguments.requirePoint requiredPoint
  cases point with
  | none => rfl
  | some p => cases hp : p.isEmpty <;> simp [hp, ReportsFirst, failureOf?]

lemma regexes_reportsFirst (patterns : List String) :
    ReportsFirst (Arguments.regexes patterns) (patternDefects patterns) := by
  induction patterns with
  | nil => exact .ok _
  | cons pattern patterns ih =>
    have hsteps : patternDefects (pattern :: patterns) =
        [(failureOf? (ClassPattern.normalize pattern)).toList, patternDefects patterns].flatten := by
      unfold patternDefects
      cases hfirst : failureOf? (ClassPattern.normalize pattern) with
      | none => simp [hfirst]
      | some e => simp [hfirst]
    have hfirst : ReportsFirst (ClassPattern.normalize pattern)
        (failureOf? (ClassPattern.normalize pattern)).toList := by
      cases ClassPattern.normalize pattern <;> rfl
    rw [hsteps, Arguments.regexes]
    refine hfirst.bind fun _ => ?_
    exact ih.bind fun _ => .ok _

lemma filterArguments_reportsFirst (f : SelectionFilter) :
    ReportsFirst (Arguments.filterArguments f)
      [patternDefects f.includeClasses, patternDefects f.excludeClasses].flatten :=
  (regexes_reportsFirst _).bind fun _ => (regexes_reportsFirst _).bind fun _ => .ok _

lemma arguments_reportsFirst (cwd : Path) (config : Config) (request : LaunchRequest) :
    ReportsFirst
      (Arguments.build cwd (Plan.selection config request (agentOf config request)))
      (argumentDefects config request) := by
  refine (require_reportsFirst _ _).bind fun url => ?_
  refine (require_reportsFirst _ _).bind fun project => ?_
  refine (require_reportsFirst _ _).bind fun user => ?_
  refine (require_reportsFirst _ _).bind fun accessToken => ?_
  refine (require_reportsFirst _ _).bind fun partitionName => ?_
  refine (requirePoint_reportsFirst _ _).bind fun baseline => ?_
  refine (requirePoint_reportsFirst _ _).bind fun fin => ?_
  refine (require_reportsFirst _ _).bind fun agentUrl => ?_
  exact (filterArguments_reportsFirst request.filter).map _

/-! ### Directives -/

lemma checkControlPort_reportsFirst (limit : Number.DigitLimit) (port : Int) :
    ReportsFirst (Agent.checkControlPort limit (.int port))
      (if 1 ≤ port ∧ port ≤ 65535 then [] else [portFailure limit port]) := by
  rw [checkControlPort_int]
  split <;> rfl

lemma directive_reportsFirst (limit : Number.DigitLimit) (cwd workingDir artifact dumpDir : Path)
    (c : AgentConfig) :
    ReportsFirst ((c.agent dumpDir).directive limit cwd workingDir artifact)
      (agentDefects limit c) := by
  unfold AgentConfig.agent agentDefects
  cases c.mode with
  | remote => exact .ok _
  | «local» =>
    refine (checkControlPort_reportsFirst limit c.controlPort).append fun port => ?_
    cases c.jar <;> rfl

/-! ### Plans -/

/-- What is wrong with something made of paths is told before that they cannot be read. -/
lemma reading_reportsFirst {paths : List Path} {make : Path → Attempt α} {defects : List Failure}
    (h : ∀ cwd, ReportsFirst (make cwd) defects) :
    ReportsFirst (around.reading paths make) (defects ++ unplaced around paths) := by
  have hmade := h (around.directory.getD .here)
  unfold Surroundings.reading unplaced
  cases hcase : make (around.directory.getD .here) with
  | error e =>
    rw [hcase] at hmade
    obtain ⟨later, rfl⟩ := hmade.eq_cons
    rfl
  | ok made =>
    rw [hcase] at hmade
    rw [hmade.eq_nil]
    dsimp only
    split <;> rfl

lemma ReportsFirst.ofError {x : Except LaunchError α} {errors : List LaunchError}
    (h : ReportsFirst x errors) : ReportsFirst (Failure.ofError x) (errors.map .error) := by
  cases x with
  | error e =>
    obtain ⟨later, rfl⟩ := h.eq_cons
    rfl
  | ok a =>
    rw [h.eq_nil]
    rfl

lemma build_reportsFirst (config : Config) (around : Surroundings) (request : LaunchRequest) :
    ReportsFirst (Plan.build config around request) (hindrances config around request) := by
  unfold Plan.build hindrances
  refine (reading_reportsFirst fun cwd => ?_).append fun directive => ?_
  · exact directive_reportsFirst around.digitLimit cwd _ _ _ config.agent
  · exact (reading_reportsFirst fun cwd =>
      (arguments_reportsFirst cwd config request).ofError).map _

lemma hindrances_of_directory (h : around.directory.isSome = true) :
    hindrances config around request = planDefects around.digitLimit config request := by
  have hplaced : ∀ paths, unplaced around paths = [] := by
    intro paths
    rw [unplaced, h, Bool.true_or]
    exact if_pos rfl
  rw [hindrances, hplaced, hplaced, List.append_nil, List.append_nil, planDefects]

lemma patternDefects_family (patterns : List String) :
    ∀ e ∈ patternDefects patterns, e.family = .pattern := by
  intro e he
  obtain ⟨pattern, -, herror⟩ := List.mem_filterMap.mp he
  unfold ClassPattern.normalize at herror
  dsimp only at herror
  split at herror
  · obtain rfl := Option.some.inj herror
    rfl
  · cases herror

/-- In a current directory that is there, a plan is made exactly if nothing is wrong with the
configuration and the request, and otherwise the first thing that is wrong is reported. It is an error
about the configuration, except for a port out of range that has more digits than are written. If the
directory was removed, it is also in the way of a plan that relative paths have to be read from it,
first those of the directive and last that of the reports. -/
theorem build_reports_first (config : Config) (around : Surroundings) (request : LaunchRequest) :
    (around.directory.isSome = true →
      ((∃ plan, Plan.build config around request = .ok plan) ↔
        planDefects around.digitLimit config request = []) ∧
      ∀ f, Plan.build config around request = .error f ↔
        (planDefects around.digitLimit config request).head? = some f) ∧
    ((∃ plan, Plan.build config around request = .ok plan) ↔
      hindrances config around request = []) ∧
    (∀ f, Plan.build config around request = .error f ↔
      (hindrances config around request).head? = some f) ∧
    (∀ f, Plan.build config around request = .error f → PlanFailure config around f) ∧
    ∀ patterns, ∀ e ∈ patternDefects patterns, e.family = .pattern := by
  have hfirst := build_reportsFirst config around request
  refine ⟨fun hdirectory => ?_, hfirst.ok_iff, hfirst.error_iff, fun f => build_error,
    patternDefects_family⟩
  rw [hindrances_of_directory hdirectory] at hfirst
  exact ⟨hfirst.ok_iff, hfirst.error_iff⟩

/-- A port out of range, a project that is missing and a blank in a class pattern. -/
def sampleDefective (port : Int) : Config × LaunchRequest :=
  ({ sampleConfig with
      server := { sampleConfig.server with project := some "" }
      agent := { sampleConfig.agent with controlPort := port } },
    { sampleRequest with filter := { sampleRequest.filter with includeClasses := ["a b", "c"] } })

/-- A port with more digits than are written. -/
def sampleLongPort : Int := Nat.pow 10 4300

/-- Of three things that are wrong the port is reported, or that it has too many digits, and with none
of them a plan is made. -/
theorem sample_defects_reported :
    (planDefects .standard (sampleDefective 65536).1 (sampleDefective 65536).2).length = 3 ∧
      Plan.build (sampleDefective 65536).1 sampleSurroundings (sampleDefective 65536).2 =
        .error (.error (.of (.invalidValue "agent.port" "65536" "must be 1-65535"))) ∧
      Plan.build (sampleDefective sampleLongPort).1 sampleSurroundings
          (sampleDefective sampleLongPort).2 =
        .error (.fault (.badValue (Number.DigitLimit.writingComplaint (some 4300)))) ∧
      (∃ plan, Plan.build sampleConfig sampleSurroundings sampleRequest = .ok plan) ∧
      ∀ e ∈ patternDefects ["a b", "c"], e.family = .pattern := by
  have hport : ∀ port : Int, ¬(1 ≤ port ∧ port ≤ 65535) →
      Plan.build (sampleDefective port).1 sampleSurroundings (sampleDefective port).2 =
        .error (portFailure .standard port) := by
    intro port hrange
    obtain ⟨hdefective, -⟩ := build_reports_first (sampleDefective port).1 sampleSurroundings
      (sampleDefective port).2
    refine ((hdefective rfl).2 _).mpr ?_
    change ((if 1 ≤ port ∧ port ≤ 65535 then [] else [portFailure .standard port]) ++ _ ++
      _).head? = _
    rw [if_neg hrange]
    rfl
  have hshort : Number.DigitLimit.standard.writes 65536 = true := by decide +kernel
  have hlong : Number.DigitLimit.standard.writes sampleLongPort = false := by decide +kernel
  obtain ⟨hgood, -, -, -, hpatterns⟩ := build_reports_first sampleConfig sampleSurroundings
    sampleRequest
  refine ⟨by decide +kernel, ?_, ?_, (hgood rfl).1.mpr ?_, hpatterns _⟩
  · rw [hport 65536 (by decide), portFailure, hshort]
    rfl
  · rw [hport sampleLongPort (by decide +kernel), portFailure, hlong]
    rfl
  · exact List.length_eq_zero_iff.mp (by decide +kernel)

/-- Nothing is wrong with a configuration and a request, and in a current directory that was removed
there is no plan for them. -/
theorem sample_plan_has_no_place :
    planDefects .standard sampleConfig sampleRequest = [] ∧
      Plan.build sampleConfig ⟨none, [], .standard⟩ sampleRequest =
        .error (.fault (.os .nowhere)) := by
  refine ⟨List.length_eq_zero_iff.mp (by decide +kernel), ?_⟩
  exact ((build_reportsFirst _ _ _).error_iff _).mpr rfl

end TestImpact.Proofs
