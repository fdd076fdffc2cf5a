import TestImpact.Proofs.Launch.Moments

/-!
# When a launcher is called

A launch calls its launcher at most once, and it does so exactly if all gates are open. Otherwise it
fails at the first gate that is not.
-/

namespace TestImpact.Proofs
open Files Session

variable {setting : Setting} {request : LaunchRequest} {plan : Plan} {call : LauncherCall}
  {launcher : Launcher} {s t u : Session} {ending : LauncherEnd} {f : Failure}

lemma finish_calls (outcome : Session × Attempt LaunchResult) :
    callsOf (finish outcome).1.trace = callsOf outcome.1.trace := by
  obtain ⟨s, result | f⟩ := outcome
  · exact (fail_tells s _).calls
  · rfl

lemma finish_result (outcome : Session × Attempt LaunchResult) :
    (finish outcome).2 = outcome.2 := by
  obtain ⟨s, result | f⟩ := outcome <;> rfl

/-- A launch that comes to its launcher calls it once. -/
lemma calls_of_handover (h : handover? setting request s = some (plan, call, t))
    (launcher : Launcher) :
    callsOf (s.launch setting launcher request).1.trace = callsOf s.trace + 1 := by
  obtain ⟨u, ending, hplay⟩ : ∃ u ending, (launcher call).play setting t = (u, ending) :=
    ⟨_, _, rfl⟩
  obtain ⟨-, happroach⟩ := handover_approach h
  obtain ⟨-, -, -, -, v, htells, rfl⟩ := approach_ok happroach
  rw [launch_of_handover h hplay]
  have hconclude := (conclude_logs setting request plan u ending).calls
  have hrun := (inFlight_play (inFlight_handover h).1 hplay).calls
  rw [finish_calls, hconclude, hrun, callsOf_note_call, htells.calls]
  rfl

/-! ### A launch for examples -/

def sampleConfig : Config :=
  { Config.default with
    server := ⟨some "https://ts.example", some "demo", some "u", some "t"⟩
    agent := { AgentConfig.default with jar := some (Path.ofText "lib/agent.jar") }
    executor := { ExecutorConfig.default with
      java := "/bin/java", classpath := [Path.ofText "lib/executor.jar"] } }

def sampleRequest : LaunchRequest where
  context := ⟨"test", "build", ".", []⟩
  window := ⟨some (.ofText "rev-100"), some (.ofText "rev-120")⟩
  filter := ⟨[], [], [], [], [], []⟩
  runAll := false
  timeout := none

/-- An executable, and a directory to stand in. -/
def sampleFiles : Files :=
  ((Files.empty.place "bin" [] .dir).place "java" ["bin"] (.file [] true)).place "w" [] .dir

def sampleSetting : Setting :=
  ⟨sampleConfig, [], sampleFiles.hold ["w"], fun n => s!"run-{n}", .ofInt 0, .standard⟩

def sampleSurroundings : Surroundings := ⟨some (Path.ofText "/w"), [], .standard⟩

/-- A launcher that does nothing but end. -/
def idleLauncher : Launcher := fun _ => .ends (.exit 0)

/-- The fault with which an operation ended. -/
def faultOf? {α : Type} : Attempt α → Option Fault
  | .error (.fault f) => some f
  | _ => none

/-! ### Launches and gates -/

/-- A launch calls its launcher at most once, and it does so exactly if all gates are open. Otherwise
it ends with the failure of the first gate that is not open, and the session with it. A plan is
refused by an error about the configuration, unless it needs a current directory that was removed, or
the port of its agent is out of range and has more digits than are written. -/
theorem launch_calls_iff_gates_open (setting : Setting) (launcher : Launcher)
    (request : LaunchRequest) (s : Session) (hidle : s.busy = false)
    (hartifact : hasNull (setting.config.report.artifact request.context).toText = false)
    (hreports : hasNull (setting.config.report.reportsDir request.context).toText = false) :
    callsOf (s.launch setting launcher request).1.trace ≤ callsOf s.trace + 1 ∧
      (callsOf (s.launch setting launcher request).1.trace = callsOf s.trace + 1 ↔
        ∀ g : Gate, g.failure? setting request s.files = none) ∧
      (∀ g f, Gate.StopsAt setting request s.files g f →
        callsOf (s.launch setting launcher request).1.trace = callsOf s.trace ∧
          (s.launch setting launcher request).2 = .error f ∧
          (s.launch setting launcher request).1.state = .failed) ∧
      ((∀ g : Gate, g.failure? setting request s.files = none) ∨
        ∃ g f, Gate.StopsAt setting request s.files g f) ∧
      ∀ f, Gate.planned.failure? setting request s.files = some f →
        PlanFailure setting.config (setting.around s.files) f := by
  have hplanned : ∀ f, Gate.planned.failure? setting request s.files = some f →
      PlanFailure setting.config (setting.around s.files) f := by
    intro f hf
    rw [Gate.failure?] at hf
    split at hf
    · simp at hf
    · rename_i g hbuild
      obtain rfl := Option.some.inj hf
      exact build_error hbuild
  rcases handover_or_stop hidle setting request with ⟨plan, call, t, hhand⟩ |
    ⟨t, f, happroach, hlaunch⟩
  · obtain ⟨-, happroach⟩ := handover_approach hhand
    obtain ⟨-, hopen, -⟩ := approach_ok happroach
    have hcalls := calls_of_handover hhand launcher
    refine ⟨Nat.le_of_eq hcalls, iff_of_true hcalls hopen, fun g f hstop => ?_, .inl hopen, hplanned⟩
    exact absurd hopen hstop.not_open
  · obtain ⟨hlogs, g, hstop⟩ := approach_error hartifact hreports happroach
    change g.StopsAt setting request s.files f at hstop
    have hcalls : callsOf (s.launch setting launcher request).1.trace = callsOf s.trace := by
      rw [hlaunch, finish_calls, hlogs.calls]
      rfl
    refine ⟨by omega, iff_of_false (by omega) hstop.not_open, fun g' f' hstop' => ?_,
      .inr ⟨g, f, hstop⟩, hplanned⟩
    rw [← hstop.unique hstop', hlaunch]
    exact ⟨by rw [← hlaunch launcher, hcalls], rfl, fail_state t f⟩

/-- All gates are open, and the launcher is called. -/
theorem sample_launch_calls :
    callsOf ((Session.start sampleFiles).launch sampleSetting idleLauncher sampleRequest).1.trace = 1 ∧
      ∀ g : Gate, g.failure? sampleSetting sampleRequest sampleFiles = none := by
  have hcalls : callsOf ((Session.start sampleFiles).launch sampleSetting idleLauncher
      sampleRequest).1.trace = 1 := by decide +kernel
  have hlaunch := launch_calls_iff_gates_open sampleSetting idleLauncher sampleRequest
    (Session.start sampleFiles) rfl (by decide +kernel) (by decide +kernel)
  exact ⟨hcalls, hlaunch.2.1.mp hcalls⟩

/-- A launch whose plan fails does not always report an error about the configuration: in a directory
that was removed, a plan with relative paths ends with an error of the system. -/
theorem plan_failure_may_be_no_configuration_error :
    ¬∀ (setting : Setting) (launcher : Launcher) (request : LaunchRequest) (s : Session),
      s.busy = false →
      hasNull (setting.config.report.artifact request.context).toText = false →
      hasNull (setting.config.report.reportsDir request.context).toText = false →
      (Gate.planned.failure? setting request s.files).isSome = true →
      ∃ e, (s.launch setting launcher request).2 = .error (.error e) ∧ e.isConfiguration = true := by
  intro hclaim
  obtain ⟨e, he, -⟩ := hclaim sampleSetting idleLauncher sampleRequest
    (Session.start (sampleFiles.eraseTree ["w"])) rfl (by decide +kernel) (by decide +kernel)
    (by decide +kernel)
  have hfault : faultOf? ((Session.start (sampleFiles.eraseTree ["w"])).launch sampleSetting
      idleLauncher sampleRequest).2 = some (.os .nowhere) := by decide +kernel
  rw [he] at hfault
  simp [faultOf?] at hfault

end TestImpact.Proofs
