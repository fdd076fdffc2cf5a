import TestImpact.Launch.Operation
import TestImpact.Proofs.Launch.Reentry

/-!
# Whole sessions

Between the operations on a session no launch is in flight, and the state tells how the last launch
ended. During a launch the state is running from the call of the launcher to its end.
-/

namespace TestImpact.Proofs
open Session

variable {setting : Setting} {request : LaunchRequest} {s t : Session}
  {last : Option (Attempt LaunchResult)}

/-! ### Between operations -/

/-- The state of a session whose last launch ended in a way. -/
def restingState : Option (Attempt LaunchResult) → LaunchState
  | none => .idle
  | some (.ok _) => .completed
  | some (.error _) => .failed

/-- How the last launch ended, if there was one. -/
def lastOutcome (answers : List Answer) : Option (Attempt LaunchResult) :=
  (answers.filterMap Answer.outcome?).getLast?

/-- No launch is in flight, and the state is that of the last one. -/
structure Settled (s : Session) (last : Option (Attempt LaunchResult)) : Prop where
  free : s.busy = false
  noId : s.runId = none
  state : s.state = restingState last

lemma settled_start (files : Files) : Settled (Session.start files) none := ⟨rfl, rfl, rfl⟩

lemma settled_finish_error (s : Session) (f : Failure) :
    Settled (finish (s, .error f)).1 (some (.error f)) := ⟨rfl, rfl, fail_state s f⟩

lemma settled_finish_conclude (setting : Setting) (request : LaunchRequest) (plan : Plan)
    (s : Session) (ending : LauncherEnd) :
    Settled (finish (s.conclude setting request plan ending)).1
      (some (finish (s.conclude setting request plan ending)).2) := by
  cases hconclude : s.conclude setting request plan ending with
  | mk t outcome =>
    cases outcome with
    | ok result =>
      have hdone : t.state = .completed := (conclude_ok hconclude).1
      exact ⟨rfl, rfl, hdone⟩
    | error f => exact settled_finish_error t f

/-- However a launch ends, it leaves the session settled. -/
lemma settled_launch (h : Settled s last) (setting : Setting) (launcher : Launcher)
    (request : LaunchRequest) :
    Settled (s.launch setting launcher request).1
      (some (s.launch setting launcher request).2) := by
  rw [launch_idle h.free, carryOut]
  split
  · exact settled_finish_error _ _
  · exact settled_finish_conclude _ _ _ _ _

lemma perform_launch (setting : Setting) (launcher : Launcher) (request : LaunchRequest)
    (s : Session) :
    s.perform setting (.launch launcher request) =
      ((s.launch setting launcher request).1, .launched (s.launch setting launcher request).2) := rfl

lemma perform_prepare (setting : Setting) (run : RunContext) (s : Session) :
    s.perform setting (.prepare run) =
      ((s.prepareArtifact setting run).1, .prepared (s.prepareArtifact setting run).2) := rfl

lemma perform_reset (setting : Setting) (path : Path) (s : Session) :
    s.perform setting (.reset path) =
      ((s.resetArtifact setting path).1, .wasReset (s.resetArtifact setting path).2) := rfl

/-- An operation that is no launch leaves state, lock and run id as they are. -/
lemma perform_keeps {op : Operation} (hop : op.isLaunch = false) (setting : Setting) (s : Session) :
    (s.perform setting op).1.state = s.state ∧ (s.perform setting op).1.busy = s.busy ∧
      (s.perform setting op).1.runId = s.runId ∧ (s.perform setting op).2.outcome? = none := by
  cases op with
  | launch => simp [Operation.isLaunch] at hop
  | plan => exact ⟨rfl, rfl, rfl, rfl⟩
  | resolve => exact ⟨rfl, rfl, rfl, rfl⟩
  | prepare run =>
    obtain ⟨htells, hstate⟩ := prepareArtifact_tells setting run s
    rw [perform_prepare]
    exact ⟨hstate, htells.busy, htells.runId, rfl⟩
  | reset path =>
    obtain ⟨htells, hstate⟩ := resetArtifact_tells setting path s
    rw [perform_reset]
    exact ⟨hstate, htells.busy, htells.runId, rfl⟩
  | change => exact ⟨rfl, rfl, rfl, rfl⟩

lemma settled_perform (h : Settled s last) (setting : Setting) (op : Operation) :
    Settled (s.perform setting op).1 ((s.perform setting op).2.outcome?.or last) ∧
      (s.perform setting op).2.outcome?.isSome = op.isLaunch := by
  cases hop : op.isLaunch with
  | false =>
    obtain ⟨hstate, hbusy, hid, hanswer⟩ := perform_keeps hop setting s
    rw [hanswer]
    exact ⟨⟨hbusy.trans h.free, hid.trans h.noId, hstate.trans h.state⟩, rfl⟩
  | true =>
    cases op with
    | launch launcher request =>
      rw [perform_launch]
      exact ⟨settled_launch h setting launcher request, rfl⟩
    | _ => simp [Operation.isLaunch] at hop

lemma lastOutcome_cons (answer : Answer) (answers : List Answer) :
    (lastOutcome (answer :: answers)).or last = (lastOutcome answers).or (answer.outcome?.or last) := by
  cases hanswer : answer.outcome? with
  | none => simp [lastOutcome, hanswer]
  | some outcome =>
    simp only [lastOutcome, List.filterMap_cons, hanswer]
    cases hmore : answers.filterMap Answer.outcome? with
    | nil => rfl
    | cons first more => simp [List.getLast?_cons]

/-- Operations keep a session settled, whatever their order. -/
lemma settled_performAll (h : Settled s last) (setting : Setting) (ops : List Operation) :
    Settled (s.performAll setting ops).1 ((lastOutcome (s.performAll setting ops).2).or last) ∧
      (s.performAll setting ops).2.map (fun answer => answer.outcome?.isSome) =
        ops.map Operation.isLaunch := by
  induction ops generalizing s last with
  | nil => exact ⟨h, rfl⟩
  | cons op ops ih =>
    obtain ⟨hstep, hlaunch⟩ := settled_perform h setting op
    obtain ⟨hrest, hlaunches⟩ := ih hstep
    rw [performAll]
    dsimp only
    rw [lastOutcome_cons, List.map_cons, List.map_cons, hlaunch, hlaunches]
    exact ⟨hrest, rfl⟩

/-! ### Sessions with their launches -/

/-- After any operations on a session no launch is in flight and there is no run id, and the state is
idle if nothing was launched, completed if the last launch returned, and failed if it did not; other
operations keep the state. In every launch that comes to its launcher, at each moment of the
launcher's run, the state is running, and a launch that is asked for is refused with the session as it
was. The launch itself ends as if its launcher had asked for none. -/
theorem sessions_settle (setting : Setting) (files : Files) (history : List Operation) :
    ∃ s answers, (Session.start files).performAll setting history = (s, answers) ∧
      answers.map (fun answer => answer.outcome?.isSome) = history.map Operation.isLaunch ∧
      s.busy = false ∧ s.runId = none ∧ s.state = restingState (lastOutcome answers) ∧
      (∀ op : Operation, op.isLaunch = false → (s.perform setting op).1.state = s.state) ∧
      (∀ launcher request plan call t, handover? setting request s = some (plan, call, t) →
        (∃ u ending, Reached setting (launcher call) t (.ends ending) u ∧
          s.launch setting launcher request = finish (u.conclude setting request plan ending)) ∧
        ∀ run v, Reached setting (launcher call) t run v →
          v.busy = true ∧ v.state = .running ∧ v.runId = some (setting.runIds s.launches) ∧
            recordsOf v.trace = recordsOf t.trace ∧ callsOf v.trace = callsOf t.trace ∧
            ∀ nested request', v.launch setting nested request' =
              (v, .error (.error (.of (.inProgress "running"))))) ∧
      ∀ launcher request,
        unanswered (s.launch setting (fun call => quiet (launcher call)) request).1 =
            unanswered (s.launch setting launcher request).1 ∧
          (s.launch setting (fun call => quiet (launcher call)) request).2 =
            (s.launch setting launcher request).2 := by
  obtain ⟨hsettled, hlaunches⟩ := settled_performAll (settled_start files) setting history
  rw [Option.or_none] at hsettled
  refine ⟨_, _, rfl, hlaunches, hsettled.free, hsettled.noId, hsettled.state,
    fun op hop => (perform_keeps hop setting _).1, fun launcher request plan call t hhand => ?_,
    fun launcher request => launch_quiet setting launcher request _⟩
  obtain ⟨hflight, hid⟩ := inFlight_handover hhand
  constructor
  · exact ⟨_, _, reached_play (launcher call) t rfl, launch_of_handover hhand rfl⟩
  · intro run v hreached
    have hv := inFlight_reached hflight hreached
    exact ⟨hv.busy, hv.state, hv.runId.trans hid, hv.records, hv.calls,
      fun nested request' => hv.refuses setting nested request'⟩

/-- A launch whose launcher asks for another one comes to its launcher, and is completed. -/
theorem sample_session_settles :
    (handover? sampleSetting sampleRequest (Session.start sampleFiles)).isSome = true ∧
      ∃ s answers, (Session.start sampleFiles).performAll sampleSetting
          [.launch (fun _ => .relaunch sampleRequest idleLauncher fun _ => .ends (.exit 0))
            sampleRequest] = (s, answers) ∧
        s.busy = false ∧ s.runId = none ∧ s.state = restingState (lastOutcome answers) := by
  refine ⟨by decide +kernel, ?_⟩
  obtain ⟨s, answers, hrun, -, hfree, hid, hstate, -⟩ := sessions_settle sampleSetting sampleFiles
    [.launch (fun _ => .relaunch sampleRequest idleLauncher fun _ => .ends (.exit 0)) sampleRequest]
  exact ⟨s, answers, hrun, hfree, hid, hstate⟩

end TestImpact.Proofs
