import TestImpact.Proofs.Launch.Gates

/-!
# Moments of a launcher's run

A launch hands the session over to its launcher, and the launcher goes on from one moment to the
next. All that time the launch stays in flight: whatever the launcher does, it adds no record and no
call to the trace, and a launch that it asks for is refused.
-/

namespace TestImpact.Proofs
open Session

variable {setting : Setting} {request : LaunchRequest} {plan : Plan} {call : LauncherCall}
  {launcher : Launcher} {run run' run'' : LauncherRun} {s t u v : Session} {ending : LauncherEnd}
  {f : Failure}

/-! ### Handing over -/

/-- The moment at which a launch calls its launcher, if it does: the plan, the call, and the session.
-/
def handover? (setting : Setting) (request : LaunchRequest) (s : Session) :
    Option (Plan × LauncherCall × Session) :=
  if s.busy then none
  else
    match (s.begin setting).approach setting request (setting.runIds s.launches) with
    | (t, .ok (plan, call)) => some (plan, call, t)
    | (_, .error _) => none

/-- The answer to a launch that is asked for while another one is in flight. -/
def refusal (state : LaunchState) : Attempt LaunchResult :=
  .error (.error (.of (.inProgress state.name)))

/-- A launch that is asked for while another one is in flight changes nothing. -/
lemma launch_busy (h : s.busy = true) (setting : Setting) (launcher : Launcher)
    (request : LaunchRequest) : s.launch setting launcher request = (s, refusal s.state) := by
  rw [launch, launchBy, if_pos h]
  rfl

lemma launch_idle (h : s.busy = false) (setting : Setting) (launcher : Launcher)
    (request : LaunchRequest) :
    s.launch setting launcher request =
      finish ((s.begin setting).carryOut setting (fun call t => (launcher call).play setting t)
        request (setting.runIds s.launches)) := by
  rw [launch, launchBy, if_neg (by simp [h])]

lemma handover_approach (h : handover? setting request s = some (plan, call, t)) :
    s.busy = false ∧ (s.begin setting).approach setting request (setting.runIds s.launches) =
      (t, .ok (plan, call)) := by
  rw [handover?] at h
  split at h
  · simp at h
  rename_i hbusy
  split at h
  · rename_i t' plan' call' happroach
    obtain ⟨rfl, rfl, rfl⟩ : plan' = plan ∧ call' = call ∧ t' = t := by simpa using h
    exact ⟨by simpa using hbusy, happroach⟩
  · simp at h

/-- What the launcher is called with is planned from the files before the launch. -/
lemma handover_call (h : handover? setting request s = some (plan, call, t)) :
    Planned setting.config (setting.around s.files) request plan ∧
      call = ⟨plan.command, plan.workingDir,
        plan.env.set runIdVariable (setting.runIds s.launches), request.timeout⟩ := by
  obtain ⟨-, happroach⟩ := handover_approach h
  exact ⟨planned_of_build (approach_ok happroach).1, approach_call happroach⟩

/-- A launch that comes to its launcher goes on with the launcher's run. -/
lemma launchBy_of_handover (h : handover? setting request s = some (plan, call, t))
    {carry : LauncherCall → Session → Session × LauncherEnd} (hcarry : carry call t = (u, ending)) :
    s.launchBy setting carry request = finish (u.conclude setting request plan ending) := by
  obtain ⟨hidle, happroach⟩ := handover_approach h
  rw [launchBy, if_neg (by simp [hidle]), carryOut, happroach]
  simp only [hcarry]

lemma launch_of_handover (h : handover? setting request s = some (plan, call, t))
    (hplay : (launcher call).play setting t = (u, ending)) :
    s.launch setting launcher request = finish (u.conclude setting request plan ending) :=
  launchBy_of_handover h hplay

lemma launchBy_of_stop (hidle : s.busy = false)
    (happroach : (s.begin setting).approach setting request (setting.runIds s.launches) =
      (t, .error f)) (carry : LauncherCall → Session → Session × LauncherEnd) :
    s.launchBy setting carry request = finish (t, .error f) := by
  rw [launchBy, if_neg (by simp [hidle]), carryOut, happroach]

/-- A launch comes to its launcher, or it ends with what was in its way. -/
lemma handover_or_stop (hidle : s.busy = false) (setting : Setting) (request : LaunchRequest) :
    (∃ plan call t, handover? setting request s = some (plan, call, t)) ∨
      ∃ t f, (s.begin setting).approach setting request (setting.runIds s.launches) =
          (t, .error f) ∧
        ∀ launcher, s.launch setting launcher request = finish (t, .error f) := by
  cases happroach : (s.begin setting).approach setting request (setting.runIds s.launches) with
  | mk t outcome =>
    cases outcome with
    | ok pair =>
      refine .inl ⟨pair.1, pair.2, t, ?_⟩
      rw [handover?, if_neg (by simp [hidle]), happroach]
    | error f =>
      exact .inr ⟨t, f, rfl, fun launcher => launchBy_of_stop hidle happroach _⟩

/-! ### The launcher's run -/

/-- What a launcher does between two moments of its run. -/
inductive Step (setting : Setting) : LauncherRun → Session → LauncherRun → Session → Prop
  | change (g : Files → Files) (next : LauncherRun) (s : Session) :
    Step setting (.change g next) s next { s with files := g s.files }
  | observe (next : Files → LauncherRun) (s : Session) :
    Step setting (.observe next) s (next s.files) s
  | relaunch (request : LaunchRequest) (nested : Launcher)
      (next : Attempt LaunchResult → LauncherRun) {s t : Session} {answer : Attempt LaunchResult} :
    s.launch setting nested request = (t, answer) →
      Step setting (.relaunch request nested next) s (next answer) (t.note (.reply answer t.state))

/-- The moments that a launcher comes to when it is started: what it still does, and the session. -/
inductive Reached (setting : Setting) (run : LauncherRun) (s : Session) :
    LauncherRun → Session → Prop
  | start : Reached setting run s run s
  | step {run' run'' : LauncherRun} {u v : Session} :
    Reached setting run s run' u → Step setting run' u run'' v → Reached setting run s run'' v

lemma Reached.trans (h : Reached setting run s run' u) (k : Reached setting run' u run'' v) :
    Reached setting run s run'' v := by
  induction k with
  | start => exact h
  | step _ hstep ih => exact ih.step hstep

lemma Step.play (h : Step setting run s run' t) : run.play setting s = run'.play setting t := by
  cases h with
  | change => rfl
  | observe => rfl
  | relaunch request nested next hlaunch =>
    rw [LauncherRun.play]
    rw [launch] at hlaunch
    simp only [hlaunch]

/-- However far a launcher has come, it ends in the same way. -/
lemma Reached.play (h : Reached setting run s run' t) :
    run.play setting s = run'.play setting t := by
  induction h with
  | start => rfl
  | step _ hstep ih => exact ih.trans hstep.play

/-- A launcher comes to its end by steps. -/
lemma reached_play (run : LauncherRun) (s : Session) (h : run.play setting s = (u, ending)) :
    Reached setting run s (.ends ending) u := by
  induction run generalizing s with
  | ends e =>
    rw [LauncherRun.play] at h
    obtain ⟨rfl, rfl⟩ := Prod.mk.inj h
    exact .start
  | change g next ih =>
    exact (Reached.start.step (.change g next s)).trans (ih _ h)
  | observe next ih =>
    exact (Reached.start.step (.observe next s)).trans (ih _ _ h)
  | relaunch request nested next _ ih =>
    exact (Reached.start.step (.relaunch request nested next rfl)).trans (ih _ _ h)

/-! ### What stays during the run -/

/-- What a launcher leaves as it was when it was called. -/
structure InFlight (t v : Session) : Prop where
  busy : v.busy = true
  state : v.state = .running
  runId : v.runId = t.runId
  launches : v.launches = t.launches
  records : recordsOf v.trace = recordsOf t.trace
  calls : callsOf v.trace = callsOf t.trace

lemma InFlight.refuses (h : InFlight t v) (setting : Setting) (launcher : Launcher)
    (request : LaunchRequest) : v.launch setting launcher request = (v, refusal .running) := by
  rw [launch_busy h.busy, h.state]

lemma InFlight.note_reply (h : InFlight t v) (answer : Attempt LaunchResult)
    (state : LaunchState) : InFlight t (v.note (.reply answer state)) where
  busy := h.busy
  state := h.state
  runId := h.runId
  launches := h.launches
  records := (recordsOf_note_reply v answer state).trans h.records
  calls := (callsOf_note_reply v answer state).trans h.calls

lemma inFlight_step (h : InFlight t u) (hstep : Step setting run u run' v) : InFlight t v := by
  cases hstep with
  | change => exact ⟨h.busy, h.state, h.runId, h.launches, h.records, h.calls⟩
  | observe => exact h
  | relaunch request nested next hlaunch =>
    rw [h.refuses] at hlaunch
    obtain ⟨rfl, rfl⟩ := Prod.mk.inj hlaunch
    exact h.note_reply _ _

lemma inFlight_reached (h : InFlight t s) (hreached : Reached setting run s run' v) :
    InFlight t v := by
  induction hreached with
  | start => exact h
  | step _ hstep ih => exact inFlight_step ih hstep

/-- What was in the trace when the launcher was called stays there. -/
lemma trace_reached (h : InFlight t s) (hreached : Reached setting run s run' v) :
    s.trace <+: v.trace := by
  induction hreached with
  | start => exact List.prefix_refl _
  | @step _ _ u _ hrun hstep ih =>
    cases hstep with
    | change => exact ih
    | observe => exact ih
    | relaunch request nested next hlaunch =>
      rw [(inFlight_reached h hrun).refuses] at hlaunch
      obtain ⟨rfl, rfl⟩ := Prod.mk.inj hlaunch
      exact ih.trans (List.prefix_append _ _)

lemma inFlight_play (h : InFlight t s) (hplay : run.play setting s = (u, ending)) :
    InFlight t u := inFlight_reached h (reached_play run s hplay)

/-- When a launcher is called, its launch is in flight. -/
lemma inFlight_handover (h : handover? setting request s = some (plan, call, t)) :
    InFlight t t ∧ t.runId = some (setting.runIds s.launches) := by
  obtain ⟨-, happroach⟩ := handover_approach h
  obtain ⟨-, -, -, hstate, u, htells, rfl⟩ := approach_ok happroach
  exact ⟨⟨htells.busy, hstate, rfl, rfl, rfl, rfl⟩, htells.runId⟩

/-- Until its launcher has ended, a launch has told of its preparation and of the start. -/
lemma told_before_end (h : handover? setting request s = some (plan, call, t))
    (hplay : (launcher call).play setting t = (u, ending)) :
    eventsOf u.trace = eventsOf s.trace ++ (preparationEvents setting request s.files ++
      ["launch.spawning", "launch.arguments"]) := by
  obtain ⟨-, happroach⟩ := handover_approach h
  obtain ⟨-, -, -, -, v, htells, rfl⟩ := approach_ok happroach
  rw [eventsOf, (inFlight_play (inFlight_handover h).1 hplay).records, recordsOf_note_call]
  exact htells.told

end TestImpact.Proofs
