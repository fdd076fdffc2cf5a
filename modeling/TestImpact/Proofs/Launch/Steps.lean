import Mathlib.Tactic.Lemma
import TestImpact.Launch.Basic

/-!
# Steps of a launch

Every step of a launch may change the files and the state, and adds log records to the trace, under
the id of the launch, of events that are known beforehand. The launch itself stays in flight.
-/

namespace TestImpact.Proofs
open Session

variable {setting : Setting} {request : LaunchRequest} {plan : Plan} {s t u : Session}
  {events first second : List String}

/-- The log records of a trace. -/
def recordsOf (trace : List TraceEntry) : List LogRecord :=
  trace.filterMap fun entry =>
    match entry with
    | .record r => some r
    | _ => none

/-- The events of the log records of a trace. -/
def eventsOf (trace : List TraceEntry) : List String := (recordsOf trace).map (·.event)

/-- The number of calls of a launcher. -/
def callsOf (trace : List TraceEntry) : Nat := trace.countP TraceEntry.isCall

@[simp] lemma recordsOf_append (tr tr' : List TraceEntry) :
    recordsOf (tr ++ tr') = recordsOf tr ++ recordsOf tr' := List.filterMap_append

@[simp] lemma eventsOf_append (tr tr' : List TraceEntry) :
    eventsOf (tr ++ tr') = eventsOf tr ++ eventsOf tr' := by simp [eventsOf]

@[simp] lemma callsOf_append (tr tr' : List TraceEntry) :
    callsOf (tr ++ tr') = callsOf tr + callsOf tr' := List.countP_append

@[simp] lemma callsOf_records (records : List LogRecord) :
    callsOf (records.map .record) = 0 := by
  induction records with
  | nil => rfl
  | cons r records ih => simp [callsOf, TraceEntry.isCall]

@[simp] lemma recordsOf_records (records : List LogRecord) :
    recordsOf (records.map .record) = records := by
  induction records with
  | nil => rfl
  | cons r records ih => exact congrArg (r :: ·) ih

@[simp] lemma eventsOf_records (records : List LogRecord) :
    eventsOf (records.map .record) = records.map (·.event) := by
  rw [eventsOf, recordsOf_records]

@[simp] lemma recordsOf_note_call (s : Session) (call : LauncherCall) (state : LaunchState) :
    recordsOf (s.note (.call call state)).trace = recordsOf s.trace := by
  simp [note, recordsOf]

@[simp] lemma recordsOf_note_reply (s : Session) (answer : Attempt LaunchResult)
    (state : LaunchState) : recordsOf (s.note (.reply answer state)).trace = recordsOf s.trace := by
  simp [note, recordsOf]

@[simp] lemma callsOf_note_call (s : Session) (call : LauncherCall) (state : LaunchState) :
    callsOf (s.note (.call call state)).trace = callsOf s.trace + 1 := by
  simp [note, callsOf, TraceEntry.isCall]

@[simp] lemma callsOf_note_reply (s : Session) (answer : Attempt LaunchResult)
    (state : LaunchState) : callsOf (s.note (.reply answer state)).trace = callsOf s.trace := by
  simp [note, callsOf, TraceEntry.isCall]

@[simp] lemma eventsOf_log (s : Session) (level : LogLevel) (event : String)
    (fields : List (String × Data)) :
    eventsOf (s.log level event fields).trace = eventsOf s.trace ++ [event] := by
  simp [log, note, eventsOf, recordsOf]

/-! ### Steps that log -/

/-- What a step within a launch may do besides changing files and state: it logs. -/
structure Logs (s t : Session) : Prop where
  busy : t.busy = s.busy
  runId : t.runId = s.runId
  launches : t.launches = s.launches
  trace : ∃ records : List LogRecord,
    t.trace = s.trace ++ records.map .record ∧ ∀ r ∈ records, r.runId = s.runId

lemma Logs.refl (s : Session) : Logs s s := ⟨rfl, rfl, rfl, [], by simp, by simp⟩

lemma Logs.trans (h : Logs s t) (k : Logs t u) : Logs s u := by
  obtain ⟨first, hfirst, hids⟩ := h.trace
  obtain ⟨second, hsecond, hids'⟩ := k.trace
  refine ⟨k.busy.trans h.busy, k.runId.trans h.runId, k.launches.trans h.launches,
    first ++ second, ?_, fun r hr => ?_⟩
  · rw [hsecond, hfirst, List.map_append, List.append_assoc]
  · rcases List.mem_append.mp hr with hr | hr
    · exact hids r hr
    · rw [hids' r hr, h.runId]

/-- A log record is one of the records that a step may add. -/
lemma Logs.log (h : Logs s t) (level : LogLevel) (event : String) (fields : List (String × Data)) :
    Logs s (t.log level event fields) := by
  refine h.trans ⟨rfl, rfl, rfl, [⟨event, level, fields, t.runId⟩], rfl, ?_⟩
  simp

lemma Logs.withFiles (h : Logs s t) (files : Files) : Logs s { t with files } :=
  ⟨h.busy, h.runId, h.launches, h.trace⟩

lemma Logs.withState (h : Logs s t) (state : LaunchState) : Logs s { t with state } :=
  ⟨h.busy, h.runId, h.launches, h.trace⟩

lemma Logs.calls (h : Logs s t) : callsOf t.trace = callsOf s.trace := by
  obtain ⟨records, htrace, -⟩ := h.trace
  rw [htrace, callsOf_append, callsOf_records, Nat.add_zero]

/-- Everything that was logged is under the id of the launch in flight. -/
def LogsUnder (id : String) (s : Session) : Prop :=
  s.runId = some id ∧ ∀ r ∈ recordsOf s.trace, r.runId = some id

lemma Logs.logsUnder {id : String} (h : Logs s t) (hs : LogsUnder id s) : LogsUnder id t := by
  obtain ⟨records, htrace, hids⟩ := h.trace
  refine ⟨h.runId.trans hs.1, fun r hr => ?_⟩
  rw [htrace, recordsOf_append, recordsOf_records] at hr
  rcases List.mem_append.mp hr with hr | hr
  · exact hs.2 r hr
  · exact (hids r hr).trans hs.1

/-- What a step within a launch may do besides changing files and state: it logs these events. -/
structure Tells (s t : Session) (events : List String) : Prop extends Logs s t where
  told : eventsOf t.trace = eventsOf s.trace ++ events

lemma Tells.refl (s : Session) : Tells s s [] := ⟨.refl s, (List.append_nil _).symm⟩

lemma Tells.trans (h : Tells s t first) (k : Tells t u second) : Tells s u (first ++ second) :=
  ⟨h.toLogs.trans k.toLogs, by rw [k.told, h.told, List.append_assoc]⟩

lemma Tells.log (h : Tells s t events) (level : LogLevel) (event : String)
    (fields : List (String × Data)) : Tells s (t.log level event fields) (events ++ [event]) :=
  ⟨h.toLogs.log level event fields, by rw [eventsOf_log, h.told, List.append_assoc]⟩

lemma Tells.withFiles (h : Tells s t events) (files : Files) : Tells s { t with files } events :=
  ⟨h.toLogs.withFiles files, h.told⟩

lemma Tells.withState (h : Tells s t events) (state : LaunchState) :
    Tells s { t with state } events := ⟨h.toLogs.withState state, h.told⟩

lemma Tells.records (h : Tells s t events) :
    ∃ records : List LogRecord, t.trace = s.trace ++ records.map .record ∧
      records.map (·.event) = events ∧ ∀ r ∈ records, r.runId = s.runId := by
  obtain ⟨records, htrace, hids⟩ := h.trace
  refine ⟨records, htrace, ?_, hids⟩
  have htold := h.told
  rw [htrace, eventsOf_append] at htold
  rw [← List.append_cancel_left htold, eventsOf_records]

/-! ### What the steps of a launch tell -/

/-- What is told when an artifact is to be removed. -/
def removalEvents (setting : Setting) (path : Path) (fs : Files) : List String :=
  match fs.unlink (setting.location fs) path with
  | .ok _ => ["artifact.stale_removed"]
  | .error _ => []

/-- What a launch tells before its plan is handed over. -/
def preparationEvents (setting : Setting) (request : LaunchRequest) (fs : Files) : List String :=
  "launch.preparing" ::
    match Plan.build setting.config (setting.around fs) request with
    | .ok _ => removalEvents setting (setting.config.report.artifact request.context) fs
    | .error _ => []

/-- What a launch tells after its launcher has ended, before it tells its outcome. -/
def discardEvents : List String := ["artifact.stale_removed", "artifact.discard_failed"]

/-- What a launch tells at its end, by its outcome. -/
def lastEvents : Attempt LaunchResult → List String
  | .ok result =>
    "launch.completed" :: if result.artifactPresent then [] else ["launch.no_coverage"]
  | .error (.error _) => ["launch.failed"]
  | .error _ => ["launch.interrupted"]

/-- The events that are told at the end of a launch only. -/
def outcomeEvents : List String :=
  ["launch.completed", "launch.failed", "launch.interrupted", "launch.no_coverage"]

lemma mem_preparationEvents {event : String} {fs : Files}
    (h : event ∈ preparationEvents setting request fs) :
    event ∈ ["launch.preparing", "artifact.stale_removed"] := by
  unfold preparationEvents removalEvents at h
  rcases List.mem_cons.mp h with rfl | h
  · exact .head _
  · split at h
    · split at h
      · exact .tail _ h
      · simp at h
    · simp at h

lemma mem_lastEvents {event : String} {outcome : Attempt LaunchResult}
    (h : event ∈ lastEvents outcome) : event ∈ outcomeEvents := by
  cases outcome with
  | ok result =>
    rcases List.mem_cons.mp h with rfl | h
    · exact .head _
    · split at h
      · simp at h
      · rw [List.mem_singleton.mp h]
        decide
  | error f =>
    cases f
    all_goals
      rw [List.mem_singleton.mp h]
      decide

lemma resetArtifact_tells (setting : Setting) (path : Path) (s : Session) :
    Tells s (s.resetArtifact setting path).1 (removalEvents setting path s.files) ∧
      (s.resetArtifact setting path).1.state = s.state := by
  unfold resetArtifact removalEvents
  split
  · rename_i files hunlink
    rw [hunlink]
    exact ⟨((Tells.refl s).withFiles files).log _ _ _, rfl⟩
  · rename_i e hunlink
    rw [hunlink]
    split <;> exact ⟨.refl s, rfl⟩
  · rename_i f _ hunlink
    rw [hunlink]
    exact ⟨.refl s, rfl⟩

lemma prepareArtifact_tells (setting : Setting) (run : RunContext) (s : Session) :
    Tells s (s.prepareArtifact setting run).1
        (removalEvents setting (setting.config.report.artifact run) s.files) ∧
      (s.prepareArtifact setting run).1.state = s.state := by
  have hreset := resetArtifact_tells setting (setting.config.report.artifact run) s
  unfold prepareArtifact
  dsimp only
  split
  · rename_i t e h
    rwa [h] at hreset
  · rename_i t h
    rw [h] at hreset
    split <;> exact ⟨hreset.1.withFiles _, hreset.2⟩

lemma prepare_tells (setting : Setting) (request : LaunchRequest) (s : Session) :
    Tells s (s.prepare setting request).1 (preparationEvents setting request s.files) := by
  rw [prepare, preparationEvents]
  dsimp only
  have hstart := ((Tells.refl s).withState .preparing).log .info "launch.preparing"
    [("task", request.context.task),
     ("baseline", RevisionPoint.describe request.window.baseline),
     ("end", RevisionPoint.describe request.window.fin),
     ("run_all_tests", .bool request.runAll)]
  split
  · rename_i f hbuild
    change Plan.build setting.config (setting.around s.files) request = .error f at hbuild
    rw [hbuild]
    exact hstart
  · rename_i plan hbuild
    change Plan.build setting.config (setting.around s.files) request = .ok plan at hbuild
    rw [hbuild]
    have hartifact := hstart.trans (prepareArtifact_tells setting request.context _).1
    split
    · rename_i t e h
      rwa [h] at hartifact
    · rename_i t path h
      rw [h] at hartifact
      split <;> exact hartifact.withFiles _

/-- An artifact is discarded by removing it; that it was not there is no failure, and any other error of
the system is told. -/
lemma discardArtifact_eq (setting : Setting) (path : Path) (s : Session) :
    s.discardArtifact setting path =
      match s.files.unlink (setting.location s.files) path with
      | .ok files =>
        (({ s with files }).log .debug "artifact.stale_removed" [("path", path.toText)], .ok ())
      | .error (.os e) =>
        (if e.kind = .noEntry then s
          else s.log .warning "artifact.discard_failed"
            [("path", path.toText), ("reason", e.message)], .ok ())
      | .error f => (s, .error f) := by
  unfold discardArtifact resetArtifact
  cases s.files.unlink (setting.location s.files) path with
  | ok files => rfl
  | error f =>
    cases f with
    | os e =>
      by_cases hkind : e.kind = .noEntry
      · simp only [hkind, if_true]
      · simp only [hkind, if_false, LaunchError.of]
    | _ => rfl

lemma discardArtifact_tells (setting : Setting) (path : Path) (s : Session) :
    ∃ events, Tells s (s.discardArtifact setting path).1 events ∧
      ∀ event ∈ events, event ∈ discardEvents := by
  rw [discardArtifact_eq]
  split
  · exact ⟨_, ((Tells.refl s).withFiles _).log _ _ _, by decide⟩
  · dsimp only
    split
    · exact ⟨[], .refl s, by simp⟩
    · exact ⟨_, (Tells.refl s).log _ _ _, by decide⟩
  · exact ⟨[], .refl s, by simp⟩

/-- The failure that is reported for one of the launcher, other than an error of the system. -/
def reportedFailure (request : LaunchRequest) : Failure → Failure
  | .fault (.timeout _) => .error (.of (.timedOut (reportedTimeout request.timeout)))
  | f => f

/-- After a failure of the launcher, other than an error of the system, the artifact is discarded. -/
lemma conclude_failure {f : Failure} (hos : ∀ e, f ≠ .fault (.os e)) :
    s.conclude setting request plan (.failure f) =
      ((s.discardArtifact setting plan.artifact).1,
        match (s.discardArtifact setting plan.artifact).2 with
        | .error g => .error (.fault g)
        | .ok () => .error (reportedFailure request f)) := by
  unfold conclude
  generalize s.discardArtifact setting plan.artifact = done
  obtain ⟨t, discarded⟩ := done
  cases f with
  | error e => cases discarded <;> rfl
  | refused issues => cases discarded <;> rfl
  | fault g =>
    cases g with
    | os e => exact absurd rfl (hos e)
    | _ => cases discarded <;> rfl

/-- How a launch ended is told, unless it ended with a failure: that is told later. -/
lemma conclude_tells (setting : Setting) (request : LaunchRequest) (plan : Plan) (s : Session)
    (ending : LauncherEnd) :
    match s.conclude setting request plan ending with
    | (t, .ok result) => Tells s t (lastEvents (.ok result))
    | (t, .error _) => ∃ events, Tells s t events ∧ ∀ event ∈ events, event ∈ discardEvents := by
  have hnothing : ∃ events, Tells s s events ∧ ∀ event ∈ events, event ∈ discardEvents :=
    ⟨[], .refl s, by simp⟩
  cases ending with
  | exit code =>
    rw [conclude]
    cases s.files.isFile (setting.location s.files) plan.artifact with
    | error f => exact hnothing
    | ok present =>
      have hdone := ((Tells.refl s).withState .completed).log .info "launch.completed"
        [("exit_code", .int code), ("artifact_present", .bool present),
         ("duration_seconds", .float setting.elapsed)]
      cases present with
      | true => exact hdone
      | false => exact hdone.log _ _ _
  | failure f =>
    by_cases hos : ∃ e, f = .fault (.os e)
    · obtain ⟨e, rfl⟩ := hos
      exact hnothing
    · have hdiscard := discardArtifact_tells setting plan.artifact s
      rw [conclude_failure fun e he => hos ⟨e, he⟩]
      cases (s.discardArtifact setting plan.artifact).2 <;> exact hdiscard

lemma conclude_logs (setting : Setting) (request : LaunchRequest) (plan : Plan) (s : Session)
    (ending : LauncherEnd) : Logs s (s.conclude setting request plan ending).1 := by
  have htells := conclude_tells setting request plan s ending
  split at htells
  · rename_i heq
    rw [heq]
    exact htells.toLogs
  · rename_i heq
    obtain ⟨events, hevents, -⟩ := htells
    rw [heq]
    exact hevents.toLogs

lemma fail_tells (s : Session) (f : Failure) : Tells s (s.fail f) (lastEvents (.error f)) := by
  cases f <;> exact ((Tells.refl s).withState .failed).log _ _ _

/-- A launch is completed if its launcher ended with an exit code and the artifact could be looked for.
-/
lemma conclude_ok {ending : LauncherEnd} {result : LaunchResult}
    (h : s.conclude setting request plan ending = (t, .ok result)) :
    t.state = .completed ∧ ending = .exit result.exitCode ∧ result.artifact = plan.artifact ∧
      s.files.isFile (setting.location s.files) plan.artifact = .ok result.artifactPresent := by
  unfold conclude at h
  split at h
  · split at h
    · simp at h
    · rename_i code _ present hpresent
      obtain ⟨rfl, hresult⟩ := Prod.mk.inj h
      obtain rfl := Except.ok.inj hresult
      exact ⟨by cases present <;> rfl, rfl, rfl, hpresent⟩
  · simp at h
  · split at h
    · simp at h
    · split at h <;> simp at h

lemma fail_state (s : Session) (failure : Failure) : (s.fail failure).state = .failed := by
  unfold fail
  split <;> rfl

lemma fail_files (s : Session) (failure : Failure) : (s.fail failure).files = s.files := by
  unfold fail
  split <;> rfl

end TestImpact.Proofs
