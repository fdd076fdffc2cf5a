import TestImpact.Proofs.Launch.Spawning

/-!
# Artifacts of launches that did not complete

When a launcher ends with a failure, its artifact is discarded, so that nobody takes a part of the
coverage for all of it. There is one exception: after an error of the system the artifact stays.
-/

namespace TestImpact.Proofs
open Files Session

variable {setting : Setting} {request : LaunchRequest} {run : RunContext} {plan : Plan}
  {call : LauncherCall} {launcher : Launcher} {path : Path} {s t u v : Session} {fs : Files}
  {f : Failure}

/-- The session tells that the artifact could not be discarded, since a moment before. -/
def DiscardWarned (u v : Session) : Prop :=
  ∃ later, v.trace = u.trace ++ later ∧
    ∃ r, TraceEntry.record r ∈ later ∧ r.level = .warning ∧ r.event = "artifact.discard_failed"

/-- After a launcher that ended in `u`, the artifact is gone in `v`, or it could not be removed and
this was told. -/
def Discarded (setting : Setting) (plan : Plan) (u v : Session) : Prop :=
  ¬Present v.files (setting.location v.files) plan.artifact ∨
    (∃ e, u.files.unlink (setting.location u.files) plan.artifact = .error (.os e)) ∧
      DiscardWarned u v

lemma hasNull_of_cleared (h : (cleared setting run fs).2 = .ok ()) :
    hasNull (setting.config.report.artifact run).toText = false := by
  cases hnull : hasNull (setting.config.report.artifact run).toText with
  | false => rfl
  | true =>
    have hfind : fs.find (setting.location fs) false (setting.config.report.artifact run) =
        .error .nullByte := by rw [find, if_pos hnull]
    have hunlink : fs.unlink (setting.location fs) (setting.config.report.artifact run) =
        .error .nullByte := by rw [unlink, hfind]
    rcases cleared_ok h with hcleared | ⟨-, e, hcleared, -⟩
    all_goals simp [hunlink] at hcleared

lemma hasNull_of_handover (h : handover? setting request s = some (plan, call, t)) :
    hasNull plan.artifact.toText = false := by
  obtain ⟨-, happroach⟩ := handover_approach h
  obtain ⟨hbuild, hopen, -⟩ := approach_ok happroach
  rw [(build_places hbuild).1]
  have hcleared : (cleared setting request.context s.files).2 = .ok () :=
    Gate.done_of_blame (hopen .cleared)
  exact hasNull_of_cleared hcleared

/-- How an attempt to remove an artifact ends: the files after it, and what is told of it. That there
is no artifact is no failure. -/
inductive Removal (setting : Setting) (path : Path) (s : Session) : Files → List LogRecord → Prop
  | removed {later : Files} : s.files.unlink (setting.location s.files) path = .ok later →
    Removal setting path s later
      [⟨"artifact.stale_removed", .debug, [("path", path.toText)], s.runId⟩]
  | missing {e : OsError} : s.files.unlink (setting.location s.files) path = .error (.os e) →
    e.kind = .noEntry → Removal setting path s s.files []
  | failed {e : OsError} : s.files.unlink (setting.location s.files) path = .error (.os e) →
    e.kind ≠ .noEntry →
    Removal setting path s s.files [⟨"artifact.discard_failed", .warning,
      [("path", path.toText), ("reason", e.message)], s.runId⟩]

/-- Discarding an artifact is an attempt to remove it, which does not fail itself. -/
lemma discardArtifact_removal (hnull : hasNull path.toText = false) (setting : Setting)
    (s : Session) :
    ∃ files told, Removal setting path s files told ∧ s.discardArtifact setting path =
      ({ s with files, trace := s.trace ++ told.map .record }, .ok ()) := by
  rw [discardArtifact_eq]
  cases hunlink : s.files.unlink (setting.location s.files) path with
  | ok files => exact ⟨_, _, .removed hunlink, rfl⟩
  | error g =>
    obtain ⟨e, rfl⟩ := os_of_unlink hnull hunlink
    by_cases hkind : e.kind = .noEntry
    · refine ⟨_, _, .missing hunlink hkind, ?_⟩
      simp [hkind]
    · refine ⟨_, _, .failed hunlink hkind, ?_⟩
      simp only [hkind, if_false]
      rfl

lemma discardArtifact_discards (hnull : hasNull plan.artifact.toText = false) (setting : Setting)
    (s : Session) :
    (s.discardArtifact setting plan.artifact).2 = .ok () ∧
      Discarded setting plan s (s.discardArtifact setting plan.artifact).1 := by
  obtain ⟨files, told, hremoval, hdone⟩ := discardArtifact_removal hnull setting s
  rw [hdone]
  refine ⟨rfl, ?_⟩
  cases hremoval with
  | removed hunlink =>
    left
    change ¬Present files (files.standing setting.standing) plan.artifact
    rw [standing_of_unlink hunlink]
    exact (vacant_of_unlink hunlink).not_present
  | missing hunlink hkind => exact .inl (vacant_of_unlink_noEntry hunlink hkind).not_present
  | failed hunlink hkind =>
    exact .inr ⟨⟨_, hunlink⟩, [_], rfl, _, List.mem_singleton.mpr rfl, rfl, rfl⟩

lemma finish_files (outcome : Session × Attempt LaunchResult) :
    (finish outcome).1.files = outcome.1.files := by
  obtain ⟨s, result | f⟩ := outcome
  · exact fail_files s _
  · rfl

lemma finish_trace (outcome : Session × Attempt LaunchResult) :
    ∃ later, (finish outcome).1.trace = outcome.1.trace ++ later := by
  obtain ⟨s, result | f⟩ := outcome
  · obtain ⟨records, htrace, -⟩ := (fail_tells s result).trace
    exact ⟨_, htrace⟩
  · exact ⟨[], (List.append_nil _).symm⟩

lemma Discarded.finish (h : Discarded setting plan u v) (result : Attempt LaunchResult) :
    Discarded setting plan u (finish (v, result)).1 := by
  rcases h with hgone | ⟨hfailed, later, htrace, r, hmem, hlevel, hevent⟩
  · left
    rw [finish_files]
    exact hgone
  · obtain ⟨more, hmore⟩ := finish_trace (v, result)
    refine .inr ⟨hfailed, later ++ more, ?_, r, List.mem_append_left _ hmem, hlevel, hevent⟩
    rw [hmore, htrace, List.append_assoc]

/-- After an error of the system nothing is discarded. -/
lemma discarded_of_os {cause : LaunchError} :
    Discarded setting plan u (finish (u, .error (.error cause))).1 ↔
      ¬Present u.files (setting.location u.files) plan.artifact := by
  constructor
  · rintro (hgone | ⟨-, later, htrace, r, hmem, hlevel, -⟩)
    · exact hgone
    · -- What the launch logs after the launcher's end is one record, of another level.
      have hlater := List.append_cancel_left (htrace : u.trace ++ [_] = u.trace ++ later)
      rw [← hlater] at hmem
      obtain rfl := TraceEntry.record.inj (List.mem_singleton.mp hmem)
      exact absurd hlevel (by simp)
  · exact fun hgone => .inl hgone

/-- The artifact of the launch for examples. -/
def sampleArtifact : Path := sampleConfig.report.artifact sampleRequest.context

/-- The artifact is written, with the directories above it. -/
def writeSample (fs : Files) : Files := (fs.putFile ["w"] sampleArtifact [1] false).1

/-- A launcher that writes the artifact and ends with a failure. -/
def breakingLauncher (f : Failure) : Launcher := fun _ =>
  .change writeSample (.ends (.failure f))

/-- A launch whose launcher ends with a failure fails, and its artifact is discarded, or it could not be
removed and this is told. This holds exactly if the failure is no error of the system, or nothing
is at the path of the artifact anyway: after an error of the system the files stay as they are. -/
theorem discarded_iff_no_os_error (setting : Setting) (launcher : Launcher)
    (request : LaunchRequest) (s t u : Session) (plan : Plan) (call : LauncherCall) (f : Failure)
    (hhand : handover? setting request s = some (plan, call, t))
    (hplay : (launcher call).play setting t = (u, .failure f)) :
    (∃ g, (s.launch setting launcher request).2 = .error g) ∧
      (Discarded setting plan u (s.launch setting launcher request).1 ↔
        (∀ e, f ≠ .fault (.os e)) ∨ ¬Present u.files (setting.location u.files) plan.artifact) ∧
      ∀ e, f = .fault (.os e) → (s.launch setting launcher request).1.files = u.files ∧
        (s.launch setting launcher request).2 =
          .error (.error (.of (.osFailure (plan.command.headD "") e.message))) := by
  rw [launch_of_handover hhand hplay]
  by_cases hos : ∃ e, f = .fault (.os e)
  · obtain ⟨e, rfl⟩ := hos
    refine ⟨⟨_, rfl⟩, ?_, fun e' he => ?_⟩
    · rw [show u.conclude setting request plan (.failure (.fault (.os e))) = (u, .error (.error
        (.of (.osFailure (plan.command.headD "") e.message)))) from rfl, discarded_of_os]
      exact ⟨.inr, fun h => h.resolve_left fun hother => hother e rfl⟩
    · obtain rfl := Fault.os.inj (Failure.fault.inj he)
      exact ⟨fail_files u _, rfl⟩
  · have hother : ∀ e, f ≠ .fault (.os e) := fun e he => hos ⟨e, he⟩
    obtain ⟨hdone, hdiscarded⟩ := discardArtifact_discards (hasNull_of_handover hhand) setting u
    rw [conclude_failure hother, hdone]
    refine ⟨⟨_, rfl⟩, iff_of_true ?_ (.inl hother), fun e he => absurd he (hother e)⟩
    exact hdiscarded.finish _

/-- An artifact that was written before an error of the system stays behind. -/
theorem artifact_stays_after_os_error :
    ∃ plan call t u,
      handover? sampleSetting sampleRequest (Session.start sampleFiles) = some (plan, call, t) ∧
      (breakingLauncher (.fault (.os (.described .denied "denied"))) call).play sampleSetting t =
        (u, .failure (.fault (.os (.described .denied "denied")))) ∧
      ¬Discarded sampleSetting plan u ((Session.start sampleFiles).launch sampleSetting
        (breakingLauncher (.fault (.os (.described .denied "denied")))) sampleRequest).1 := by
  let launcher := breakingLauncher (.fault (.os (.described .denied "denied")))
  have hpresent : (handover? sampleSetting sampleRequest (Session.start sampleFiles)).any
      (fun (plan, call, t) =>
        let u := ((launcher call).play sampleSetting t).1
        decide (Present u.files (sampleSetting.location u.files) plan.artifact)) = true := by
    decide +kernel
  obtain ⟨⟨plan, call, t⟩, hhand, hthere⟩ := (Option.any_eq_true _ _).mp hpresent
  obtain ⟨-, hdiscarded, -⟩ := discarded_iff_no_os_error sampleSetting launcher sampleRequest
    (Session.start sampleFiles) t _ plan call _ hhand rfl
  refine ⟨plan, call, t, _, hhand, rfl, fun hclaim => ?_⟩
  rcases hdiscarded.mp hclaim with hother | hgone
  · exact hother _ rfl
  · exact hgone (of_decide_eq_true hthere)

end TestImpact.Proofs
