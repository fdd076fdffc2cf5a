import TestImpact.Proofs.Files.Clearing
import TestImpact.Proofs.Launch.Interruption
import TestImpact.Proofs.Segments

/-!
# Coverage of a run

A launcher is called with no file at the path of the artifact, whatever stood there before, and with
the directories that it writes to. A coverage file that is reported was made during its run.
-/

namespace TestImpact.Proofs
open Files Session

variable {setting : Setting} {request : LaunchRequest} {run : RunContext} {plan : Plan}
  {call : LauncherCall} {launcher : Launcher} {s t u v : Session} {fs : Files}
  {now after : LauncherRun} {result : LaunchResult}

/-- The directory that the program stands in was taken hold of before: its number is one that the tree
has given to an entry. -/
def Stands (setting : Setting) (fs : Files) : Prop := setting.standing.number ≤ fs.made

instance (setting : Setting) (fs : Files) : Decidable (Stands setting fs) :=
  inferInstanceAs (Decidable (_ ≤ _))

/-! ### When the launcher is called -/

lemma location_cleared (setting : Setting) (run : RunContext) (fs : Files) :
    setting.location (cleared setting run fs).1 = setting.location fs := by
  unfold cleared
  split
  · rename_i later hunlink
    exact standing_of_unlink hunlink _
  · rfl

lemma made_cleared (setting : Setting) (run : RunContext) (fs : Files) :
    (cleared setting run fs).1.made = fs.made := by
  unfold cleared
  split
  · rename_i later hunlink
    exact made_of_unlink hunlink
  · rfl

lemma location_housed (hstands : Stands setting fs) (run : RunContext) :
    setting.location (housed setting run fs).1 = setting.location fs := by
  have hheld : setting.standing.number ≤ (cleared setting run fs).1.made := by
    rw [made_cleared]
    exact hstands
  exact ((housed_built setting run fs).stands _ hheld).trans (location_cleared setting run fs)

lemma location_furnished (hstands : Stands setting fs) (run : RunContext) :
    setting.location (furnished setting run fs).1 = setting.location fs := by
  have hheld : setting.standing.number ≤ (housed setting run fs).1.made := by
    have hmade := (housed_built setting run fs).made_le
    rw [made_cleared] at hmade
    exact Nat.le_trans hstands hmade
  exact ((furnished_built setting run fs).stands _ hheld).trans (location_housed hstands run)

lemma vacant_of_cleared (h : (cleared setting run fs).2 = .ok ()) :
    Vacant (cleared setting run fs).1 (setting.location fs)
      (setting.config.report.artifact run) := by
  rcases cleared_ok h with hunlink | ⟨hsame, e, hunlink, hkind⟩
  · exact vacant_of_unlink hunlink
  · rw [hsame]
    exact vacant_of_unlink_noEntry hunlink hkind

lemma ensureDir_of_housed (h : (housed setting run fs).2 = .ok ()) :
    ensureDir (cleared setting run fs).1 (setting.location fs)
      (setting.config.report.artifact run).parent = ((housed setting run fs).1, .ok ()) := by
  rw [← location_cleared setting run, ← h]
  rfl

/-- Once all is prepared, no file is at the path of the artifact, and the directories are there. -/
lemma furnished_clear (hstands : Stands setting fs)
    (hstraight : Straight (setting.config.report.artifact run))
    (hcleared : (cleared setting run fs).2 = .ok ()) (hhoused : (housed setting run fs).2 = .ok ())
    (hfurnished : (furnished setting run fs).2 = .ok ()) :
    ¬FileAt (furnished setting run fs).1 (setting.location (furnished setting run fs).1)
        (setting.config.report.artifact run) ∧
      DirAt (furnished setting run fs).1 (setting.location (furnished setting run fs).1)
        (setting.config.report.artifact run).parent ∧
      DirAt (furnished setting run fs).1 (setting.location (furnished setting run fs).1)
        (setting.config.report.reportsDir run) := by
  have hvacant := vacant_of_cleared hcleared
  have hhouse := ensureDir_of_housed hhoused
  have hfurnish : ensureDir (housed setting run fs).1 (setting.location fs)
      (setting.config.report.reportsDir run) = ((furnished setting run fs).1, .ok ()) := by
    rw [← location_housed hstands run, ← hfurnished]
    rfl
  have hgrows := (furnished_built setting run fs).toGrows
  rw [location_furnished hstands]
  obtain ⟨l, hl⟩ := ensureDirFrom_dirAt hhouse
  exact ⟨not_fileAt_of_ensureDirFrom hstraight (segments_artifact_ne_nil _ _) hvacant hhouse hgrows,
    ⟨l, find_dir_grows hgrows hl⟩, ensureDirFrom_dirAt hfurnish⟩

/-- The files with which a launcher is called. -/
lemma handover_clear (hstands : Stands setting s.files)
    (hstraight : Straight (setting.config.report.artifact request.context))
    (h : handover? setting request s = some (plan, call, t)) :
    ¬FileAt t.files (setting.location t.files) plan.artifact ∧
      DirAt t.files (setting.location t.files) plan.artifact.parent ∧
      DirAt t.files (setting.location t.files) plan.reportsDir := by
  obtain ⟨-, happroach⟩ := handover_approach h
  obtain ⟨hbuild, hopen, hfiles, -⟩ := approach_ok happroach
  change ∀ g : Gate, g.failure? setting request s.files = none at hopen
  change t.files = (furnished setting request.context s.files).1 at hfiles
  obtain ⟨hartifact, hreports⟩ := build_places hbuild
  have hcleared := hopen .cleared
  have hhoused := hopen .housed
  have hfurnished := hopen .furnished
  simp only [Gate.failure?] at hcleared hhoused hfurnished
  rw [hfiles, hartifact, hreports]
  exact furnished_clear hstands hstraight (Gate.done_of_blame hcleared)
    (Gate.done_of_blame hhoused) (Gate.done_of_blame hfurnished)

/-! ### When the launcher has ended -/

/-- What comes to hold of the files during a run comes to hold by a change that the launcher makes. -/
lemma change_of_appears (holds : Files → Prop) (hflight : InFlight u s)
    (hreached : Reached setting now s after v) (hbefore : ¬holds s.files) (hafter : holds v.files) :
    ∃ g next w, Reached setting now s (.change g next) w ∧ ¬holds w.files ∧ holds (g w.files) := by
  induction hreached with
  | start => exact absurd hafter hbefore
  | @step _ _ w _ hrun hstep ih =>
    by_cases hw : holds w.files
    · exact ih hw
    cases hstep with
    | change g => exact ⟨g, _, w, hrun, hw, hafter⟩
    | observe => exact absurd hafter hw
    | relaunch request nested next hlaunch =>
      rw [(inFlight_reached hflight hrun).refuses] at hlaunch
      obtain ⟨rfl, -⟩ := Prod.mk.inj hlaunch
      exact absurd hafter hw

/-- A launch that returns came to its launcher, which ended with the exit code, and the artifact was
looked for after that. -/
lemma launch_ok (h : (s.launch setting launcher request).2 = .ok result) :
    ∃ plan call t u, handover? setting request s = some (plan, call, t) ∧
      (launcher call).play setting t = (u, .exit result.exitCode) ∧
      result.artifact = plan.artifact ∧
      u.files.isFile (setting.location u.files) plan.artifact = .ok result.artifactPresent := by
  cases hbusy : s.busy with
  | true =>
    rw [launch_busy hbusy] at h
    simp [refusal] at h
  | false =>
    rcases handover_or_stop hbusy setting request with ⟨plan, call, t, hhand⟩ |
      ⟨t, f, -, hlaunch⟩
    · cases hplay : (launcher call).play setting t with
      | mk u ending =>
        rw [launch_of_handover hhand hplay, finish_result] at h
        obtain ⟨-, rfl, hartifact, hpresent⟩ := conclude_ok (Prod.ext rfl h)
        exact ⟨plan, call, t, u, hhand, hplay, hartifact, hpresent⟩
    · rw [hlaunch] at h
      simp [finish] at h

/-- When a launch calls its launcher, no file is at the path of the artifact, and the directory around
it and that of the reports are there. A launch that returns tells whether a file is at the path when
the launcher has ended, and one that is there came to be by a change that the launcher made. -/
theorem artifact_is_of_the_run (setting : Setting) (launcher : Launcher) (request : LaunchRequest)
    (s : Session) (hstands : Stands setting s.files)
    (hstraight : Straight (setting.config.report.artifact request.context)) :
    (∀ plan call t, handover? setting request s = some (plan, call, t) →
      ¬FileAt t.files (setting.location t.files) plan.artifact ∧
        DirAt t.files (setting.location t.files) plan.artifact.parent ∧
        DirAt t.files (setting.location t.files) plan.reportsDir) ∧
      ∀ result, (s.launch setting launcher request).2 = .ok result →
        ∃ plan call t u, handover? setting request s = some (plan, call, t) ∧
          (launcher call).play setting t = (u, .exit result.exitCode) ∧
          result.artifact = plan.artifact ∧
          (result.artifactPresent = true ↔
            FileAt u.files (setting.location u.files) plan.artifact) ∧
          (result.artifactPresent = true → ∃ g next v,
            Reached setting (launcher call) t (.change g next) v ∧
              ¬FileAt v.files (setting.location v.files) plan.artifact ∧
              FileAt (g v.files) (setting.location (g v.files)) plan.artifact) := by
  refine ⟨fun plan call t => handover_clear hstands hstraight, fun result hresult => ?_⟩
  obtain ⟨plan, call, t, u, hhand, hplay, hartifact, hpresent⟩ := launch_ok hresult
  have hiff : result.artifactPresent = true ↔
      FileAt u.files (setting.location u.files) plan.artifact := by
    rw [← isFile_eq_true_iff, hpresent, Except.ok.injEq]
  refine ⟨plan, call, t, u, hhand, hplay, hartifact, hiff, fun hthere => ?_⟩
  exact change_of_appears (fun fs => FileAt fs (setting.location fs) plan.artifact)
    (inFlight_handover hhand).1 (reached_play (launcher call) t hplay)
    (handover_clear hstands hstraight hhand).1 (hiff.mp hthere)

/-- A launch over a stale artifact reports the one that its launcher wrote. -/
theorem sample_launch_covers :
    ∃ result plan call t g next v,
      ((Session.start (writeSample sampleFiles)).launch sampleSetting
        (fun _ => .change writeSample (.ends (.exit 0))) sampleRequest).2 = .ok result ∧
      result.artifactPresent = true ∧
      handover? sampleSetting sampleRequest (Session.start (writeSample sampleFiles)) =
        some (plan, call, t) ∧
      Reached sampleSetting (.change writeSample (.ends (.exit 0))) t (.change g next) v ∧
      ¬FileAt v.files (sampleSetting.location v.files) result.artifact := by
  have hcovered : ((Session.start (writeSample sampleFiles)).launch sampleSetting
      (fun _ => .change writeSample (.ends (.exit 0))) sampleRequest).2.toOption.any
        (·.artifactPresent) = true := by decide +kernel
  cases hresult : ((Session.start (writeSample sampleFiles)).launch sampleSetting
      (fun _ => .change writeSample (.ends (.exit 0))) sampleRequest).2 with
  | error f => simp [hresult, Except.toOption] at hcovered
  | ok result =>
    have hthere : result.artifactPresent = true := by simpa [hresult, Except.toOption] using hcovered
    obtain ⟨-, hreturned⟩ := artifact_is_of_the_run sampleSetting
      (fun _ => .change writeSample (.ends (.exit 0))) sampleRequest
      (Session.start (writeSample sampleFiles)) (by decide +kernel) (by decide +kernel)
    obtain ⟨plan, call, t, u, hhand, -, hartifact, -, hmade⟩ := hreturned result hresult
    obtain ⟨g, next, v, hreached, hbefore, -⟩ := hmade hthere
    exact ⟨result, plan, call, t, g, next, v, rfl, hthere, hhand, hreached, hartifact ▸ hbefore⟩

end TestImpact.Proofs
