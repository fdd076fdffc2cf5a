import TestImpact.Proofs.Launch.Interruption

/-!
# Files after an error about the configuration

A launch may end with an error about the configuration before its launcher is called. If it could not
be planned, the tree is as it was. If the directory of the reports could not be made, every entry is
kept but one: the artifact of an earlier run is gone by then.
-/

namespace TestImpact.Proofs
open Files Session

variable {setting : Setting} {request : LaunchRequest} {run : RunContext} {plan : Plan}
  {runId : String} {path : Path} {s t : Session} {fs : Files} {e : LaunchError}

/-! ### Where errors about the configuration come from -/

lemma resetArtifact_blames (h : s.resetArtifact setting path = (t, .error (.error e))) :
    e.isConfiguration = false := by
  unfold resetArtifact at h
  split at h
  · simp at h
  · split at h
    · simp at h
    · obtain rfl := Failure.error.inj (Except.error.inj (Prod.mk.inj h).2)
      rfl
  · simp at h

lemma prepareArtifact_blames (h : s.prepareArtifact setting run = (t, .error (.error e))) :
    e.isConfiguration = false := by
  unfold prepareArtifact at h
  dsimp only at h
  split at h
  · rename_i u f hreset
    obtain rfl := Except.error.inj (Prod.mk.inj h).2
    exact resetArtifact_blames hreset
  · split at h
    · simp at h
    · obtain rfl := Failure.error.inj (Except.error.inj (Prod.mk.inj h).2)
      rfl
    · simp at h

lemma checkSpawnable_blames (h : checkSpawnable setting fs plan = .error e) :
    e.isConfiguration = false := by
  unfold checkSpawnable at h
  dsimp only at h
  split at h
  · obtain rfl := Except.error.inj h
    rfl
  · split at h
    · obtain rfl := Except.error.inj h
      rfl
    · split at h
      · rw [Agent.checkDirective] at h
        split at h
        · simp at h
        · obtain rfl := Except.error.inj h
          rfl
      · simp at h

/-- An error about the configuration is one of planning, before any file is touched, or it is about
the directory of the reports, after the artifact was cleared away. -/
lemma prepare_configuration (h : s.prepare setting request = (t, .error (.error e)))
    (hconfig : e.isConfiguration = true) :
    (Plan.build setting.config (setting.around s.files) request = .error (.error e) ∧
      t.files = s.files) ∨
    ((∃ plan, Plan.build setting.config (setting.around s.files) request = .ok plan) ∧
      (cleared setting request.context s.files).2 = .ok () ∧
      t.files = (furnished setting request.context s.files).1 ∧
      ∃ reason, e = .of (.invalidValue "report.reports_subdir"
        (setting.config.report.reportsDir request.context).toText reason)) := by
  unfold prepare at h
  dsimp only at h
  split at h
  · rename_i g hbuild
    obtain ⟨rfl, hg⟩ := Prod.mk.inj h
    obtain rfl := Except.error.inj hg
    exact .inl ⟨hbuild, rfl⟩
  rename_i plan hbuild
  change Plan.build setting.config (setting.around s.files) request = .ok plan at hbuild
  split at h
  · rename_i v g hartifact
    obtain rfl := Except.error.inj (Prod.mk.inj h).2
    exact absurd (prepareArtifact_blames hartifact) (by simp [hconfig])
  rename_i v path hartifact
  obtain ⟨hcleared, -, hfiles⟩ := prepareArtifact_ok hartifact
  have hlast := furnished_eq hbuild hfiles
  split at h
  · simp at h
  · obtain ⟨rfl, hg⟩ := Prod.mk.inj h
    obtain rfl := Failure.error.inj (Except.error.inj hg)
    refine .inr ⟨⟨plan, hbuild⟩, hcleared, ?_, _, by rw [(build_places hbuild).2]⟩
    rw [← hlast]
  · simp at h

/-- Once all is prepared, nothing is about the configuration any more. -/
lemma approach_configuration (h : s.approach setting request runId = (t, .error (.error e)))
    (hconfig : e.isConfiguration = true) : s.prepare setting request = (t, .error (.error e)) := by
  rcases approach_eq_error h with hprepare | ⟨u, plan, e', -, hhand, he⟩
  · exact hprepare
  · obtain rfl := Failure.error.inj he
    exact absurd (checkSpawnable_blames (handOver_error hhand).1) (by simp [hconfig])

/-! ### What is kept -/

/-- Every entry is where it was, as it was. -/
def Kept (fs later : Files) : Prop := ∀ l entry, fs.get? l = some entry → later.get? l = some entry

/-- Clearing takes away the entry at the path of the artifact, if there is one. -/
lemma cleared_cases (h : (cleared setting run fs).2 = .ok ()) :
    (∃ l entry, fs.find (setting.location fs) false (setting.config.report.artifact run) =
        .ok ⟨l, some entry⟩ ∧ entry ≠ .dir ∧ fs.get? l = some entry ∧
        ∀ m, (cleared setting run fs).1.get? m = if m = l then none else fs.get? m) ∨
      ¬Present fs (setting.location fs) (setting.config.report.artifact run) ∧
        (cleared setting run fs).1 = fs := by
  rcases cleared_ok h with hunlink | ⟨hsame, e, hunlink, hkind⟩
  · exact .inl (get?_of_unlink hunlink)
  · exact .inr ⟨(vacant_of_unlink_noEntry hunlink hkind).not_present, hsame⟩

/-- Once all directories are made, every entry is kept, unless there was an artifact: it alone is
gone. -/
lemma furnished_keeps (h : (cleared setting run fs).2 = .ok ()) :
    (Kept fs (furnished setting run fs).1 ↔
      ¬Present fs (setting.location fs) (setting.config.report.artifact run)) ∧
    ∀ l entry, fs.get? l = some entry → (furnished setting run fs).1.get? l ≠ some entry →
      fs.find (setting.location fs) false (setting.config.report.artifact run) =
        .ok ⟨l, some entry⟩ := by
  have hgrows := ((housed_built setting run fs).trans (furnished_built setting run fs)).toGrows
  rcases cleared_cases h with ⟨l, entry, hfind, hdir, hget, hcleared⟩ | ⟨hnone, hcleared⟩
  · have hgone : (furnished setting run fs).1.get? l ≠ some entry := by
      intro hthere
      have hnone : (cleared setting run fs).1.get? l = none := by rw [hcleared, if_pos rfl]
      rcases hgrows.adds l hnone with hn | hd
      · simp [hn] at hthere
      · rw [hd] at hthere
        exact hdir (Option.some.inj hthere).symm
    refine ⟨iff_of_false (fun hkept => hgone (hkept l entry hget)) (fun h => h ⟨l, entry, hfind⟩), ?_⟩
    intro m other hother hlost
    by_cases hm : m = l
    · subst hm
      rw [hget] at hother
      obtain rfl := Option.some.inj hother
      exact hfind
    · exfalso
      refine hlost (hgrows.keeps m other ?_)
      rw [hcleared, if_neg hm, hother]
  · rw [hcleared] at hgrows
    refine ⟨iff_of_true hgrows.keeps hnone, fun l entry hentry hlost => ?_⟩
    exact absurd (hgrows.keeps l entry hentry) hlost

/-- A launch that does not call its launcher and ends with an error about the configuration keeps
every entry exactly if it could not be planned, or there was no artifact. A launch that could not be
planned changes nothing at all. Otherwise the error is about the directory of the reports, and no
entry but the artifact is lost. -/
theorem configuration_error_keeps_iff (setting : Setting) (launcher : Launcher)
    (request : LaunchRequest) (s : Session) (e : LaunchError)
    (hcalls : callsOf (s.launch setting launcher request).1.trace = callsOf s.trace)
    (hresult : (s.launch setting launcher request).2 = .error (.error e))
    (hconfig : e.isConfiguration = true) :
    (Kept s.files (s.launch setting launcher request).1.files ↔
      Plan.build setting.config (setting.around s.files) request = .error (.error e) ∨
        ¬Present s.files (setting.location s.files)
          (setting.config.report.artifact request.context)) ∧
    (Plan.build setting.config (setting.around s.files) request = .error (.error e) →
      (s.launch setting launcher request).1.files = s.files) ∧
    ∀ l entry, s.files.get? l = some entry →
      (s.launch setting launcher request).1.files.get? l ≠ some entry →
      s.files.find (setting.location s.files) false
          (setting.config.report.artifact request.context) = .ok ⟨l, some entry⟩ ∧
        ∃ reason, e = .of (.invalidValue "report.reports_subdir"
          (setting.config.report.reportsDir request.context).toText reason) := by
  cases hbusy : s.busy with
  | true =>
    rw [launch_busy hbusy, refusal] at hresult
    obtain rfl := Failure.error.inj (Except.error.inj hresult)
    exact absurd hconfig (by simp [LaunchError.of, LaunchError.isConfiguration, ErrorCause.family])
  | false =>
    rcases handover_or_stop hbusy setting request with ⟨plan, call, t, hhand⟩ |
      ⟨t, f, happroach, hlaunch⟩
    · rw [calls_of_handover hhand] at hcalls
      omega
    · have hf : f = .error e := by
        rw [hlaunch, finish_result] at hresult
        exact Except.error.inj hresult
      subst hf
      have hfiles : (s.launch setting launcher request).1.files = t.files := by
        rw [hlaunch, finish_files]
      rw [hfiles]
      have hprepare := approach_configuration happroach hconfig
      rcases prepare_configuration hprepare hconfig with ⟨hbuild, htree⟩ |
        ⟨⟨plan, hbuild⟩, hcleared, htree, hreason⟩
      · change t.files = s.files at htree
        rw [htree]
        exact ⟨iff_of_true (fun _ _ h => h) (.inl hbuild), fun _ => rfl,
          fun l entry hentry hlost => absurd hentry hlost⟩
      · change Plan.build setting.config (setting.around s.files) request = .ok plan at hbuild
        change (cleared setting request.context s.files).2 = .ok () at hcleared
        change t.files = (furnished setting request.context s.files).1 at htree
        obtain ⟨hkept, hlost⟩ := furnished_keeps hcleared
        rw [htree, hkept, hbuild]
        refine ⟨by simp, by simp, fun l entry hentry hgone => ⟨hlost l entry hentry hgone, hreason⟩⟩

/-- An artifact of an earlier run, and a file where the directory of the reports is to be made. -/
def obstructedFiles : Files :=
  ((writeSample sampleFiles).putFile ["w"] (Path.ofText "build/tmp/reports") [] false).1

/-- The error with which an operation ended. -/
def errorOf? {α : Type} : Attempt α → Option LaunchError
  | .error (.error e) => some e
  | _ => none

/-- The artifact of an earlier run is lost to an error about the directory of the reports. -/
theorem sample_artifact_is_lost :
    ∃ e, ((Session.start obstructedFiles).launch sampleSetting idleLauncher sampleRequest).2 =
        .error (.error e) ∧ e.isConfiguration = true ∧
      ¬Kept obstructedFiles ((Session.start obstructedFiles).launch sampleSetting idleLauncher
        sampleRequest).1.files := by
  have hconfigures : (errorOf? ((Session.start obstructedFiles).launch sampleSetting idleLauncher
      sampleRequest).2).any (·.isConfiguration) = true := by decide +kernel
  obtain ⟨e, he, hconfig⟩ := (Option.any_eq_true _ _).mp hconfigures
  have hresult : ((Session.start obstructedFiles).launch sampleSetting idleLauncher
      sampleRequest).2 = .error (.error e) := by
    unfold errorOf? at he
    split at he
    · rename_i e' hresult
      obtain rfl := Option.some.inj he
      exact hresult
    · simp at he
  obtain ⟨hkept, -⟩ := configuration_error_keeps_iff sampleSetting idleLauncher sampleRequest
    (Session.start obstructedFiles) e (by decide +kernel) hresult hconfig
  refine ⟨e, hresult, hconfig, fun hclaim => ?_⟩
  rcases hkept.mp hclaim with hbuild | hnone
  · have hplanned : (Plan.build sampleSetting.config (sampleSetting.around obstructedFiles)
        sampleRequest).toOption.isSome = true := by decide +kernel
    change Plan.build sampleSetting.config (sampleSetting.around obstructedFiles) sampleRequest =
      _ at hbuild
    simp [hbuild, Except.toOption] at hplanned
  · exact hnone (by decide +kernel)

end TestImpact.Proofs
