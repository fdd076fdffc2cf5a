import TestImpact.Proofs.Launch.Coverage

/-!
# What a launch touches

Until it calls its launcher a launch takes away at most the entry at the path of the artifact, and
makes no more than the directories on the way to its outputs. After the launcher has ended, it takes
away at most the entry at the path of the artifact.
-/

namespace TestImpact.Proofs
open Files Session

variable {setting : Setting} {request : LaunchRequest} {run : RunContext} {plan : Plan}
  {runId : String} {path p : Path} {s t u : Session} {fs mid later : Files} {cwd : Location}

/-- Nothing but the entry at a path may be gone. If a link is there, it is the link itself. -/
def ClearsOnly (cwd : Location) (p : Path) (fs later : Files) : Prop :=
  ∀ l, later.get? l ≠ fs.get? l →
    later.get? l = none ∧ ∃ e, e ≠ .dir ∧ fs.find cwd false p = .ok ⟨l, some e⟩

/-- A path on the way to the outputs of a run. -/
def IsOutputLead (report : ReportConfig) (run : RunContext) (q : Path) : Prop :=
  IsLead q (report.artifact run).parent ∨ IsLead q (report.reportsDir run)

/-- What may become of a tree until the launcher is called: the entry at the path of the artifact may
be gone, and there may be new directories on the way to the outputs. -/
structure KeepsToOutputs (setting : Setting) (run : RunContext) (fs later : Files) : Prop where
  kept : ∀ l e, fs.get? l = some e → later.get? l = some e ∨
    e ≠ .dir ∧ fs.find (setting.location fs) false (setting.config.report.artifact run) =
      .ok ⟨l, some e⟩
  added : ∀ l e, later.get? l = some e → fs.get? l = some e ∨
    e = .dir ∧ ∃ q, IsOutputLead setting.config.report run q ∧
      later.find (setting.location fs) true q = .ok ⟨l, some .dir⟩

/-! ### Clearing -/

lemma ClearsOnly.refl (cwd : Location) (p : Path) (fs : Files) : ClearsOnly cwd p fs fs :=
  fun _ h => absurd rfl h

lemma clearsOnly_of_unlink (h : fs.unlink cwd p = .ok later) : ClearsOnly cwd p fs later := by
  obtain ⟨l, e, hfind, hdir, -, hget⟩ := get?_of_unlink h
  intro m hm
  by_cases hl : m = l
  · subst hl
    exact ⟨by rw [hget, if_pos rfl], e, hdir, hfind⟩
  · rw [hget, if_neg hl] at hm
    exact absurd rfl hm

lemma discardArtifact_clears (setting : Setting) (path : Path) (s : Session) :
    ClearsOnly (setting.location s.files) path s.files
      (s.discardArtifact setting path).1.files := by
  rw [discardArtifact_eq]
  split
  · rename_i files hunlink
    exact clearsOnly_of_unlink hunlink
  · dsimp only
    split <;> exact .refl _ _ _
  · exact .refl _ _ _

/-- After its launcher has ended, a launch changes nothing but the artifact. -/
lemma conclude_clears (setting : Setting) (request : LaunchRequest) (plan : Plan) (s : Session)
    (ending : LauncherEnd) :
    ClearsOnly (setting.location s.files) plan.artifact s.files
      (s.conclude setting request plan ending).1.files := by
  cases ending with
  | exit code =>
    unfold conclude
    dsimp only
    split
    · exact .refl _ _ _
    · rename_i present _
      cases present <;> exact .refl _ _ _
  | failure f =>
    by_cases hos : ∃ e, f = .fault (.os e)
    · obtain ⟨e, rfl⟩ := hos
      exact .refl _ _ _
    · rw [conclude_failure (fun e he => hos ⟨e, he⟩)]
      exact discardArtifact_clears setting plan.artifact s

/-! ### Preparing -/

lemma ClearsOnly.keepsToOutputs
    (h : ClearsOnly (setting.location fs) (setting.config.report.artifact run) fs later) :
    KeepsToOutputs setting run fs later := by
  refine ⟨fun l e he => ?_, fun l e he => ?_⟩
  · by_cases hl : later.get? l = fs.get? l
    · exact .inl (hl.trans he)
    · obtain ⟨-, e', hdir, hfind⟩ := h l hl
      have hget : fs.get? l = some e' := by
        rcases get?_of_leads (find_eq_ok_iff.mp hfind).2.2 with hd | hg
        · exact absurd (Option.some.inj hd) hdir
        · exact hg
      obtain rfl := Option.some.inj (he.symm.trans hget)
      exact .inr ⟨hdir, hfind⟩
  · by_cases hl : later.get? l = fs.get? l
    · exact .inl (hl.symm.trans he)
    · simp [(h l hl).1] at he

/-- Making a directory of the outputs, with those above it, keeps to the outputs. -/
lemma KeepsToOutputs.ensureDir (h : KeepsToOutputs setting run fs mid)
    (hp : ∀ q, IsLead q p → IsOutputLead setting.config.report run q) :
    KeepsToOutputs setting run fs (mid.ensureDir (setting.location fs) p).1 := by
  have hgrows := (ensureDirFrom_built (setting.location fs) p.segments.length p mid).toGrows
  refine ⟨fun l e he => ?_, fun l e he => ?_⟩
  · rcases h.kept l e he with hkept | hartifact
    · exact .inl (hgrows.keeps l e hkept)
    · exact .inr hartifact
  · cases hmid : mid.get? l with
    | none =>
      obtain ⟨q, hq, hfind⟩ := ensureDirFrom_adds rfl hmid he
      have hdir : e = .dir := by
        rcases hgrows.adds l hmid with hn | hd
        · exact absurd (hn.symm.trans he) (by simp)
        · exact Option.some.inj (he.symm.trans hd)
      exact .inr ⟨hdir, q, hp q hq, hfind⟩
    | some e' =>
      obtain rfl := Option.some.inj ((hgrows.keeps l e' hmid).symm.trans he)
      rcases h.added l e' hmid with hold | ⟨hdir, q, hq, hfind⟩
      · exact .inl hold
      · exact .inr ⟨hdir, q, hq, find_dir_grows hgrows hfind⟩

lemma cleared_keepsToOutputs (setting : Setting) (run : RunContext) (fs : Files) :
    KeepsToOutputs setting run fs (cleared setting run fs).1 := by
  apply ClearsOnly.keepsToOutputs
  unfold cleared
  split
  · rename_i later hunlink
    exact clearsOnly_of_unlink hunlink
  · exact .refl _ _ _

lemma housed_keepsToOutputs (setting : Setting) (run : RunContext) (fs : Files) :
    KeepsToOutputs setting run fs (housed setting run fs).1 := by
  unfold housed
  dsimp only
  rw [location_cleared]
  exact (cleared_keepsToOutputs setting run fs).ensureDir fun q hq => .inl hq

lemma furnished_keepsToOutputs (hstands : Stands setting fs) (run : RunContext) :
    KeepsToOutputs setting run fs (furnished setting run fs).1 := by
  unfold furnished
  dsimp only
  rw [location_housed hstands]
  exact (housed_keepsToOutputs setting run fs).ensureDir fun q hq => .inr hq

/-! ### Coming to the launcher, or not -/

lemma approach_keepsToOutputs (hstands : Stands setting s.files) (request : LaunchRequest)
    (runId : String) :
    KeepsToOutputs setting request.context s.files
      (s.approach setting request runId).1.files := by
  rw [approach_files]
  rcases prepare_files setting request s with ⟨-, hsame⟩ | ⟨-, hfiles | hfiles | hfiles⟩
  · rw [hsame]
    exact ClearsOnly.keepsToOutputs (.refl _ _ _)
  all_goals rw [hfiles]
  · exact cleared_keepsToOutputs setting request.context s.files
  · exact housed_keepsToOutputs setting request.context s.files
  · exact furnished_keepsToOutputs hstands request.context

/-- A launch touches nothing but its own outputs. When it calls its launcher, and at its end if it
calls none, every entry is as it was before, except that the entry at the path of the artifact may be
gone, and whatever is new is a directory on the way to the outputs. From the end of its launcher on,
a launch only takes away the entry at the path of the artifact, if it changes anything. -/
theorem launch_keeps_to_outputs (setting : Setting) (launcher : Launcher) (request : LaunchRequest)
    (s : Session) (hstands : Stands setting s.files) :
    (∀ plan call t, handover? setting request s = some (plan, call, t) →
      plan.artifact = setting.config.report.artifact request.context ∧
        KeepsToOutputs setting request.context s.files t.files ∧
        ∀ u ending, (launcher call).play setting t = (u, ending) →
          ClearsOnly (setting.location u.files) plan.artifact u.files
            (s.launch setting launcher request).1.files) ∧
      (handover? setting request s = none → KeepsToOutputs setting request.context s.files
        (s.launch setting launcher request).1.files) := by
  have happroached := approach_keepsToOutputs (s := s.begin setting) hstands request
    (setting.runIds s.launches)
  refine ⟨fun plan call t hhand => ?_, fun hnone => ?_⟩
  · obtain ⟨-, happroach⟩ := handover_approach hhand
    rw [happroach] at happroached
    refine ⟨(handover_call hhand).1.artifact, happroached, fun u ending hplay => ?_⟩
    rw [launch_of_handover hhand hplay, finish_files]
    exact conclude_clears setting request plan u ending
  · cases hbusy : s.busy with
    | true =>
      rw [launch_busy hbusy]
      exact ClearsOnly.keepsToOutputs (.refl _ _ _)
    | false =>
      rcases handover_or_stop hbusy setting request with ⟨plan, call, t, hhand⟩ |
        ⟨t, f, happroach, hlaunch⟩
      · simp [hnone] at hhand
      · rw [happroach] at happroached
        rw [hlaunch, finish_files]
        exact happroached

/-- A launch over a stale artifact comes to its launcher, and has kept to its outputs until then. -/
theorem sample_launch_keeps_to_outputs :
    Stands sampleSetting (Session.start (writeSample sampleFiles)).files ∧
      ∃ plan call t,
        handover? sampleSetting sampleRequest (Session.start (writeSample sampleFiles)) =
          some (plan, call, t) ∧
        KeepsToOutputs sampleSetting sampleRequest.context (writeSample sampleFiles) t.files := by
  have hstands : Stands sampleSetting (Session.start (writeSample sampleFiles)).files := by
    decide +kernel
  have hcalled : (handover? sampleSetting sampleRequest
      (Session.start (writeSample sampleFiles))).isSome = true := by decide +kernel
  obtain ⟨⟨plan, call, t⟩, hhand⟩ := Option.isSome_iff_exists.mp hcalled
  obtain ⟨hcall, -⟩ := launch_keeps_to_outputs sampleSetting (fun _ => .ends (.exit 0))
    sampleRequest (Session.start (writeSample sampleFiles)) hstands
  exact ⟨hstands, plan, call, t, hhand, (hcall plan call t hhand).2.1⟩

end TestImpact.Proofs
