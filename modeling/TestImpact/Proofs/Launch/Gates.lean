import TestImpact.Proofs.Files.Faults
import TestImpact.Proofs.Files.Growth
import TestImpact.Proofs.Launch.Steps
import TestImpact.Proofs.Planning

/-!
# The gates before a launcher

A launcher is called only after seven conditions were looked at, one after the other. Each of them is
a gate here: it is either open, or the launch ends at it with the failure of that gate.
-/

namespace TestImpact.Proofs
open Files Session

variable {setting : Setting} {request : LaunchRequest} {run : RunContext} {plan : Plan}
  {call : LauncherCall} {runId : String} {path : Path} {s t : Session} {fs : Files} {f : Failure}

/-! ### The files on the way to a launcher -/

/-- The files without the stale artifact. It is no error if there is none. -/
def cleared (setting : Setting) (run : RunContext) (fs : Files) : Files × Except Fault Unit :=
  match fs.unlink (setting.location fs) (setting.config.report.artifact run) with
  | .ok later => (later, .ok ())
  | .error f => (fs, if isMissing f then .ok () else .error f)

/-- The files with the directory around the artifact. -/
def housed (setting : Setting) (run : RunContext) (fs : Files) : Files × Except Fault Unit :=
  let fs := (cleared setting run fs).1
  fs.ensureDir (setting.location fs) (setting.config.report.artifact run).parent

/-- The files with the directory of the reports. -/
def furnished (setting : Setting) (run : RunContext) (fs : Files) : Files × Except Fault Unit :=
  let fs := (housed setting run fs).1
  fs.ensureDir (setting.location fs) (setting.config.report.reportsDir run)

/-- What is cleared away was there to be removed, or it was missing. -/
lemma cleared_ok (h : (cleared setting run fs).2 = .ok ()) :
    fs.unlink (setting.location fs) (setting.config.report.artifact run) =
        .ok (cleared setting run fs).1 ∨
      (cleared setting run fs).1 = fs ∧
        ∃ e, fs.unlink (setting.location fs) (setting.config.report.artifact run) =
          .error (.os e) ∧ e.kind = .noEntry := by
  unfold cleared at h ⊢
  cases hunlink : fs.unlink (setting.location fs) (setting.config.report.artifact run) with
  | ok later => exact .inl rfl
  | error f =>
    rw [hunlink] at h
    have hmissing : isMissing f = true := by
      cases hf : isMissing f with
      | true => rfl
      | false => simp [hf] at h
    obtain ⟨e, rfl, hkind⟩ := exists_of_isMissing hmissing
    exact .inr ⟨rfl, e, rfl, hkind⟩

lemma housed_built (setting : Setting) (run : RunContext) (fs : Files) :
    Built (cleared setting run fs).1 (housed setting run fs).1 :=
  ensureDirFrom_built _ _ _ _

lemma furnished_built (setting : Setting) (run : RunContext) (fs : Files) :
    Built (housed setting run fs).1 (furnished setting run fs).1 :=
  ensureDirFrom_built _ _ _ _

/-! ### Gates -/

/-- What is looked at before a launcher is called. -/
inductive Gate where
  | planned
  | cleared
  | housed
  | furnished
  | classpath
  | executable
  | directive
  deriving DecidableEq, Repr

namespace Gate

/-- The place of a gate in the order in which they are looked at. -/
def rank : Gate → Nat
  | planned => 0
  | cleared => 1
  | housed => 2
  | furnished => 3
  | classpath => 4
  | executable => 5
  | directive => 6

/-- The failure for a step on files that went wrong. -/
def blame (cause : String → ErrorCause) : Except Fault Unit → Option Failure
  | .ok () => none
  | .error f => some (.error (.of (cause f.message)))

@[simp] lemma blame_ok (cause : String → ErrorCause) : blame cause (.ok ()) = none := rfl

@[simp] lemma blame_os (cause : String → ErrorCause) (e : OsError) :
    blame cause (.error (.os e)) = some (.error (.of (cause e.message))) := rfl

lemma done_of_blame {cause : String → ErrorCause} {done : Except Fault Unit}
    (h : blame cause done = none) : done = .ok () := by
  cases done with
  | ok _ => rfl
  | error f => simp [blame] at h

/-- The failure with which a launch ends at a gate, unless the gate is open. -/
def failure? (setting : Setting) (request : LaunchRequest) (fs : Files) : Gate → Option Failure
  | planned =>
    match Plan.build setting.config (setting.around fs) request with
    | .ok _ => none
    | .error f => some f
  | cleared =>
    blame (.resetFailed (setting.config.report.artifact request.context).toText)
      (Proofs.cleared setting request.context fs).2
  | housed =>
    blame (fun reason => .osFailure "mkdir"
        s!"{(setting.config.report.artifact request.context).parent}: {reason}")
      (Proofs.housed setting request.context fs).2
  | furnished =>
    blame (.invalidValue "report.reports_subdir"
        (setting.config.report.reportsDir request.context).toText)
      (Proofs.furnished setting request.context fs).2
  | classpath =>
    if setting.config.executor.classpath = [] then some (.error (.of .emptyClasspath)) else none
  | executable =>
    let fs := (Proofs.furnished setting request.context fs).1
    let java := setting.config.executor.java
    match fs.which (setting.location fs) (setting.env.get? "PATH") java with
    | some _ => none
    | none => some (.error (.of (.executableNotFound java)))
  | directive =>
    match Plan.build setting.config (setting.around fs) request with
    | .ok plan =>
      match plan.directive with
      | some d =>
        if Agent.isDirective d.toList then none else some (.error (.of (.malformedDirective d)))
      | none => none
    | .error _ => none

/-- The first gates, up to a number of them, are open. -/
def OpenBelow (setting : Setting) (request : LaunchRequest) (fs : Files) (n : Nat) : Prop :=
  ∀ g : Gate, g.rank < n → g.failure? setting request fs = none

/-- A launch comes to a gate and not further: all gates before it are open. -/
def StopsAt (setting : Setting) (request : LaunchRequest) (fs : Files) (g : Gate) (f : Failure) :
    Prop :=
  g.failure? setting request fs = some f ∧ OpenBelow setting request fs g.rank

lemma rank_injective {g g' : Gate} (h : g.rank = g'.rank) : g = g' := by
  cases g <;> cases g' <;> simp_all [rank]

lemma openBelow_zero (setting : Setting) (request : LaunchRequest) (fs : Files) :
    OpenBelow setting request fs 0 := fun _ hlt => absurd hlt (Nat.not_lt_zero _)

lemma OpenBelow.next {n : Nat} (h : OpenBelow setting request fs n) (g : Gate) (hrank : g.rank = n)
    (hopen : g.failure? setting request fs = none) : OpenBelow setting request fs (n + 1) := by
  intro g' hlt
  rcases Nat.lt_succ_iff_lt_or_eq.mp hlt with hbelow | hat
  · exact h g' hbelow
  · rw [rank_injective (hat.trans hrank.symm)]
    exact hopen

lemma StopsAt.not_open {g : Gate} (h : g.StopsAt setting request fs f) :
    ¬∀ g' : Gate, g'.failure? setting request fs = none := by
  intro hopen
  have hstop := h.1
  rw [hopen g] at hstop
  simp at hstop

/-- A launch does not stop at two gates. -/
lemma StopsAt.unique {g g' : Gate} {f' : Failure} (h : g.StopsAt setting request fs f)
    (h' : g'.StopsAt setting request fs f') : f = f' := by
  rcases Nat.lt_trichotomy g.rank g'.rank with hlt | heq | hgt
  · have hopen := h'.2 g hlt
    rw [h.1] at hopen
    simp at hopen
  · obtain rfl := rank_injective heq
    exact Option.some.inj (h.1.symm.trans h'.1)
  · have hopen := h.2 g' hgt
    rw [h'.1] at hopen
    simp at hopen

end Gate

/-! ### What the steps of a launch do -/

lemma build_places {around : Surroundings} {config : Config}
    (h : Plan.build config around request = .ok plan) :
    plan.artifact = config.report.artifact request.context ∧
      plan.reportsDir = config.report.reportsDir request.context :=
  ⟨(planned_of_build h).artifact, (planned_of_build h).reportsDir⟩

/-- With a plan, and what is needed around the artifact, a launch comes to the reports. -/
lemma openBelow_reports
    (hbuild : Plan.build setting.config (setting.around fs) request = .ok plan)
    (hcleared : (cleared setting request.context fs).2 = .ok ())
    (hhoused : (housed setting request.context fs).2 = .ok ()) :
    Gate.OpenBelow setting request fs 3 :=
  (((Gate.openBelow_zero setting request fs).next .planned rfl
    (by simp only [Gate.failure?, hbuild])).next .cleared rfl
    (by rw [Gate.failure?, hcleared, Gate.blame_ok])).next .housed rfl
    (by rw [Gate.failure?, hhoused, Gate.blame_ok])

lemma furnished_eq (hplan : Plan.build setting.config (setting.around fs) request = .ok plan)
    (hfiles : t.files = (housed setting request.context fs).1) :
    furnished setting request.context fs =
      t.files.ensureDir (setting.location t.files) plan.reportsDir := by
  unfold furnished
  rw [hfiles, (build_places hplan).2]

lemma resetArtifact_files (setting : Setting) (run : RunContext) (s : Session) :
    (s.resetArtifact setting (setting.config.report.artifact run)).1.files =
      (cleared setting run s.files).1 := by
  unfold resetArtifact cleared
  split
  · rename_i files hunlink
    rw [hunlink]
    rfl
  · rename_i e hunlink
    rw [hunlink]
    split <;> rfl
  · rename_i f _ hunlink
    rw [hunlink]

/-- The files after the artifact was prepared, however far that went. -/
lemma prepareArtifact_files (setting : Setting) (run : RunContext) (s : Session) :
    (s.prepareArtifact setting run).1.files = (cleared setting run s.files).1 ∨
      (s.prepareArtifact setting run).1.files = (housed setting run s.files).1 := by
  have hreset := resetArtifact_files setting run s
  unfold prepareArtifact
  dsimp only
  split
  · rename_i u f h
    rw [h] at hreset
    exact .inl hreset
  · rename_i u h
    rw [h] at hreset
    change u.files = (cleared setting run s.files).1 at hreset
    unfold housed
    rw [← hreset]
    split <;> exact .inr rfl

lemma resetArtifact_ok (h : s.resetArtifact setting (setting.config.report.artifact run) = (t, .ok ())) :
    (cleared setting run s.files).2 = .ok () ∧ t.files = (cleared setting run s.files).1 := by
  unfold resetArtifact at h
  unfold cleared
  split at h
  · rename_i files hunlink
    obtain ⟨rfl, -⟩ := Prod.mk.inj h
    rw [hunlink]
    exact ⟨rfl, rfl⟩
  · rename_i e hunlink
    split at h
    · rename_i hkind
      obtain ⟨rfl, -⟩ := Prod.mk.inj h
      rw [hunlink]
      simp [isMissing, hkind]
    · simp at h
  · simp at h

lemma resetArtifact_error
    (hnull : hasNull (setting.config.report.artifact run).toText = false)
    (h : s.resetArtifact setting (setting.config.report.artifact run) = (t, .error f)) :
    t = s ∧ ∃ e, (cleared setting run s.files).2 = .error (.os e) ∧
      f = .error (.of (.resetFailed (setting.config.report.artifact run).toText e.message)) := by
  unfold resetArtifact at h
  unfold cleared
  split at h
  · simp at h
  · rename_i e hunlink
    split at h
    · simp at h
    · rename_i hkind
      obtain ⟨rfl, hf⟩ := Prod.mk.inj h
      obtain rfl := Except.error.inj hf
      rw [hunlink]
      refine ⟨rfl, e, ?_, rfl⟩
      simp [isMissing, hkind]
  · rename_i g hg hunlink
    obtain ⟨e, rfl⟩ := os_of_unlink hnull hunlink
    exact absurd rfl (hg e)

lemma prepareArtifact_ok (h : s.prepareArtifact setting run = (t, .ok path)) :
    (cleared setting run s.files).2 = .ok () ∧ (housed setting run s.files).2 = .ok () ∧
      t.files = (housed setting run s.files).1 := by
  unfold prepareArtifact at h
  dsimp only at h
  split at h
  · simp at h
  · rename_i u hreset
    obtain ⟨hcleared, hfiles⟩ := resetArtifact_ok hreset
    unfold housed
    rw [← hfiles]
    split at h
    · rename_i hmade
      obtain ⟨rfl, -⟩ := Prod.mk.inj h
      exact ⟨hcleared, hmade, rfl⟩
    · simp at h
    · simp at h

lemma prepareArtifact_error
    (hnull : hasNull (setting.config.report.artifact run).toText = false)
    (h : s.prepareArtifact setting run = (t, .error f)) :
    (t.files = s.files ∧ ∃ e, (cleared setting run s.files).2 = .error (.os e) ∧
      f = .error (.of (.resetFailed (setting.config.report.artifact run).toText e.message))) ∨
    (t.files = (housed setting run s.files).1 ∧ (cleared setting run s.files).2 = .ok () ∧
      ∃ e, (housed setting run s.files).2 = .error (.os e) ∧
        f = .error (.of (.osFailure "mkdir"
          s!"{(setting.config.report.artifact run).parent}: {e.message}"))) := by
  unfold prepareArtifact at h
  dsimp only at h
  split at h
  · rename_i u g hreset
    obtain ⟨rfl, hf⟩ := Prod.mk.inj h
    obtain rfl := Except.error.inj hf
    obtain ⟨rfl, hreason⟩ := resetArtifact_error hnull hreset
    exact .inl ⟨rfl, hreason⟩
  · rename_i u hreset
    obtain ⟨hcleared, hfiles⟩ := resetArtifact_ok hreset
    unfold housed
    rw [← hfiles]
    split at h
    · simp at h
    · rename_i e hmade
      obtain ⟨rfl, hf⟩ := Prod.mk.inj h
      exact .inr ⟨rfl, hcleared, e, hmade, (Except.error.inj hf).symm⟩
    · rename_i g hg hmade
      obtain ⟨e, rfl⟩ := os_of_ensureDirFrom (hasNull_parent hnull) (Prod.ext rfl hmade)
      exact absurd rfl (hg e)

lemma prepare_ok (h : s.prepare setting request = (t, .ok plan)) :
    Plan.build setting.config (setting.around s.files) request = .ok plan ∧
      Gate.OpenBelow setting request s.files 4 ∧
      t.files = (furnished setting request.context s.files).1 := by
  unfold prepare at h
  dsimp only at h
  split at h
  · simp at h
  rename_i plan' hbuild
  change Plan.build setting.config (setting.around s.files) request = .ok plan' at hbuild
  split at h
  · simp at h
  rename_i u path hprepare
  obtain ⟨hcleared, hhoused, hfiles⟩ := prepareArtifact_ok hprepare
  have hopen := openBelow_reports hbuild hcleared hhoused
  have hlast := furnished_eq hbuild hfiles
  split at h
  · rename_i hmade
    obtain ⟨rfl, hplan⟩ := Prod.mk.inj h
    obtain rfl := Except.ok.inj hplan
    rw [← hlast] at hmade ⊢
    exact ⟨hbuild, hopen.next .furnished rfl (by rw [Gate.failure?, hmade, Gate.blame_ok]), rfl⟩
  · simp at h
  · simp at h

/-- The files after the preparation, however far it went: without a plan they are as they were. -/
lemma prepare_files (setting : Setting) (request : LaunchRequest) (s : Session) :
    ((∃ f, Plan.build setting.config (setting.around s.files) request = .error f) ∧
        (s.prepare setting request).1.files = s.files) ∨
      (∃ plan, Plan.build setting.config (setting.around s.files) request = .ok plan) ∧
        ((s.prepare setting request).1.files = (cleared setting request.context s.files).1 ∨
          (s.prepare setting request).1.files = (housed setting request.context s.files).1 ∨
          (s.prepare setting request).1.files = (furnished setting request.context s.files).1) := by
  unfold prepare
  dsimp only
  split
  · rename_i f hbuild
    exact .inl ⟨⟨f, hbuild⟩, rfl⟩
  rename_i plan hbuild
  change Plan.build setting.config (setting.around s.files) request = .ok plan at hbuild
  refine .inr ⟨⟨plan, hbuild⟩, ?_⟩
  have hartifact := prepareArtifact_files setting request.context
    (({ s with state := .preparing }).log .info "launch.preparing"
      [("task", request.context.task),
       ("baseline", RevisionPoint.describe request.window.baseline),
       ("end", RevisionPoint.describe request.window.fin),
       ("run_all_tests", .bool request.runAll)])
  split
  · rename_i u f h
    rw [h] at hartifact
    exact hartifact.imp_right .inl
  · rename_i u path h
    obtain ⟨-, -, hfiles⟩ := prepareArtifact_ok h
    change u.files = (housed setting request.context s.files).1 at hfiles
    rw [furnished_eq hbuild hfiles]
    split <;> exact .inr (.inr rfl)

lemma prepare_error
    (hartifact : hasNull (setting.config.report.artifact request.context).toText = false)
    (hreports : hasNull (setting.config.report.reportsDir request.context).toText = false)
    (h : s.prepare setting request = (t, .error f)) :
    ∃ g : Gate, g.StopsAt setting request s.files f := by
  unfold prepare at h
  dsimp only at h
  have hzero := Gate.openBelow_zero setting request s.files
  split at h
  · rename_i g hbuild
    change Plan.build setting.config (setting.around s.files) request = .error g at hbuild
    obtain rfl := Except.error.inj (Prod.mk.inj h).2
    exact ⟨.planned, by simp only [Gate.failure?, hbuild], hzero⟩
  rename_i plan hbuild
  change Plan.build setting.config (setting.around s.files) request = .ok plan at hbuild
  split at h
  · rename_i u g hprepare
    obtain rfl := Except.error.inj (Prod.mk.inj h).2
    have hone := hzero.next .planned rfl (by simp only [Gate.failure?, hbuild])
    rcases prepareArtifact_error hartifact hprepare with ⟨-, e, hcleared, rfl⟩ |
      ⟨-, hcleared, e, hhoused, rfl⟩
    · change (cleared setting request.context s.files).2 = .error (.os e) at hcleared
      exact ⟨.cleared, by rw [Gate.failure?, hcleared, Gate.blame_os], hone⟩
    · change (cleared setting request.context s.files).2 = .ok () at hcleared
      change (housed setting request.context s.files).2 = .error (.os e) at hhoused
      have htwo := hone.next .cleared rfl (by rw [Gate.failure?, hcleared, Gate.blame_ok])
      exact ⟨.housed, by rw [Gate.failure?, hhoused, Gate.blame_os], htwo⟩
  rename_i u path hprepare
  obtain ⟨hcleared, hhoused, hfiles⟩ := prepareArtifact_ok hprepare
  have hlast := furnished_eq hbuild hfiles
  have hplace := (build_places hbuild).2
  split at h
  · simp at h
  · rename_i e hmade
    obtain rfl := Except.error.inj (Prod.mk.inj h).2
    rw [← hlast] at hmade
    refine ⟨.furnished, ?_, openBelow_reports hbuild hcleared hhoused⟩
    rw [Gate.failure?, hmade, Gate.blame_os, hplace]
  · rename_i g hg hmade
    obtain ⟨e, rfl⟩ := os_of_ensureDirFrom (hplace ▸ hreports) (Prod.ext rfl hmade)
    exact absurd rfl (hg e)

/-- The plan can be started as far as class path and executable go. -/
lemma openBelow_directive {found : String} (hopen : Gate.OpenBelow setting request fs 4)
    (hclasspath : ¬setting.config.executor.classpath.isEmpty = true)
    (hwhich : (furnished setting request.context fs).1.which
      (setting.location (furnished setting request.context fs).1) (setting.env.get? "PATH")
      setting.config.executor.java = some found) :
    Gate.OpenBelow setting request fs 6 :=
  (hopen.next .classpath rfl (by
    rw [Gate.failure?, if_neg (by simpa using hclasspath)])).next .executable rfl (by
    rw [Gate.failure?]
    simp only [hwhich])

lemma checkSpawnable_ok
    (hbuild : Plan.build setting.config (setting.around fs) request = .ok plan)
    (hopen : Gate.OpenBelow setting request fs 4)
    (h : checkSpawnable setting (furnished setting request.context fs).1 plan = .ok ()) :
    ∀ g : Gate, g.failure? setting request fs = none := by
  unfold checkSpawnable at h
  dsimp only at h
  split at h
  · simp at h
  rename_i hclasspath
  split at h
  · simp at h
  rename_i found hwhich
  have hlast : Gate.directive.failure? setting request fs = none := by
    rw [Gate.failure?]
    simp only [hbuild]
    split
    · rename_i d hd
      simp only [hd, Agent.checkDirective] at h
      cases hgood : Agent.isDirective d.toList with
      | true => rfl
      | false => simp [hgood] at h
    · rfl
  have hall := (openBelow_directive hopen hclasspath hwhich).next .directive rfl hlast
  exact fun g => hall g (by cases g <;> decide)

lemma checkSpawnable_error {e : LaunchError}
    (hbuild : Plan.build setting.config (setting.around fs) request = .ok plan)
    (hopen : Gate.OpenBelow setting request fs 4)
    (h : checkSpawnable setting (furnished setting request.context fs).1 plan = .error e) :
    ∃ g : Gate, g.StopsAt setting request fs (.error e) := by
  unfold checkSpawnable at h
  dsimp only at h
  split at h
  · rename_i hclasspath
    obtain rfl := Except.error.inj h
    exact ⟨.classpath, by rw [Gate.failure?, if_pos (by simpa using hclasspath)], hopen⟩
  rename_i hclasspath
  split at h
  · rename_i hwhich
    obtain rfl := Except.error.inj h
    refine ⟨.executable, ?_, hopen.next .classpath rfl (by
      rw [Gate.failure?, if_neg (by simpa using hclasspath)])⟩
    rw [Gate.failure?]
    simp only [hwhich]
  rename_i found hwhich
  split at h
  · rename_i d hd
    rw [Agent.checkDirective] at h
    split at h
    · simp at h
    · rename_i hbad
      obtain rfl := Except.error.inj h
      refine ⟨.directive, ?_, openBelow_directive hopen hclasspath hwhich⟩
      rw [Gate.failure?]
      simp only [hbuild, hd, hbad, Bool.false_eq_true, if_false]
  · simp at h

/-! ### Coming to the launcher -/

lemma handOver_ok (h : s.handOver setting request runId plan = (t, .ok call)) :
    checkSpawnable setting s.files plan = .ok () ∧
      call = ⟨plan.command, plan.workingDir, plan.env.set runIdVariable runId, request.timeout⟩ ∧
      ∃ u, Tells s u ["launch.spawning", "launch.arguments"] ∧ u.files = s.files ∧
        u.state = .running ∧ t = u.note (.call call .running) := by
  unfold handOver at h
  dsimp only at h
  split at h
  · simp at h
  rename_i hspawnable
  obtain ⟨rfl, hcall⟩ := Prod.mk.inj h
  obtain rfl := Except.ok.inj hcall
  exact ⟨hspawnable, rfl, _, (((Tells.refl s).withState .running).log _ _ _).log _ _ _, rfl, rfl,
    rfl⟩

lemma handOver_error {e : LaunchError}
    (h : s.handOver setting request runId plan = (t, .error e)) :
    checkSpawnable setting s.files plan = .error e ∧ t = { s with state := .running } := by
  unfold handOver at h
  dsimp only at h
  split at h
  · rename_i e' hspawnable
    obtain ⟨rfl, he⟩ := Prod.mk.inj h
    obtain rfl := Except.error.inj he
    exact ⟨hspawnable, rfl⟩
  · simp at h

lemma approach_eq_ok (h : s.approach setting request runId = (t, .ok (plan, call))) :
    ∃ u, s.prepare setting request = (u, .ok plan) ∧
      u.handOver setting request runId plan = (t, .ok call) := by
  unfold approach at h
  split at h
  · simp at h
  rename_i u plan' hprepare
  split at h
  · simp at h
  rename_i v call' hhand
  obtain ⟨rfl, hpair⟩ := Prod.mk.inj h
  obtain ⟨rfl, rfl⟩ := Prod.mk.inj (Except.ok.inj hpair)
  exact ⟨u, hprepare, hhand⟩

lemma approach_eq_error (h : s.approach setting request runId = (t, .error f)) :
    s.prepare setting request = (t, .error f) ∨
      ∃ u plan e, s.prepare setting request = (u, .ok plan) ∧
        u.handOver setting request runId plan = (t, .error e) ∧ f = .error e := by
  unfold approach at h
  split at h
  · rename_i u g hprepare
    obtain ⟨rfl, hf⟩ := Prod.mk.inj h
    obtain rfl := Except.error.inj hf
    exact .inl hprepare
  rename_i u plan hprepare
  split at h
  · rename_i v e hhand
    obtain ⟨rfl, hf⟩ := Prod.mk.inj h
    exact .inr ⟨u, plan, e, hprepare, hhand, (Except.error.inj hf).symm⟩
  · simp at h

/-- The launcher is called once all gates are open, with the files as they were prepared. -/
lemma approach_ok (h : s.approach setting request runId = (t, .ok (plan, call))) :
    Plan.build setting.config (setting.around s.files) request = .ok plan ∧
      (∀ g : Gate, g.failure? setting request s.files = none) ∧
      t.files = (furnished setting request.context s.files).1 ∧ t.state = .running ∧
      ∃ u, Tells s u (preparationEvents setting request s.files ++
          ["launch.spawning", "launch.arguments"]) ∧ t = u.note (.call call .running) := by
  obtain ⟨u, hprepare, hhand⟩ := approach_eq_ok h
  have htells := prepare_tells setting request s
  rw [hprepare] at htells
  obtain ⟨hbuild, hopen, hfiles⟩ := prepare_ok hprepare
  obtain ⟨hspawnable, -, v, hover, hsame, hrunning, rfl⟩ := handOver_ok hhand
  rw [hfiles] at hspawnable
  exact ⟨hbuild, checkSpawnable_ok hbuild hopen hspawnable, hsame.trans hfiles, hrunning, v,
    htells.trans hover, rfl⟩

/-- The launcher is called with what the plan holds, under the id of the launch. -/
lemma approach_call (h : s.approach setting request runId = (t, .ok (plan, call))) :
    call = ⟨plan.command, plan.workingDir, plan.env.set runIdVariable runId, request.timeout⟩ := by
  obtain ⟨u, -, hhand⟩ := approach_eq_ok h
  exact (handOver_ok hhand).2.1

/-- A launch without a plan ends with what is in the way of its plan. -/
lemma approach_of_build {f : Failure}
    (h : Plan.build setting.config (setting.around s.files) request = .error f) (runId : String) :
    ∃ t, s.approach setting request runId = (t, .error f) := by
  have hprepare : ∃ t, s.prepare setting request = (t, .error f) := by
    unfold prepare
    dsimp only
    split
    · rename_i e he
      obtain rfl := Except.error.inj (he.symm.trans h)
      exact ⟨_, rfl⟩
    · rename_i plan hplan
      cases hplan.symm.trans h
  obtain ⟨t, ht⟩ := hprepare
  refine ⟨t, ?_⟩
  unfold approach
  rw [ht]

/-- A launch that does not come to its launcher has done no more than to tell of its preparation. -/
lemma approach_tells (h : s.approach setting request runId = (t, .error f)) :
    Tells s t (preparationEvents setting request s.files) := by
  have htells := prepare_tells setting request s
  rcases approach_eq_error h with hprepare | ⟨u, plan, e, hprepare, hhand, -⟩
  · rwa [hprepare] at htells
  · rw [hprepare] at htells
    obtain ⟨-, rfl⟩ := handOver_error hhand
    exact htells.withState .running

/-- A launch that does not come to its launcher ends at the first gate that is not open. -/
lemma approach_error
    (hartifact : hasNull (setting.config.report.artifact request.context).toText = false)
    (hreports : hasNull (setting.config.report.reportsDir request.context).toText = false)
    (h : s.approach setting request runId = (t, .error f)) :
    Logs s t ∧ ∃ g : Gate, g.StopsAt setting request s.files f := by
  refine ⟨(approach_tells h).toLogs, ?_⟩
  rcases approach_eq_error h with hprepare | ⟨u, plan, e, hprepare, hhand, rfl⟩
  · exact prepare_error hartifact hreports hprepare
  · obtain ⟨hbuild, hopen, hfiles⟩ := prepare_ok hprepare
    have hspawnable := (handOver_error hhand).1
    rw [hfiles] at hspawnable
    exact checkSpawnable_error hbuild hopen hspawnable

/-- Handing over touches no file. -/
lemma approach_files (setting : Setting) (request : LaunchRequest) (runId : String) (s : Session) :
    (s.approach setting request runId).1.files = (s.prepare setting request).1.files := by
  cases happroach : s.approach setting request runId with
  | mk t outcome =>
    cases outcome with
    | ok pair =>
      obtain ⟨u, hprepare, hhand⟩ := approach_eq_ok happroach
      obtain ⟨-, -, v, -, hsame, -, rfl⟩ := handOver_ok hhand
      rw [hprepare]
      exact hsame
    | error f =>
      rcases approach_eq_error happroach with hprepare | ⟨u, plan, e, hprepare, hhand, -⟩
      · rw [hprepare]
      · obtain ⟨-, rfl⟩ := handOver_error hhand
        rw [hprepare]

end TestImpact.Proofs
