import TestImpact.Proofs.Paths.Texts

/-!
# The paths of runs

A run has a path for its artifact, for its reports and for the classes that are dumped. They are below
its build directory, and no two tasks have one in common. With the subdirectories that are the default,
an artifact does not stand where reports or classes of any task are, nor around them or in them.
-/

namespace TestImpact.Proofs
open TestImpact.Path

variable {dir dir' p : Path} {sub name name' task : String}

/-- A name that can stand for a task in a path: a segment that does not lead up. -/
def IsTaskName (task : String) : Prop := IsSegment task ∧ task ≠ ".."

instance (task : String) : Decidable (IsTaskName task) := inferInstanceAs (Decidable (_ ∧ _))

/-- A text that leads from a directory to itself or into it. -/
def LeadsInto (sub : String) : Prop :=
  (ofText sub).isAbsolute = false ∧ ".." ∉ (ofText sub).segments

instance (sub : String) : Decidable (LeadsInto sub) := inferInstanceAs (Decidable (_ ∧ _))

/-- A report section whose subdirectories do not lead out of the build directory. -/
structure KeepsInside (c : ReportConfig) : Prop where
  artifact : LeadsInto c.artifactSubdir
  reports : LeadsInto c.reportsSubdir
  dump : LeadsInto c.dumpSubdir

/-- A report section with the subdirectories that are the default. -/
structure HasDefaultSubdirs (c : ReportConfig) : Prop where
  artifact : c.artifactSubdir = ReportConfig.default.artifactSubdir
  reports : c.reportsSubdir = ReportConfig.default.reportsSubdir
  dump : c.dumpSubdir = ReportConfig.default.dumpSubdir

/-- A path goes on from a directory by at least one segment, and none of them leads up. -/
def IsBelow (dir p : Path) : Prop :=
  p.anchor = dir.anchor ∧ ∃ rest, rest ≠ [] ∧ ".." ∉ rest ∧ p.segments = dir.segments ++ rest

/-- Two paths are the same, or one of them is above the other. -/
def Overlap (p q : Path) : Prop :=
  p.anchor = q.anchor ∧ (p.segments <+: q.segments ∨ q.segments <+: p.segments)

/-! ### A name in a subdirectory -/

lemma join_of_relative (h : p.isAbsolute = false) (dir : Path) :
    (dir / p).anchor = dir.anchor ∧ (dir / p).segments = dir.segments ++ p.segments := by
  change (join dir p).anchor = _ ∧ (join dir p).segments = _
  rw [join, if_neg (by simp [h])]
  exact ⟨rfl, rfl⟩

lemma ofText_segment (h : IsSegment name) :
    (ofText name).anchor = .relative ∧ (ofText name).segments = [name] := by
  have hread := @ofText_joinText [name] (by simpa using h)
  change ofText name = _ at hread
  rw [hread]
  exact ⟨rfl, rfl⟩

lemma place_parts (hsub : (ofText sub).isAbsolute = false) (hname : IsSegment name) (dir : Path) :
    (dir / ofText sub / ofText name).anchor = dir.anchor ∧
      (dir / ofText sub / ofText name).segments =
        dir.segments ++ ((ofText sub).segments ++ [name]) := by
  obtain ⟨hanchor, hsegments⟩ := ofText_segment hname
  have hrelative : (ofText name).isAbsolute = false := by simp [isAbsolute, hanchor]
  obtain ⟨houter, houters⟩ := join_of_relative hrelative (dir / ofText sub)
  obtain ⟨hinner, hinners⟩ := join_of_relative hsub dir
  rw [houter, houters, hinner, hinners, hsegments, List.append_assoc]
  exact ⟨rfl, rfl⟩

lemma place_below (hsub : LeadsInto sub) (hname : IsTaskName name) (dir : Path) :
    IsBelow dir (dir / ofText sub / ofText name) := by
  obtain ⟨hanchor, hsegments⟩ := place_parts hsub.1 hname.1 dir
  refine ⟨hanchor, (ofText sub).segments ++ [name], by simp, ?_, hsegments⟩
  intro hup
  rcases List.mem_append.mp hup with hm | hm
  · exact hsub.2 hm
  · exact hname.2 (List.mem_singleton.mp hm).symm

/-- The name of a place is its last segment. -/
lemma eq_of_place_eq (hsub : (ofText sub).isAbsolute = false) (hname : IsSegment name)
    (hname' : IsSegment name')
    (h : dir / ofText sub / ofText name = dir' / ofText sub / ofText name') : name = name' := by
  have hlast := congrArg (fun p : Path => p.segments.getLast?) h
  rw [(place_parts hsub hname dir).2, (place_parts hsub hname' dir').2, ← List.append_assoc,
    ← List.append_assoc, List.getLast?_concat, List.getLast?_concat] at hlast
  exact Option.some.inj hlast

/-- Two places in a directory overlap only if they do from that directory on. -/
lemma prefix_of_overlap {sub' : String} (hsub : (ofText sub).isAbsolute = false)
    (hsub' : (ofText sub').isAbsolute = false) (hname : IsSegment name) (hname' : IsSegment name')
    (h : Overlap (dir / ofText sub / ofText name) (dir / ofText sub' / ofText name')) :
    (ofText sub).segments ++ [name] <+: (ofText sub').segments ++ [name'] ∨
      (ofText sub').segments ++ [name'] <+: (ofText sub).segments ++ [name] := by
  have hoverlap := h.2
  rw [(place_parts hsub hname dir).2, (place_parts hsub' hname' dir).2] at hoverlap
  simpa only [List.prefix_append_right_inj] using hoverlap

/-! ### Names of artifacts -/

lemma isTaskName_exec (h : IsTaskName task) : IsTaskName (task ++ ".exec") := by
  refine ⟨isSegment_exec h.1.2.2, fun he => ?_⟩
  have hlength := congrArg (fun s => s.toList.length) he
  rw [String.toList_append, List.length_append] at hlength
  exact absurd (hlength ▸ Nat.le_add_left 5 _ : 5 ≤ "..".toList.length) (by decide)

lemma exec_ne_classes (task : String) : task ++ ".exec" ≠ "classes" := by
  intro he
  have hlast := congrArg (fun s => s.toList.getLast?) he
  rw [String.toList_append, List.getLast?_append] at hlast
  have hc : ".exec".toList.getLast? = some 'c' := by decide
  rw [hc, Option.some_or] at hlast
  exact absurd hlast (by decide)

lemma eq_of_exec_eq {task' : String} (h : task ++ ".exec" = task' ++ ".exec") : task = task' := by
  have hlists := congrArg String.toList h
  rw [String.toList_append, String.toList_append] at hlists
  exact String.toList_inj.mp (List.append_cancel_right hlists)

/-- The paths of a run are below its build directory, and different tasks have different ones. Under the
default subdirectories an artifact overlaps with no reports directory and with no dump directory of a
task in the same build directory. -/
theorem run_paths_are_separate (c : ReportConfig) (hc : KeepsInside c) (run run' : RunContext)
    (htask : IsTaskName run.task) (htask' : IsTaskName run'.task) :
    (IsBelow run.buildDir (c.artifact run) ∧ IsBelow run.buildDir (c.reportsDir run) ∧
      IsBelow run.buildDir (c.dumpDir run)) ∧
    (run.task ≠ run'.task → c.artifact run ≠ c.artifact run' ∧
      c.reportsDir run ≠ c.reportsDir run' ∧ c.dumpDir run ≠ c.dumpDir run') ∧
    (HasDefaultSubdirs c → run.buildDir = run'.buildDir →
      ¬Overlap (c.artifact run) (c.reportsDir run') ∧ ¬Overlap (c.artifact run) (c.dumpDir run')) := by
  have hexec := isTaskName_exec htask
  have hexec' := isTaskName_exec htask'
  refine ⟨⟨place_below hc.artifact hexec _, place_below hc.reports htask _,
    place_below hc.dump htask _⟩, fun hne => ⟨fun hsame => ?_, fun hsame => ?_, fun hsame => ?_⟩,
    fun hdefault hbuild => ⟨fun hoverlap => ?_, fun hoverlap => ?_⟩⟩
  · have hnames := eq_of_place_eq hc.artifact.1 hexec.1 hexec'.1 hsame
    exact hne (eq_of_exec_eq hnames)
  · exact hne (eq_of_place_eq hc.reports.1 htask.1 htask'.1 hsame)
  · exact hne (eq_of_place_eq hc.dump.1 htask.1 htask'.1 hsame)
  -- By default artifacts stand beside `classes` in `tmp/jacoco`, and reports are not below it at all.
  · rw [ReportConfig.artifact, ReportConfig.reportsDir, hbuild] at hoverlap
    have hprefix := prefix_of_overlap hc.artifact.1 hc.reports.1 hexec.1 htask'.1 hoverlap
    have hsegments : (ofText ReportConfig.default.artifactSubdir).segments = ["tmp", "jacoco"] ∧
        (ofText ReportConfig.default.reportsSubdir).segments =
          ["tmp", "reports", "testwise-coverage"] := by decide +kernel
    rw [hdefault.artifact, hdefault.reports, hsegments.1, hsegments.2] at hprefix
    simp at hprefix
  · rw [ReportConfig.artifact, ReportConfig.dumpDir, hbuild] at hoverlap
    have hprefix := prefix_of_overlap hc.artifact.1 hc.dump.1 hexec.1 htask'.1 hoverlap
    have hsegments : (ofText ReportConfig.default.artifactSubdir).segments = ["tmp", "jacoco"] ∧
        (ofText ReportConfig.default.dumpSubdir).segments = ["tmp", "jacoco", "classes"] := by
      decide +kernel
    rw [hdefault.artifact, hdefault.dump, hsegments.1, hsegments.2] at hprefix
    simp [exec_ne_classes, (exec_ne_classes _).symm] at hprefix

/-- A run of a task in a build directory that several tasks share. -/
def sampleRun (task : String) : RunContext := ⟨task, ofText "build", ofText "/w", []⟩

theorem sample_run_paths :
    ¬Overlap (ReportConfig.default.artifact (sampleRun "classes"))
        (ReportConfig.default.dumpDir (sampleRun "test")) ∧
      ReportConfig.default.artifact (sampleRun "classes") ≠
        ReportConfig.default.artifact (sampleRun "test") := by
  have hinside : KeepsInside ReportConfig.default :=
    ⟨by decide +kernel, by decide +kernel, by decide +kernel⟩
  have hpaths := run_paths_are_separate ReportConfig.default hinside (sampleRun "classes")
    (sampleRun "test") (by decide) (by decide)
  exact ⟨(hpaths.2.2 ⟨rfl, rfl, rfl⟩ rfl).2, (hpaths.2.1 (by decide)).1⟩

end TestImpact.Proofs
