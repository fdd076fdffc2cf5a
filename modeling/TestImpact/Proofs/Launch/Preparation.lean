import TestImpact.Proofs.Files.Parents
import TestImpact.Proofs.Launch.Coverage
import TestImpact.Proofs.Launch.Refusal
import TestImpact.Proofs.Paths.Texts

/-!
# Preparing the artifact

The stale artifact is removed before the directory around it is made. A stale file stands in a
directory that is there, so nothing can go wrong after its removal; only a link on which its own
directory depends can be lost. What was prepared once is found prepared, except for a file name that
the system refuses to look up.
-/

namespace TestImpact.Proofs
open Files Session

variable {setting : Setting} {run : RunContext} {path : Path} {s t : Session} {fs : Files}
  {cwd l : Location} {p : Path} {f : Failure}

/-! ### Preparations that fail -/

/-- A link at a path, without which the directory around the path is not reached. -/
def HoldsItsOwnDirectory (fs : Files) (cwd : Location) (p : Path) (l : Location) : Prop :=
  (∃ target, fs.find cwd false p = .ok ⟨l, some (.link target)⟩) ∧ DirAt fs cwd p.parent ∧
    ¬DirAt (fs.erase l) cwd p.parent

/-- The directory around a removed entry is there still, or the entry was a link that it depends on. -/
lemma dirAt_of_unlink {later : Files} (hsegs : p.segments ≠ []) (h : fs.unlink cwd p = .ok later) :
    DirAt later cwd p.parent ∨ ∃ l, HoldsItsOwnDirectory fs cwd p l ∧
      ∀ m, later.get? m = if m = l then none else fs.get? m := by
  obtain ⟨l, e, hfind, hdir, herased⟩ := unlink_eq_ok_iff.mp h
  obtain ⟨l', e', hfind', -, hget, hlater⟩ := get?_of_unlink h
  obtain ⟨rfl, rfl⟩ : l = l' ∧ e = e' := by simpa [hfind] using hfind'
  have hparent : DirAt fs cwd p.parent := dirAt_parent hsegs hfind
  by_cases hthere : DirAt later cwd p.parent
  · exact .inl hthere
  refine .inr ⟨l, ⟨?_, hparent, herased ▸ hthere⟩, hlater⟩
  cases e with
  | dir => exact absurd rfl hdir
  | file content executable => exact absurd (dirAt_without_file hget hlater hparent) hthere
  | link target => exact ⟨target, hfind⟩

/-- Around a directory that is there, a preparation does not fail after the artifact was removed. -/
lemma housed_of_dirAt
    (h : DirAt (cleared setting run fs).1 (setting.location fs)
      (setting.config.report.artifact run).parent) :
    (housed setting run fs).2 = .ok () := by
  rw [housed, ensureDir, location_cleared, ensureDirFrom_of_dirAt h]

/-- A preparation that fails keeps every entry, but for a link that the directory around it was reached
through. -/
lemma prepareArtifact_keeps
    (hnull : hasNull (setting.config.report.artifact run).toText = false)
    (h : s.prepareArtifact setting run = (t, .error f)) :
    Kept s.files t.files ∨ ∃ l,
      HoldsItsOwnDirectory s.files (setting.location s.files)
        (setting.config.report.artifact run) l ∧
      ∀ m entry, m ≠ l → s.files.get? m = some entry → t.files.get? m = some entry := by
  rcases prepareArtifact_error hnull h with ⟨hfiles, -⟩ | ⟨hfiles, hcleared, e, hhoused, -⟩
  · rw [hfiles]
    exact .inl fun _ _ hentry => hentry
  rw [hfiles]
  have hgrows := (housed_built setting run s.files).toGrows
  rcases cleared_ok hcleared with hunlink | ⟨hsame, -⟩
  · have hsegs := segments_artifact_ne_nil setting.config.report run
    rcases dirAt_of_unlink hsegs hunlink with hparent | ⟨l, hlink, hlater⟩
    · rw [housed_of_dirAt hparent] at hhoused
      cases hhoused
    · refine .inr ⟨l, hlink, fun m entry hm hentry => hgrows.keeps m entry ?_⟩
      rw [hlater, if_neg hm, hentry]
  · rw [hsame] at hgrows
    exact .inl hgrows.keeps

/-! ### Preparing again -/

/-- The last name on a path. -/
def lastName (p : Path) : String := p.segments.getLastD ""

lemma resetArtifact_of_missing
    (h : t.files.unlink (setting.location t.files) path = .error (errorAt .noEntry path)) :
    t.resetArtifact setting path = (t, .ok ()) := by
  simp [resetArtifact, h, errorAt, OsError.kind]

/-- The error of a reset at a path with a name that is too long. -/
def tooLong (path : Path) : LaunchError :=
  .of (.resetFailed path.toText (OsError.at .nameTooLong path.toText).message)

lemma resetArtifact_of_long
    (h : t.files.find (setting.location t.files) false path = .error (errorAt .nameTooLong path)) :
    t.resetArtifact setting path = (t, .error (.error (tooLong path))) := by
  have hunlink : t.files.unlink (setting.location t.files) path =
      .error (errorAt .nameTooLong path) := by rw [unlink, h]
  simp [resetArtifact, hunlink, errorAt, OsError.kind, tooLong]

lemma prepareArtifact_of_reset {later : Files}
    (hreset : t.resetArtifact setting (setting.config.report.artifact run) = (t, .ok ()))
    (hmade : t.files.ensureDir (setting.location t.files)
      (setting.config.report.artifact run).parent = (later, .ok ())) :
    t.prepareArtifact setting run =
      ({ t with files := later }, .ok (setting.config.report.artifact run)) := by
  simp [prepareArtifact, hreset, hmade]

lemma prepareArtifact_of_refused
    (hreset : t.resetArtifact setting (setting.config.report.artifact run) = (t, .error f)) :
    t.prepareArtifact setting run = (t, .error f) := by
  simp only [prepareArtifact, hreset]

lemma prepareArtifact_path (h : (s.prepareArtifact setting run).2 = .ok path) :
    path = setting.config.report.artifact run := by
  unfold prepareArtifact at h
  dsimp only at h
  split at h
  · simp at h
  · split at h
    · exact (Except.ok.inj h).symm
    · simp at h
    · simp at h

/-- A path that is clear and ready to be written to. -/
structure Ready (fs : Files) (cwd : Location) (p : Path) : Prop where
  absent : ¬Present fs cwd p
  parent : DirAt fs cwd p.parent

lemma prepareArtifact_ready (hstands : Stands setting s.files)
    (h : s.prepareArtifact setting run = (t, .ok path)) (hstraight : Straight path) :
    Ready t.files (setting.location t.files) path ∧ hasNull path.toText = false ∧
      path.toText.utf8ByteSize ≤ maxPath := by
  obtain rfl := prepareArtifact_path (congrArg Prod.snd h)
  obtain ⟨hcleared, hhoused, hfiles⟩ := prepareArtifact_ok h
  have hvacant := vacant_of_cleared hcleared
  have hmade := ensureDir_of_housed hhoused
  rw [hfiles, location_housed hstands]
  have habsent := not_present_of_ensureDirFrom hstraight
    (segments_artifact_ne_nil setting.config.report run) hvacant hmade
  exact ⟨⟨habsent, ensureDirFrom_dirAt hmade⟩, hvacant.sizes⟩

/-- What is ready is reset without a change, unless its name is too long to be looked up. -/
lemma resetArtifact_of_ready (hsegs : path.segments ≠ []) (hstraight : Straight path)
    (hnull : hasNull path.toText = false) (hsize : path.toText.utf8ByteSize ≤ maxPath)
    (hready : Ready t.files (setting.location t.files) path) :
    t.resetArtifact setting path =
      (t, if (lastName path).utf8ByteSize ≤ maxName then .ok () else .error (.error (tooLong path))) := by
  obtain ⟨name, hlast, hname⟩ := exists_last_segment hsegs
  have hdots : name ≠ ".." := fun he => hstraight (by rw [hlast, he]; simp)
  have hlastName : lastName path = name := by simp [lastName, hlast]
  rw [hlastName]
  by_cases hshort : name.utf8ByteSize ≤ maxName
  · rw [if_pos hshort]
    have hlooked : IsName name := ⟨hname.1, hname.2.1, hdots, hshort⟩
    obtain ⟨l, hfind⟩ :=
      find_of_not_present hlast hlooked hnull hsize hready.parent hready.absent
    apply resetArtifact_of_missing
    rw [unlink, hfind]
  · rw [if_neg hshort]
    apply resetArtifact_of_long
    exact find_long hlast hname hdots (by omega) hnull hsize hready.parent

/-- A preparation on a path without null characters that fails does so by an error of spawning, and
every entry is as it was, except that a link at the path of the artifact may be gone on which the
directory around it depends. One that succeeds gives the path of the artifact; without double dots on
it, nothing is left at the path, a directory is around it, and to reset or to prepare it again changes
nothing, and succeeds exactly if the system takes a file name of this length. -/
theorem preparation_keeps_and_repeats (setting : Setting) (run : RunContext) (s t : Session)
    (hstands : Stands setting s.files) :
    (∀ f, hasNull (setting.config.report.artifact run).toText = false →
      s.prepareArtifact setting run = (t, .error f) →
      (∃ e, f = .error e ∧ e.family = .spawn) ∧
      (Kept s.files t.files ∨ ∃ l,
        HoldsItsOwnDirectory s.files (setting.location s.files)
          (setting.config.report.artifact run) l ∧
        ∀ m entry, m ≠ l → s.files.get? m = some entry → t.files.get? m = some entry)) ∧
    ∀ path, s.prepareArtifact setting run = (t, .ok path) →
      path = setting.config.report.artifact run ∧
      (Straight path →
        Ready t.files (setting.location t.files) path ∧
        if (lastName path).utf8ByteSize ≤ maxName then
          t.resetArtifact setting path = (t, .ok ()) ∧
            t.prepareArtifact setting run = (t, .ok path)
        else
          t.resetArtifact setting path = (t, .error (.error (tooLong path))) ∧
            t.prepareArtifact setting run = (t, .error (.error (tooLong path)))) := by
  refine ⟨fun f hnull h => ⟨?_, prepareArtifact_keeps hnull h⟩, fun path h => ?_⟩
  · rcases prepareArtifact_error hnull h with ⟨-, e, -, rfl⟩ | ⟨-, -, e, -, rfl⟩
    · exact ⟨_, rfl, rfl⟩
    · exact ⟨_, rfl, rfl⟩
  obtain rfl := prepareArtifact_path (congrArg Prod.snd h)
  refine ⟨rfl, fun hstraight => ?_⟩
  obtain ⟨hready, hnull, hsize⟩ := prepareArtifact_ready hstands h hstraight
  have hreset := resetArtifact_of_ready (segments_artifact_ne_nil _ _) hstraight hnull hsize hready
  refine ⟨hready, ?_⟩
  split
  · rename_i hshort
    rw [if_pos hshort] at hreset
    exact ⟨hreset, prepareArtifact_of_reset hreset (ensureDirFrom_of_dirAt hready.parent _)⟩
  · rename_i hlong
    rw [if_neg hlong] at hreset
    exact ⟨hreset, prepareArtifact_of_refused hreset⟩

/-- A stale artifact is cleared away once, and a second preparation finds all as it is to be. -/
theorem sample_preparation_repeats : ∃ t path,
    (Session.start (writeSample sampleFiles)).prepareArtifact sampleSetting sampleRequest.context =
      (t, .ok path) ∧
    Present (writeSample sampleFiles) ["w"] path ∧
    ¬Present t.files (sampleSetting.location t.files) path ∧
    t.prepareArtifact sampleSetting sampleRequest.context = (t, .ok path) := by
  have hsucceeds : ((Session.start (writeSample sampleFiles)).prepareArtifact sampleSetting
      sampleRequest.context).2.toOption.isSome = true := by decide +kernel
  cases h : (Session.start (writeSample sampleFiles)).prepareArtifact sampleSetting
      sampleRequest.context with
  | mk t result =>
    cases result with
    | error f => simp [h, Except.toOption] at hsucceeds
    | ok path =>
      obtain ⟨-, hprepared⟩ := preparation_keeps_and_repeats sampleSetting sampleRequest.context
        (Session.start (writeSample sampleFiles)) t (by decide +kernel)
      obtain ⟨hpath, hready⟩ := hprepared path h
      have hstraight : Straight path := by
        rw [hpath]
        decide +kernel
      have hshort : (lastName path).utf8ByteSize ≤ maxName := by
        rw [hpath]
        decide +kernel
      have hpresent : Present (writeSample sampleFiles) ["w"] path := by
        rw [hpath]
        decide +kernel
      obtain ⟨hclear, hagain⟩ := hready hstraight
      rw [if_pos hshort] at hagain
      exact ⟨t, path, rfl, hpresent, hclear.absent, hagain.2⟩

/-! ### What a preparation may lose, and a name that is too long -/

/-- A link that leads to a directory through the artifact, which is a link to the current one. -/
def circularFiles : Files :=
  (sampleFiles.place "m" ["w"] (.link "t.exec")).place "t.exec" ["w"] (.link ".")

def circularSetting : Setting :=
  { sampleSetting with
    config := { sampleConfig with
      report := { sampleConfig.report with artifactSubdir := "." } } }

def circularRun : RunContext := ⟨"t", "m", ".", []⟩

lemma spawnError_of_errorOf? {α : Type} {x : Attempt α}
    (h : (errorOf? x).any (fun e => e.family == .spawn) = true) :
    ∃ e, x = .error (.error e) ∧ e.family = .spawn := by
  obtain ⟨e, he, hfamily⟩ := (Option.any_eq_true _ _).mp h
  unfold errorOf? at he
  split at he
  · obtain rfl := Option.some.inj he
    exact ⟨_, rfl, by simpa using hfamily⟩
  · cases he

def taskRun (task : String) : RunContext := ⟨task, "build", ".", []⟩

section LongNames

variable {task : String}

lemma artifact_taskRun (hslash : '/' ∉ task.toList) :
    (sampleSetting.config.report.artifact (taskRun task)).anchor = .relative ∧
      (sampleSetting.config.report.artifact (taskRun task)).segments =
        ["build", "tmp", "jacoco"] ++ [task ++ ".exec"] := by
  have hfile := @ofText_joinText [task ++ ".exec"] (by simpa using isSegment_exec hslash)
  have hdir : (Path.ofText "build" / Path.ofText "tmp/jacoco").anchor = .relative ∧
      (Path.ofText "build" / Path.ofText "tmp/jacoco").segments = ["build", "tmp", "jacoco"] := by
    decide +kernel
  change (Path.join (Path.ofText "build" / Path.ofText "tmp/jacoco")
      (Path.ofText (Text.joinText "/" [task ++ ".exec"]))).anchor = _ ∧
    (Path.join (Path.ofText "build" / Path.ofText "tmp/jacoco")
      (Path.ofText (Text.joinText "/" [task ++ ".exec"]))).segments = _
  rw [hfile, ← hdir.1, ← hdir.2]
  exact ⟨rfl, rfl⟩

lemma hasNull_taskRun (hslash : '/' ∉ task.toList) (hnull : '\x00' ∉ task.toList) :
    hasNull (sampleSetting.config.report.artifact (taskRun task)).toText = false := by
  rw [← Bool.not_eq_true, hasNull_iff_exists_segment, (artifact_taskRun hslash).2]
  rintro ⟨s, hs, hc⟩
  rcases List.mem_append.mp hs with hm | hm
  · have hothers : ∀ s ∈ ["build", "tmp", "jacoco"], '\x00' ∉ s.toList := by decide
    exact hothers s hm hc
  · rw [List.mem_singleton.mp hm, String.toList_append, List.mem_append] at hc
    exact absurd (hc.resolve_left hnull) (by decide)

lemma size_taskRun (hslash : '/' ∉ task.toList) (hsize : task.utf8ByteSize ≤ 4000) :
    (sampleSetting.config.report.artifact (taskRun task)).toText.utf8ByteSize ≤ maxPath := by
  obtain ⟨hanchor, hsegs⟩ := artifact_taskRun hslash
  have hliterals : "".utf8ByteSize = 0 ∧ "build".utf8ByteSize = 5 ∧ "tmp".utf8ByteSize = 3 ∧
      "jacoco".utf8ByteSize = 6 ∧ "/".utf8ByteSize = 1 ∧ ".exec".utf8ByteSize = 5 ∧
      maxPath = 4095 := by decide
  rw [Path.toText, if_neg (by simp [hsegs]), hsegs, hanchor]
  simp only [Path.Anchor.toText, List.cons_append, List.nil_append, Text.joinText,
    String.utf8ByteSize_append]
  omega

/-- The walk to an artifact stops at a missing directory before its name is looked at. -/
lemma find_taskRun (hslash : '/' ∉ task.toList) (hnull : '\x00' ∉ task.toList)
    (hsize : task.utf8ByteSize ≤ 4000) :
    sampleFiles.find ["w"] false (sampleSetting.config.report.artifact (taskRun task)) =
      .error (errorAt .noEntry (sampleSetting.config.report.artifact (taskRun task))) := by
  obtain ⟨hanchor, hsegs⟩ := artifact_taskRun hslash
  have hbuild : IsName "build" := by
    unfold IsName
    decide
  have hwalk : sampleFiles.walk false maxLinks ["w"]
      (["build", "tmp", "jacoco"] ++ [task ++ ".exec"]) = .error .noEntry := by
    rw [List.cons_append, walk_absent hbuild (by decide +kernel), if_neg (by simp)]
  rw [find, hasNull_taskRun hslash hnull, locate, if_neg (Nat.not_lt.mpr (size_taskRun hslash hsize)),
    hsegs, Path.isAbsolute, hanchor]
  simp only [ne_eq, not_true_eq_false, decide_false, Bool.false_eq_true, if_false, hwalk]

lemma prepareArtifact_taskRun (hslash : '/' ∉ task.toList) (hnull : '\x00' ∉ task.toList)
    (hsize : task.utf8ByteSize ≤ 4000) :
    ∃ t, (Session.start sampleFiles).prepareArtifact sampleSetting (taskRun task) =
      (t, .ok (sampleSetting.config.report.artifact (taskRun task))) := by
  have hlocation : sampleSetting.location (Session.start sampleFiles).files = ["w"] := by
    decide +kernel
  have hparent : (sampleSetting.config.report.artifact (taskRun task)).parent =
      Path.ofText "build/tmp/jacoco" := by
    obtain ⟨hanchor, hsegs⟩ := artifact_taskRun hslash
    have hdir : (Path.ofText "build/tmp/jacoco").anchor = .relative ∧
        (Path.ofText "build/tmp/jacoco").segments = ["build", "tmp", "jacoco"] := by decide +kernel
    refine eq_of_parts (hanchor.trans hdir.1.symm) ?_
    change (sampleSetting.config.report.artifact (taskRun task)).segments.dropLast = _
    rw [hsegs, hdir.2]
    exact List.dropLast_concat
  have hmakes : (sampleFiles.ensureDir ["w"] (Path.ofText "build/tmp/jacoco")).2.toOption.isSome =
      true := by decide +kernel
  cases hmade : sampleFiles.ensureDir ["w"] (Path.ofText "build/tmp/jacoco") with
  | mk later result =>
    cases result with
    | error f => simp [hmade, Except.toOption] at hmakes
    | ok _ =>
      have hreset : (Session.start sampleFiles).resetArtifact sampleSetting
          (sampleSetting.config.report.artifact (taskRun task)) =
            (Session.start sampleFiles, .ok ()) := by
        apply resetArtifact_of_missing
        rw [hlocation]
        change sampleFiles.unlink _ _ = _
        rw [unlink, find_taskRun hslash hnull hsize]
      refine ⟨{ Session.start sampleFiles with files := later },
        prepareArtifact_of_reset hreset ?_⟩
      rw [hlocation, hparent]
      exact hmade

/-- Once the directory is there, a name that is too long is refused. -/
lemma prepareArtifact_again (hslash : '/' ∉ task.toList) (hnull : '\x00' ∉ task.toList)
    (hsize : task.utf8ByteSize ≤ 4000) (hlong : maxName < (task ++ ".exec").utf8ByteSize) :
    ∃ t path e, (Session.start sampleFiles).prepareArtifact sampleSetting (taskRun task) =
        (t, .ok path) ∧
      Straight path ∧ hasNull path.toText = false ∧
      (t.prepareArtifact sampleSetting (taskRun task)).2 = .error (.error e) ∧
      e.family = .spawn := by
  obtain ⟨t, hfirst⟩ := prepareArtifact_taskRun hslash hnull hsize
  obtain ⟨-, hsegs⟩ := artifact_taskRun hslash
  have hstraight : Straight (sampleSetting.config.report.artifact (taskRun task)) := by
    rw [Straight, hsegs, List.mem_append, List.mem_singleton]
    rintro (hm | hm)
    · exact absurd hm (by decide)
    · rw [← hm] at hlong
      exact absurd hlong (by decide)
  obtain ⟨hready, hnull', hsize'⟩ :=
    prepareArtifact_ready (s := Session.start sampleFiles) (by decide +kernel) hfirst hstraight
  have hreset := resetArtifact_of_ready (by simp [hsegs]) hstraight hnull' hsize' hready
  have hname : lastName (sampleSetting.config.report.artifact (taskRun task)) = task ++ ".exec" := by
    simp [lastName, hsegs]
  rw [hname, if_neg (Nat.not_le.mpr hlong)] at hreset
  have hagain := congrArg Prod.snd (prepareArtifact_of_refused hreset)
  exact ⟨t, _, _, hfirst, hstraight, hnull', hagain, rfl⟩

end LongNames

/-- A run for which the name of the artifact has one byte too many. -/
def longRun : RunContext := taskRun (String.ofList (List.replicate 251 'a'))

/-- The artifact of a run that cannot be prepared may be gone, and a run that could be prepared cannot
always be prepared again. -/
theorem prepared_run_is_refused_and_link_is_lost :
    (∃ e, ((Session.start circularFiles).prepareArtifact circularSetting circularRun).2 =
        .error (.error e) ∧ e.family = .spawn ∧
      hasNull (circularSetting.config.report.artifact circularRun).toText = false ∧
      ¬Kept circularFiles
        ((Session.start circularFiles).prepareArtifact circularSetting circularRun).1.files) ∧
    ∃ t path e, (Session.start sampleFiles).prepareArtifact sampleSetting longRun = (t, .ok path) ∧
      Straight path ∧ hasNull path.toText = false ∧
      (t.prepareArtifact sampleSetting longRun).2 = .error (.error e) ∧ e.family = .spawn := by
  constructor
  · have hspawns : (errorOf? ((Session.start circularFiles).prepareArtifact circularSetting
        circularRun).2).any (fun e => e.family == .spawn) = true := by decide +kernel
    obtain ⟨e, he, hfamily⟩ := spawnError_of_errorOf? hspawns
    refine ⟨e, he, hfamily, by decide +kernel, fun hkept => ?_⟩
    have hgone := hkept ["t.exec", "w"] (.link ".") (by decide +kernel)
    exact absurd hgone (by decide +kernel)
  · have hletters : (String.ofList (List.replicate 251 'a')).toList = List.replicate 251 'a' :=
      String.toList_ofList
    apply prepareArtifact_again
    · rw [hletters]
      exact fun hm => absurd (List.eq_of_mem_replicate hm) (by decide)
    · rw [hletters]
      exact fun hm => absurd (List.eq_of_mem_replicate hm) (by decide)
    · decide +kernel
    · decide +kernel

end TestImpact.Proofs
