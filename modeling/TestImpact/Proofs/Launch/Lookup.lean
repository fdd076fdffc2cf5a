import TestImpact.Proofs.Launch.Supervision
import TestImpact.Proofs.RawText

/-!
# Looking for the executable

A launch looks for the program of the executor before it calls its launcher. It does so from its own
directory and with the search path that it inherited. The process that is started looks for the
program once more, from the working directory and with the variables of the plan.
-/

namespace TestImpact.Proofs
open Files Session Child

variable {setting : Setting} {request : LaunchRequest} {plan : Plan} {call : LauncherCall}
  {s t : Session} {fs : Files} {cwd : Location} {name : String}

/-! ### Names that are tried -/

/-- The directories of a search path. -/
def searchDirectories (path : Option String) : List String :=
  (Text.splitOn ':' (path.getD standardPath).toList).map String.ofList

/-- The names that a program is looked for under, with a search path for those without a slash. -/
def namesTried (path : Option String) (name : String) : List String :=
  if name.toList.contains '/' then [name]
  else (searchDirectories path).map fun dir => Files.inDirectory dir name

/-- An empty search path is no path to a launch, and the current directory to a process. -/
lemma candidates_eq (path : Option String) (name : String)
    (h : name.toList.contains '/' = true ∨ path ≠ some "") :
    Files.candidates path name = namesTried path name := by
  unfold Files.candidates namesTried
  split
  · rfl
  rename_i hslash
  have hpath : path.getD standardPath ≠ "" := by
    rcases path with - | path
    · decide
    · intro he
      exact (h.resolve_left hslash) (congrArg some he)
  split
  · contradiction
  · rw [searchDirectories, List.map_map]
    rfl

lemma lookup_rawEnvironment (env : Environment) (name : String) :
    (rawEnvironment env).lookup (Raw.ofText name) = (env.get? name).map Raw.ofText := by
  induction env with
  | nil => rfl
  | cons entry env ih =>
    obtain ⟨n, v⟩ := entry
    change List.lookup _ ((Raw.ofText n, Raw.ofText v) :: rawEnvironment env) =
      (List.lookup name ((n, v) :: env)).map Raw.ofText
    rw [List.lookup_cons, List.lookup_cons]
    by_cases hn : name = n
    · simp [hn]
    · have hraw : (Raw.ofText name == Raw.ofText n) = false := by simpa [rawText_inj] using hn
      have hname : (name == n) = false := by simpa using hn
      rw [hraw, hname]
      exact ih

lemma inDirectory_rawText (dir name : String) :
    Child.inDirectory (Raw.ofText dir) (Raw.ofText name) =
      Raw.ofText (Files.inDirectory dir name) := by
  have hempty : (Raw.ofText dir).isEmpty = true ↔ dir = "" := by
    rw [List.isEmpty_iff, ← rawText_inj, rawText_ascii (s := "") (by decide)]
    rfl
  have hlast := getLast?_rawText (d := '/') (by decide) dir
  have hslash : Raw.ofText "/" = ['/'] := rawText_ascii (by decide)
  rw [Child.inDirectory, Files.inDirectory]
  simp only [hempty, hlast]
  split
  · rfl
  split
  · rw [rawText_append]
  · rw [rawText_append, rawText_append, hslash, List.append_assoc]
    rfl

/-- A process tries the names of the search path in its environment. -/
lemma candidates_rawEnvironment (env : Environment) (name : String) :
    (Child.candidates (rawEnvironment env) (Raw.ofText name)).map Raw.toText =
      namesTried (env.get? "PATH") name := by
  have hslash : (Raw.ofText name).contains '/' = name.toList.contains '/' := by
    rw [Bool.eq_iff_iff, List.contains_iff_mem, List.contains_iff_mem]
    exact mem_rawText (by decide) name
  have hpath : ((rawEnvironment env).lookup "PATH".toList).getD standardPath.toList =
      Raw.ofText ((env.get? "PATH").getD standardPath) := by
    rw [← rawText_ascii (s := "PATH") (by decide), lookup_rawEnvironment]
    cases env.get? "PATH" with
    | some path => rfl
    | none => exact (rawText_ascii (s := standardPath) (by decide)).symm
  unfold Child.candidates namesTried
  dsimp only
  rw [hslash]
  split
  · rw [List.map_singleton, toText_rawText]
  rw [hpath, splitOn_rawText (by decide), searchDirectories, List.map_map, List.map_map,
    List.map_map]
  refine List.map_congr_left fun dir _ => ?_
  simp only [Function.comp_apply]
  rw [inDirectory_rawText, toText_rawText]

/-! ### Places -/

/-- The places that texts name from a directory: a text, and the directory that it is read in. Without
a directory only what starts at the root has a place. -/
def placesFrom (dir : Option Location) (texts : List String) : List (Location × String) :=
  texts.filterMap fun text => if isRooted text then some ([], text) else dir.map (·, text)

/-- A file that can be executed stands at one of the places. -/
def HasProgram (fs : Files) (places : List (Location × String)) : Prop :=
  ∃ place ∈ places, fs.isExecutable place.1 place.2 = true

instance (fs : Files) (places : List (Location × String)) : Decidable (HasProgram fs places) :=
  inferInstanceAs (Decidable (∃ place ∈ places, _))

/-- The directory that a path leads to, if it leads to one. -/
def directoryAt (fs : Files) (cwd : Location) (p : Path) : Option Location :=
  match fs.locateText cwd true p.toText with
  | .ok ⟨l, some .dir⟩ => some l
  | _ => none

/-- Where a launch looks for the program of the executor. -/
def checkedPlaces (setting : Setting) (fs : Files) : List (Location × String) :=
  placesFrom (some (setting.location fs))
    (Files.candidates (setting.env.get? "PATH") setting.config.executor.java)

/-- Where a process looks for it that is started in the working directory and with the variables of
a plan. -/
def spawnPlaces (setting : Setting) (plan : Plan) (fs : Files) : List (Location × String) :=
  placesFrom (directoryAt fs (setting.location fs) plan.workingDir)
    ((Child.candidates (rawEnvironment plan.env)
      (Raw.ofText setting.config.executor.java)).map Raw.toText)

lemma isExecutable_rooted (h : isRooted name = true) (fs : Files) (l l' : Location) :
    fs.isExecutable l name = fs.isExecutable l' name := by
  simp only [isExecutable, locateText, h, if_true]

lemma hasProgram_placesFrom (fs : Files) (l : Location) (texts : List String) :
    HasProgram fs (placesFrom (some l) texts) ↔
      ∃ text ∈ texts, fs.isExecutable l text = true := by
  constructor
  · rintro ⟨place, hplace, hexecutable⟩
    obtain ⟨text, htext, hfrom⟩ := List.mem_filterMap.mp hplace
    refine ⟨text, htext, ?_⟩
    split at hfrom
    · rename_i hrooted
      obtain rfl := Option.some.inj hfrom
      exact (isExecutable_rooted hrooted fs l []).trans hexecutable
    · obtain rfl := Option.some.inj hfrom
      exact hexecutable
  · rintro ⟨text, htext, hexecutable⟩
    by_cases hrooted : isRooted text = true
    · refine ⟨([], text), List.mem_filterMap.mpr ⟨text, htext, if_pos hrooted⟩, ?_⟩
      exact (isExecutable_rooted hrooted fs [] l).trans hexecutable
    · exact ⟨(l, text), List.mem_filterMap.mpr ⟨text, htext, if_neg hrooted⟩, hexecutable⟩

/-- The check of a launch finds nothing exactly if no program is where it looks. -/
lemma which_eq_none_iff (setting : Setting) (fs : Files) :
    fs.which (setting.location fs) (setting.env.get? "PATH") setting.config.executor.java = none ↔
      ¬HasProgram fs (checkedPlaces setting fs) := by
  rw [checkedPlaces, hasProgram_placesFrom, which, List.find?_eq_none]
  simp

/-! ### Where both lookups come to -/

lemma isRooted_inDirectory {dir : String} (h : isRooted dir = true) (name : String) :
    isRooted (Files.inDirectory dir name) = true := by
  unfold isRooted at h ⊢
  rw [decide_eq_true_eq] at h ⊢
  obtain ⟨rest, hrest⟩ := List.head?_eq_some_iff.mp h
  have hne : dir ≠ "" := by
    rintro rfl
    simp at hrest
  rw [Files.inDirectory, if_neg hne]
  split <;> simp [String.toList_append, hrest]

/-- What starts at the root has its place wherever a process stands. -/
lemma placesFrom_of_rooted {texts : List String} (h : ∀ text ∈ texts, isRooted text = true)
    (dir : Option Location) : placesFrom dir texts = texts.map fun text => ([], text) := by
  induction texts with
  | nil => rfl
  | cons text texts ih =>
    obtain ⟨htext, htexts⟩ := List.forall_mem_cons.mp h
    rw [placesFrom, List.filterMap_cons, if_pos htext, List.map_cons]
    exact congrArg _ (ih htexts)

/-- A launch and the process that it starts look at the same places: for a name that starts at the root;
for another one with a slash if they stand in the same directory; and for one without a slash if the
configuration sets no other search path, that path is not empty, and they stand in the same directory
or all directories of the path start at the root. -/
inductive LooksAlike (setting : Setting) (plan : Plan) (fs : Files) : Prop
  | rooted : isRooted setting.config.executor.java = true → LooksAlike setting plan fs
  | inside : setting.config.executor.java.toList.contains '/' = true →
    directoryAt fs (setting.location fs) plan.workingDir = some (setting.location fs) →
      LooksAlike setting plan fs
  | searched : setting.config.executor.java.toList.contains '/' = false →
    (∀ path, ("PATH", path) ∈ setting.config.executor.env → setting.env.get? "PATH" = some path) →
    setting.env.get? "PATH" ≠ some "" →
    (directoryAt fs (setting.location fs) plan.workingDir = some (setting.location fs) ∨
      ∀ dir ∈ searchDirectories (setting.env.get? "PATH"), isRooted dir = true) →
      LooksAlike setting plan fs

lemma spawnPlaces_eq (setting : Setting) (plan : Plan) (fs : Files) :
    spawnPlaces setting plan fs =
      placesFrom (directoryAt fs (setting.location fs) plan.workingDir)
        (namesTried (plan.env.get? "PATH") setting.config.executor.java) := by
  rw [spawnPlaces, candidates_rawEnvironment]

/-- A plan keeps the inherited search path, unless the configuration has another one. -/
lemma planPath_eq {around : Surroundings}
    (hplanned : Planned setting.config around request plan) (haround : around.env = setting.env)
    (h : ∀ path, ("PATH", path) ∈ setting.config.executor.env →
      setting.env.get? "PATH" = some path) :
    plan.env.get? "PATH" = setting.env.get? "PATH" := by
  rw [hplanned.env, Plan.environment, Environment.get?_set, if_neg (by decide),
    Environment.get?_overlay, haround]
  -- Of several bindings of the name the last one holds, so the lookup is in the reversed list.
  cases hpath : setting.config.executor.env.reverse.lookup "PATH" with
  | none => rfl
  | some path =>
    obtain ⟨before, after, hbindings, -⟩ := List.lookup_eq_some_iff.mp hpath
    have hmem : ("PATH", path) ∈ setting.config.executor.env.reverse := by simp [hbindings]
    rw [h path (List.mem_reverse.mp hmem)]
    rfl

/-- What looks alike looks at the same places. -/
lemma LooksAlike.places {around : Surroundings} (h : LooksAlike setting plan fs)
    (hplanned : Planned setting.config around request plan) (haround : around.env = setting.env) :
    checkedPlaces setting fs = spawnPlaces setting plan fs := by
  rw [spawnPlaces_eq, checkedPlaces]
  cases h with
  | rooted hrooted =>
    have hslash : setting.config.executor.java.toList.contains '/' = true := by
      rw [isRooted, decide_eq_true_eq] at hrooted
      simpa using List.mem_of_head? hrooted
    rw [candidates_eq _ _ (.inl hslash), namesTried, if_pos hslash, namesTried, if_pos hslash]
    have hall : ∀ text ∈ [setting.config.executor.java], isRooted text = true := by
      simpa using hrooted
    rw [placesFrom_of_rooted hall, placesFrom_of_rooted hall]
  | inside hslash hdir =>
    rw [candidates_eq _ _ (.inl hslash), namesTried, if_pos hslash, namesTried, if_pos hslash, hdir]
  | searched hslash hkeeps hne hdirs =>
    rw [candidates_eq _ _ (.inr hne), planPath_eq hplanned haround hkeeps]
    rcases hdirs with hsame | hrooted
    · rw [hsame]
    · have hall : ∀ text ∈ namesTried (setting.env.get? "PATH") setting.config.executor.java,
          isRooted text = true := by
        intro text htext
        rw [namesTried, hslash] at htext
        obtain ⟨dir, hdir, rfl⟩ := List.mem_map.mp htext
        exact isRooted_inDirectory (hrooted dir hdir) _
      rw [placesFrom_of_rooted hall, placesFrom_of_rooted hall]

/-! ### What is started -/

lemma file_of_executeFrom {depth : Nat} {called raw : Raw} {arguments : List Raw} {start : Start}
    (h : executeFrom fs cwd depth called raw arguments = .ok start) :
    ∃ l content, fs.locateText cwd true raw.toText = .ok ⟨l, some (.file content true)⟩ := by
  unfold executeFrom at h
  split at h
  · simp at h
  · simp at h
  · rename_i l content hfile
    exact ⟨l, content, hfile⟩
  · simp at h

lemma execute_of_startFirst {called : Raw} {arguments : List Raw} {start : Start}
    {names : List Raw} {kept : Option OsErrorKind} {last : OsErrorKind}
    (h : startFirst fs cwd called arguments kept last names = .ok start) :
    ∃ raw ∈ names, execute fs cwd called raw arguments = .ok start := by
  induction names generalizing kept last with
  | nil => simp [startFirst] at h
  | cons raw names ih =>
    rw [startFirst] at h
    split at h
    · rename_i start' hexecute
      obtain rfl := Except.ok.inj h
      exact ⟨raw, List.mem_cons_self, hexecute⟩
    · obtain ⟨raw', hraw, hexecute⟩ := ih h
      exact ⟨raw', List.mem_cons_of_mem _ hraw, hexecute⟩

/-- What is started is an executable file, under a name that the process tries in its directory. -/
lemma file_of_start {l : Location} {start : Start}
    (h : Child.startOf fs cwd call = .ok (l, start)) :
    directoryAt fs cwd call.directory = some l ∧
      ∃ raw ∈ Child.candidates (rawEnvironment call.env) (Raw.ofText (call.command.headD "")),
        ∃ place content, fs.locateText l true raw.toText = .ok ⟨place, some (.file content true)⟩ := by
  unfold Child.startOf at h
  dsimp only at h
  split at h
  · simp at h
  · simp at h
  · rename_i standing hstanding
    split at h
    · simp at h
    rename_i start' hfind
    obtain ⟨rfl, -⟩ := Prod.mk.inj (Except.ok.inj h)
    obtain ⟨raw, hraw, hexecute⟩ := execute_of_startFirst hfind
    exact ⟨by rw [directoryAt, hstanding], raw, hraw, file_of_executeFrom hexecute⟩
  · simp at h

lemma hasNull_eq_false_iff (s : String) : hasNull s = false ↔ '\x00' ∉ s.toList := by
  rw [← Bool.not_eq_true, hasNull, List.contains_iff_mem]

lemma hasNull_inDirectory {dir : String} (hdir : hasNull dir = false)
    (hname : hasNull name = false) : hasNull (Files.inDirectory dir name) = false := by
  rw [hasNull_eq_false_iff] at hdir hname ⊢
  rw [Files.inDirectory]
  split
  · exact hname
  split
  · simp [hdir, hname]
  · simp [hdir, hname]

lemma hasNull_of_mem_namesTried {path : Option String} {text : String}
    (hname : hasNull name = false) (hpath : ∀ value, path = some value → hasNull value = false)
    (h : text ∈ namesTried path name) : hasNull text = false := by
  have hvalue : '\x00' ∉ (path.getD standardPath).toList := by
    cases path with
    | none => decide
    | some value => exact (hasNull_eq_false_iff value).mp (hpath value rfl)
  unfold namesTried at h
  split at h
  · rwa [List.mem_singleton.mp h]
  · obtain ⟨dir, hdir, rfl⟩ := List.mem_map.mp h
    obtain ⟨piece, hpiece, rfl⟩ := List.mem_map.mp hdir
    refine hasNull_inDirectory ((hasNull_eq_false_iff _).mpr fun hnull => hvalue ?_) hname
    rw [String.toList_ofList] at hnull
    exact mem_of_mem_splitOn hpiece hnull

lemma hasNull_of_callFault (h : callFault? call = none) :
    (∀ word ∈ call.command, hasNull word = false) ∧
      ∀ name value, call.env.get? name = some value → hasNull value = false := by
  unfold callFault? at h
  dsimp only at h
  split at h
  · simp at h
  split at h
  · simp at h
  rename_i hnone
  have hclean : (∀ word ∈ call.command, hasNull word = false) ∧
      hasNull call.directory.toText = false ∧
      ∀ n v, (n, v) ∈ call.env → hasNull n = false ∧ hasNull v = false := by
    simpa using hnone
  refine ⟨hclean.1, fun name value hvalue => ?_⟩
  obtain ⟨before, after, hbindings, -⟩ := List.lookup_eq_some_iff.mp hvalue
  exact (hclean.2.2 name value (by simp [hbindings])).2

/-- A process for the call of a plan is started only if the program stands where the process looks for
it. -/
lemma hasProgram_of_start {around : Surroundings} {runId : String}
    {timeout : Option Data.Number} {l : Location} {start : Start}
    (hplanned : Planned setting.config around request plan)
    (hcall : call = ⟨plan.command, plan.workingDir, plan.env.set runIdVariable runId, timeout⟩)
    (hfine : callFault? call = none)
    (h : Child.startOf fs (setting.location fs) call = .ok (l, start)) :
    HasProgram fs (spawnPlaces setting plan fs) := by
  have hjava : call.command = setting.config.executor.java :: call.command.tail := by
    rw [hcall, hplanned.command]
    rfl
  have hpath : call.env.get? "PATH" = plan.env.get? "PATH" := by
    rw [hcall, Environment.get?_set, if_neg (by decide)]
  have hdirectory : call.directory = plan.workingDir := by rw [hcall]
  obtain ⟨hwords, hvalues⟩ := hasNull_of_callFault hfine
  obtain ⟨hstands, raw, hraw, place, content, hfile⟩ := file_of_start h
  have htried : raw.toText ∈ namesTried (call.env.get? "PATH") setting.config.executor.java := by
    rw [hjava, List.headD_cons] at hraw
    rw [← candidates_rawEnvironment]
    exact List.mem_map_of_mem hraw
  have hclean : hasNull raw.toText = false :=
    hasNull_of_mem_namesTried (hwords _ (by rw [hjava]; exact List.mem_cons_self))
      (hvalues "PATH") htried
  rw [spawnPlaces_eq, ← hdirectory, hstands, hasProgram_placesFrom, ← hpath]
  refine ⟨raw.toText, htried, ?_⟩
  rw [isExecutable, hclean, hfile]
  rfl

/-! ### The check and the process -/

lemma checkSpawnable_which (hclasspath : setting.config.executor.classpath ≠ []) (plan : Plan) :
    (checkSpawnable setting fs plan =
        .error (.of (.executableNotFound setting.config.executor.java)) ↔
      fs.which (setting.location fs) (setting.env.get? "PATH") setting.config.executor.java = none) := by
  unfold checkSpawnable
  dsimp only
  rw [if_neg (by simpa using hclasspath)]
  cases fs.which (setting.location fs) (setting.env.get? "PATH") setting.config.executor.java with
  | none => simp
  | some found =>
    simp only [reduceCtorEq, iff_false]
    cases plan.directive with
    | none => simp
    | some directive =>
      simp only [Agent.checkDirective]
      split
      · simp
      · intro he
        cases congrArg LaunchError.cause (Except.error.inj he)

/-- How a launch ends that does not find the program of the executor. -/
def ReportsMissing (setting : Setting) (launcher : Launcher) (request : LaunchRequest) (s : Session) :
    Prop :=
  (s.launch setting launcher request).2 =
    .error (.error (.of (.executableNotFound setting.config.executor.java)))

/-- Whatever the launcher ends with, other than an error of its own, is not reported as an executable
that was not found. -/
lemma conclude_ne {ending : LauncherEnd} (hown : ∀ e, ending ≠ .failure (.error e)) (java : String) :
    (s.conclude setting request plan ending).2 ≠
      .error (.error (.of (.executableNotFound java))) := by
  cases ending with
  | exit code =>
    unfold conclude
    dsimp only
    split <;> simp
  | failure f =>
    by_cases hos : ∃ e, f = .fault (.os e)
    · obtain ⟨e, rfl⟩ := hos
      intro he
      cases he
    · rw [conclude_failure (fun e he => hos ⟨e, he⟩)]
      dsimp only
      split
      · simp
      · intro he
        have hreported := Except.error.inj he
        unfold reportedFailure at hreported
        split at hreported
        · cases hreported
        · exact hown _ (congrArg _ hreported)

/-- What is run under supervision ends with an exit code or a fault. -/
lemma play_supervisor (setting : Setting) (child : LauncherCall → Files → Files × Behaviour)
    (call : LauncherCall) (t : Session) :
    ∃ ending, (supervisor child call).play setting t =
        ({ t with files := (child call t.files).1 }, ending) ∧
      ∀ e, ending ≠ .failure (.error e) := by
  cases houtcome : (supervise call (child call t.files).2).2 with
  | ok code =>
    refine ⟨.exit code, ?_, fun e he => by cases he⟩
    simp only [supervisor, LauncherRun.play, houtcome]
  | error f =>
    refine ⟨.failure (.fault f), ?_, fun e he => by cases he⟩
    simp only [supervisor, LauncherRun.play, houtcome]

lemma not_missing_of_handover (hhand : handover? setting request s = some (plan, call, t))
    (child : LauncherCall → Files → Files × Behaviour) :
    ¬ReportsMissing setting (supervisor child) request s := by
  obtain ⟨ending, hplay, hown⟩ := play_supervisor setting child call t
  rw [ReportsMissing, launch_of_handover hhand hplay, finish_result]
  exact conclude_ne hown _

/-- After the preparation, a launch with a class path is refused exactly if its check finds no program
where it looks. -/
lemma reportsMissing_iff (hidle : s.busy = false)
    (hprepared : (s.begin setting).prepare setting request = (t, .ok plan))
    (hclasspath : setting.config.executor.classpath ≠ [])
    (child : LauncherCall → Files → Files × Behaviour) :
    ReportsMissing setting (supervisor child) request s ↔
      ¬HasProgram t.files (checkedPlaces setting t.files) := by
  rw [← which_eq_none_iff, ← checkSpawnable_which hclasspath plan]
  rcases handover_or_stop hidle setting request with ⟨plan', call, u, hhand⟩ |
    ⟨u, f, happroach, hlaunch⟩
  · obtain ⟨-, happroach⟩ := handover_approach hhand
    obtain ⟨t', hprepare, hover⟩ := approach_eq_ok happroach
    obtain ⟨rfl, hplan⟩ := Prod.mk.inj (hprepare.symm.trans hprepared)
    obtain rfl := Except.ok.inj hplan
    -- A launcher was called, so the check found the program, and its own end is reported otherwise.
    refine iff_of_false (not_missing_of_handover hhand child) fun hmissing => ?_
    rw [(handOver_ok hover).1] at hmissing
    cases hmissing
  · rcases approach_eq_error happroach with hprepare | ⟨t', plan', e, hprepare, hover, rfl⟩
    · cases (Prod.mk.inj (hprepare.symm.trans hprepared)).2
    · obtain ⟨rfl, hplan⟩ := Prod.mk.inj (hprepare.symm.trans hprepared)
      obtain rfl := Except.ok.inj hplan
      rw [ReportsMissing, hlaunch, finish_result, (handOver_error hover).1]
      constructor
      · intro he
        rw [Failure.error.inj (Except.error.inj he)]
      · intro he
        rw [Except.error.inj he]

/-- A launch is refused for its executable exactly if no program stands where the launch looks for it:
from its own directory, and with the search path that it inherited. The process that it starts looks
for the program from the working directory and with the search path of the plan, and it is started only
if the program stands there. So the check is right exactly if both lookups find a program or neither
does. They come to the same places if the name starts at the root, and for other names unless the
directories differ, or the configuration has a search path of its own, or the path is empty. -/
theorem executable_check_agrees_iff (setting : Setting) (request : LaunchRequest)
    (child : LauncherCall → Files → Files × Behaviour) (s t : Session) (plan : Plan)
    (hidle : s.busy = false)
    (hprepared : (s.begin setting).prepare setting request = (t, .ok plan))
    (hclasspath : setting.config.executor.classpath ≠ []) :
    (ReportsMissing setting (supervisor child) request s ↔
      ¬HasProgram t.files (checkedPlaces setting t.files)) ∧
    ((ReportsMissing setting (supervisor child) request s ↔
        ¬HasProgram t.files (spawnPlaces setting plan t.files)) ↔
      (HasProgram t.files (checkedPlaces setting t.files) ↔
        HasProgram t.files (spawnPlaces setting plan t.files))) ∧
    (LooksAlike setting plan t.files →
      (ReportsMissing setting (supervisor child) request s ↔
        ¬HasProgram t.files (spawnPlaces setting plan t.files))) ∧
    ∀ call u, handover? setting request s = some (plan, call, u) → callFault? call = none →
      ∀ l start, Child.startOf u.files (setting.location u.files) call = .ok (l, start) →
        HasProgram t.files (spawnPlaces setting plan t.files) := by
  have hmissing := reportsMissing_iff hidle hprepared hclasspath child
  have hplanned := planned_of_build (prepare_ok hprepared).1
  refine ⟨hmissing, by rw [hmissing, Decidable.not_iff_not], fun halike => ?_, fun call u hhand hfine l start
    hstart => ?_⟩
  · rw [hmissing, halike.places hplanned rfl]
  · have hcall := (handover_call hhand).2
    obtain ⟨-, happroach⟩ := handover_approach hhand
    obtain ⟨t', hprepare, hover⟩ := approach_eq_ok happroach
    obtain ⟨rfl, -⟩ := Prod.mk.inj (hprepare.symm.trans hprepared)
    obtain ⟨-, -, v, -, hfiles, -, rfl⟩ := handOver_ok hover
    rw [← hfiles]
    exact hasProgram_of_start hplanned hcall hfine hstart

/-- A configuration in which the search path of the executor leads to its program. -/
def samplePathSetting : Setting :=
  { sampleSetting with
    env := [("PATH", "/opt")]
    config := { sampleConfig with
      executor := { sampleConfig.executor with java := "java", env := [("PATH", "/bin")] } } }

/-- The session and the outcome once a launch with that configuration was prepared. -/
def samplePrepared : Session × Attempt Plan :=
  ((Session.start sampleFiles).begin samplePathSetting).prepare samplePathSetting sampleRequest

theorem sample_check_differs :
    ∃ plan, samplePrepared.2 = .ok plan ∧
      HasProgram samplePrepared.1.files
        (spawnPlaces samplePathSetting plan samplePrepared.1.files) ∧
      ReportsMissing samplePathSetting (supervisor fun _ files => (files, ⟨none, .ok 0, .ok 0⟩))
        sampleRequest (Session.start sampleFiles) := by
  have hok : samplePrepared.2.toOption.isSome = true := by decide +kernel
  obtain ⟨plan, hplan⟩ : ∃ plan, samplePrepared.2 = .ok plan := by
    cases houtcome : samplePrepared.2 with
    | ok plan => exact ⟨plan, rfl⟩
    | error f => simp [houtcome, Except.toOption] at hok
  have hprepared : ((Session.start sampleFiles).begin samplePathSetting).prepare samplePathSetting
      sampleRequest = (samplePrepared.1, .ok plan) := Prod.ext rfl hplan
  have hplanned := planned_of_build (prepare_ok hprepared).1
  have hcheck := executable_check_agrees_iff samplePathSetting sampleRequest
    (fun _ files => (files, ⟨none, .ok 0, .ok 0⟩)) (Session.start sampleFiles) samplePrepared.1 plan
    rfl hprepared (by decide)
  have hmissing : ¬HasProgram samplePrepared.1.files
      (checkedPlaces samplePathSetting samplePrepared.1.files) := by decide +kernel
  have hthere : HasProgram samplePrepared.1.files
      (placesFrom (directoryAt samplePrepared.1.files
        (samplePathSetting.location samplePrepared.1.files) sampleRequest.context.workingDir)
        (namesTried (some "/bin") "java")) := by decide +kernel
  have hpath : plan.env.get? "PATH" = some "/bin" := by
    rw [hplanned.env]
    decide +kernel
  refine ⟨plan, hplan, ?_, hcheck.1.mpr hmissing⟩
  rw [spawnPlaces_eq, hplanned.workingDir, hpath]
  exact hthere

end TestImpact.Proofs
