import Mathlib.Tactic.Lemma
import TestImpact.Proofs.Directive.Building
import TestImpact.Proofs.Launch.Coverage
import TestImpact.Proofs.PathLists

/-!
# Agreement on places

The executor is started in the working directory of its run, which need not be the directory that
the launching program stands in. Both mean the same places by the paths of the directive. By the
directories to scan and by the class path, which are passed on as they are written, they may not.
-/

namespace TestImpact.Proofs
open TestImpact.Path Session

variable {limit : Number.DigitLimit} {cwd workingDir artifact dir : Path} {agent : Agent}
  {directive : String} {config : Config} {around : Surroundings} {request : LaunchRequest}
  {plan : Plan} {paths : List Path}

/-! ### Directives -/

/-- A directive whose paths lead from the working directory to where they are meant to. -/
def TellsPlaces (cwd workingDir artifact : Path) (directive : String) : Agent → Prop
  | .running _ => False
  | .attached jar port includes excludes dumpDir =>
    ∃ (j : Path) (n : Int), jar = some j ∧ port = .int n ∧
      directive = written (j.relativeTo cwd workingDir)
        (toldOptions cwd workingDir artifact n includes excludes dumpDir) ∧
      LeadsTo cwd workingDir (j.relativeTo cwd workingDir) j ∧
      LeadsTo cwd workingDir (artifact.relativeTo cwd workingDir) artifact ∧
      ∀ dir ∈ dumpDir, LeadsTo cwd workingDir (dir.relativeTo cwd workingDir) dir

lemma tellsPlaces_of_directive
    (h : agent.directive limit cwd workingDir artifact = .ok (some directive)) :
    TellsPlaces cwd workingDir artifact directive agent := by
  cases agent with
  | running url => simp [Agent.directive] at h
  | attached jar port includes excludes dumpDir =>
    obtain ⟨j, n, rfl, rfl, -, hbuilt⟩ := directive_eq_ok h
    exact ⟨j, n, rfl, rfl, Option.some.inj hbuilt, leadsTo_relativeTo j cwd workingDir,
      leadsTo_relativeTo artifact cwd workingDir, fun dir _ => leadsTo_relativeTo dir cwd workingDir⟩

/-- The directive of a plan tells its places, and it stands in the command. -/
lemma Planned.tellsPlaces (h : Planned config around request plan)
    (hcwd : around.directory = some cwd) (hdirective : plan.directive = some directive) :
    directive ∈ plan.command ∧
      TellsPlaces cwd plan.workingDir plan.artifact directive (agentOf config request) := by
  have hbuilt := h.directive
  rw [hcwd, hdirective] at hbuilt
  refine ⟨?_, ?_⟩
  · rw [h.command, hdirective]
    simp
  · rw [h.workingDir, h.artifact]
    exact tellsPlaces_of_directive hbuilt

/-- The paths of a directive are relative texts that lead, from the working directory, to the places
that the launching program means. So the file that the agent of a launched executor writes is the
artifact that is looked for when the executor has ended. -/
theorem directive_paths_lead :
    (∀ (limit : Number.DigitLimit) (cwd workingDir artifact : Path) (agent : Agent)
        (directive : String),
      agent.directive limit cwd workingDir artifact = .ok (some directive) →
        TellsPlaces cwd workingDir artifact directive agent) ∧
      ∀ (setting : Setting) (launcher : Launcher) (request : LaunchRequest) (s t : Session)
        (plan : Plan) (call : LauncherCall), handover? setting request s = some (plan, call, t) →
        (∀ cwd directive, s.files.pathOf setting.standing = some cwd →
          plan.directive = some directive → directive ∈ call.command ∧
            TellsPlaces cwd call.directory plan.artifact directive
              (agentOf setting.config request)) ∧
          ∀ result, (s.launch setting launcher request).2 = .ok result →
            result.artifact = plan.artifact ∧
              ∃ u, (launcher call).play setting t = (u, .exit result.exitCode) ∧
                u.files.isFile (setting.location u.files) plan.artifact =
                  .ok result.artifactPresent := by
  refine ⟨fun _ _ _ _ _ _ => tellsPlaces_of_directive, ?_⟩
  intro setting launcher request s t plan call hhand
  refine ⟨fun cwd directive hcwd hdirective => ?_, fun result hresult => ?_⟩
  · obtain ⟨hplanned, rfl⟩ := handover_call hhand
    exact hplanned.tellsPlaces hcwd hdirective
  · obtain ⟨plan', call', t', u, hhand', hplay, hartifact, hpresent⟩ := launch_ok hresult
    rw [hhand] at hhand'
    obtain ⟨rfl, hrest⟩ := Prod.mk.inj (Option.some.inj hhand')
    obtain ⟨rfl, rfl⟩ := Prod.mk.inj hrest
    exact ⟨hartifact, u, hplay, hpresent⟩

/-- A run that works elsewhere than the launching program. -/
def sampleElsewhere : LaunchRequest :=
  { sampleRequest with
    context := ⟨"test", "build", "app/./sub", [⟨"main", ["build/classes", "/opt/classes"], none, []⟩]⟩ }

/-- Double dots above the root and repeated slashes do no harm, and a launch finds its artifact. -/
theorem sample_directive_leads :
    (∃ directive, (Agent.attached (some (ofText "/../opt//agent.jar")) (.int 8123) [] []
        (some (ofText "../dump"))).directive .standard (ofText "/w") (ofText "app")
        (ofText "app/../x.exec") = .ok (some directive) ∧
      TellsPlaces (ofText "/w") (ofText "app") (ofText "app/../x.exec") directive
        (.attached (some (ofText "/../opt//agent.jar")) (.int 8123) [] [] (some (ofText "../dump")))) ∧
      ∃ plan call t directive result,
        handover? sampleSetting sampleElsewhere (Session.start sampleFiles) = some (plan, call, t) ∧
        plan.directive = some directive ∧ directive ∈ call.command ∧
        TellsPlaces (ofText "/w") call.directory plan.artifact directive
          (agentOf sampleConfig sampleElsewhere) ∧
        ((Session.start sampleFiles).launch sampleSetting idleLauncher sampleElsewhere).2 =
          .ok result ∧
        result.artifact = plan.artifact := by
  obtain ⟨hbuilder, hlaunches⟩ := directive_paths_lead
  refine ⟨⟨_, rfl, hbuilder .standard _ _ _ _ _ rfl⟩, ?_⟩
  have htold : (handover? sampleSetting sampleElsewhere (Session.start sampleFiles)).any
      (fun (plan, _, _) => plan.directive.isSome) = true := by decide +kernel
  have hreturned : ((Session.start sampleFiles).launch sampleSetting idleLauncher
      sampleElsewhere).2.toOption.isSome = true := by decide +kernel
  have hcwd : (Session.start sampleFiles).files.pathOf sampleSetting.standing = some (ofText "/w") := by
    decide +kernel
  obtain ⟨⟨plan, call, t⟩, hhand, hsome⟩ := (Option.any_eq_true _ _).mp htold
  obtain ⟨directive, hdirective⟩ := Option.isSome_iff_exists.mp hsome
  obtain ⟨hplaces, hresults⟩ := hlaunches sampleSetting idleLauncher _ _ t plan call hhand
  obtain ⟨hmem, htells⟩ := hplaces _ directive hcwd hdirective
  cases hresult : ((Session.start sampleFiles).launch sampleSetting idleLauncher
      sampleElsewhere).2 with
  | error f => simp [hresult, Except.toOption] at hreturned
  | ok result =>
    exact ⟨plan, call, t, directive, result, hhand, hdirective, hmem, htells, rfl,
      (hresults result hresult).1⟩

/-! ### Path lists -/

/-- A path list that holds the texts of paths in their order; those without colons are its entries.
An entry means the place of its path in another directory exactly if the path is absolute, or if both
directories are the same once as many levels of them are left as the path leads up. -/
structure ListsPlaces (cwd dir : Path) (value : String) (paths : List Path) : Prop where
  entries : entriesOf value = paths.flatMap fun p => entriesOf p.toText
  plain : ∀ p ∈ paths, ':' ∉ p.toText.toList → entriesOf p.toText = [p.toText]
  agree : ∀ p ∈ paths, MeansPlace cwd dir p.toText p ↔
    p.isAbsolute = true ∨ (dir.normal cwd).rdrop (rise 0 p.segments) =
      (here.normal cwd).rdrop (rise 0 p.segments)

lemma listsPlaces_joinList (cwd dir : Path) (paths : List Path) :
    ListsPlaces cwd dir (joinList (paths.map toText)) paths where
  entries := by
    have hne : ∀ text ∈ paths.map toText, text ≠ "" := by
      intro text htext
      obtain ⟨p, -, rfl⟩ := List.mem_map.mp htext
      exact toText_ne_empty p
    rw [entriesOf_joinList hne, List.flatMap_map]
  plain p _ hcolon := entriesOf_plain (toText_ne_empty p) hcolon
  agree p _ := meansPlace_toText_iff cwd dir p

/-- The arguments of a plan tell the directories to scan and that of the reports. -/
lemma Planned.instructions (h : Planned config around request plan) :
    ∃ i, instructions? plan.arguments = some i ∧
      i.scanPath = joinList ((ScanPath.collect request.context.units).map toText) ∧
      i.reportsDir = (plan.reportsDir.absolute (around.directory.getD .here)).toText := by
  obtain ⟨i, hread, -, hreports, hscan⟩ := h.told
  exact ⟨i, hread, hscan.trans (join_collect request.context.units), hreports⟩

lemma Planned.classpath (h : Planned config around request plan)
    (hne : config.executor.classpath ≠ []) :
    plan.command = config.executor.java :: config.executor.jvmArgs ++ plan.directive.toList ++
      ["-cp", joinList (config.executor.classpath.map toText)] ++
      config.executor.mainClass :: plan.arguments := by
  have hoptions : Plan.classpathOptions config.executor.classpath =
      ["-cp", joinList (config.executor.classpath.map toText)] := by
    rw [Plan.classpathOptions, if_neg (by simpa using hne)]
  rw [h.command, hoptions]

/-- The directories to scan and the class path of a plan are those that were collected and configured.
In the working directory such an entry means its place only under the condition of `ListsPlaces`,
while the directory of the reports always does. -/
theorem listed_places_agree_iff (cwd : Path) (config : Config) (env : Environment)
    (limit : Number.DigitLimit) (request : LaunchRequest) (plan : Plan)
    (hcwd : cwd.isAbsolute = true)
    (h : Plan.build config ⟨some cwd, env, limit⟩ request = .ok plan) :
    (∃ i, instructions? plan.arguments = some i ∧
      ListsPlaces cwd plan.workingDir i.scanPath (ScanPath.collect request.context.units) ∧
      MeansPlace cwd plan.workingDir i.reportsDir plan.reportsDir) ∧
    (config.executor.classpath ≠ [] → ∃ value,
      plan.command = config.executor.java :: config.executor.jvmArgs ++ plan.directive.toList ++
        ["-cp", value] ++ config.executor.mainClass :: plan.arguments ∧
      ListsPlaces cwd plan.workingDir value config.executor.classpath) := by
  have hplanned := planned_of_build h
  obtain ⟨i, hread, hscan, hreports⟩ := hplanned.instructions
  refine ⟨⟨i, hread, ?_, ?_⟩, fun hne => ⟨_, hplanned.classpath hne, ?_⟩⟩
  · rw [hscan]
    exact listsPlaces_joinList cwd plan.workingDir _
  · rw [hreports]
    exact meansPlace_absolute hcwd plan.workingDir plan.reportsDir
  · exact listsPlaces_joinList cwd plan.workingDir _

/-- An entry of the class path and a directory to scan that mean another place to the executor. -/
theorem sample_entries_differ :
    ∃ plan i value,
      Plan.build sampleConfig sampleSurroundings sampleElsewhere = .ok plan ∧
      instructions? plan.arguments = some i ∧
      entriesOf i.scanPath = ["build/classes", "/opt/classes"] ∧
      ¬MeansPlace (ofText "/w") plan.workingDir "build/classes" (ofText "build/classes") ∧
      MeansPlace (ofText "/w") plan.workingDir "/opt/classes" (ofText "/opt/classes") ∧
      ["-cp", value] <:+: plan.command ∧ entriesOf value = ["lib/executor.jar"] ∧
      ¬MeansPlace (ofText "/w") plan.workingDir "lib/executor.jar" (ofText "lib/executor.jar") := by
  obtain ⟨plan, hbuild⟩ : ∃ plan,
      Plan.build sampleConfig sampleSurroundings sampleElsewhere = .ok plan := ⟨_, rfl⟩
  obtain ⟨⟨i, hread, hscan, -⟩, hclasspath⟩ := listed_places_agree_iff (ofText "/w") sampleConfig []
    .standard sampleElsewhere plan (by decide +kernel) hbuild
  obtain ⟨value, hcommand, hlisted⟩ := hclasspath (by decide)
  have hdir : plan.workingDir = ofText "app/sub" := by
    rw [(planned_of_build hbuild).workingDir]
    decide +kernel
  refine ⟨plan, i, value, hbuild, hread, ?_, ?_, ?_, ?_, ?_, ?_⟩
  · rw [hscan.entries]
    decide +kernel
  · rw [hdir]
    decide +kernel
  · rw [hdir]
    decide +kernel
  · rw [hcommand]
    exact ⟨_, _, rfl⟩
  · rw [hlisted.entries]
    decide +kernel
  · rw [hdir]
    decide +kernel

end TestImpact.Proofs
