import Mathlib.Tactic.Lemma
import TestImpact.Arguments
import TestImpact.Proofs.Results

/-!
# Reading arguments back

A reader goes over an argument vector from left to right. In the place of a flag it takes the switch
`--all` for itself and any other argument together with the next one, so that no value can be taken
for a flag. From the arguments of a selection it recovers all that the executor is told.
-/

namespace TestImpact.Proofs
open Arguments

/-- The switch alone, or a flag with its value. -/
inductive Item where
  | switch
  | option (flag value : String)
  deriving DecidableEq, Repr

/-- Reads arguments from left to right; the last flag has to have a value. -/
def items? : List String → Option (List Item)
  | [] => some []
  | flag :: rest =>
    if flag = "--all" then (items? rest).map (.switch :: ·)
    else
      match rest with
      | [] => none
      | value :: rest => (items? rest).map (.option flag value :: ·)

def Item.valueOf? (flag : String) : Item → Option String
  | switch => none
  | option f value => if f = flag then some value else none

/-- The values of a flag in order. -/
def values (flag : String) (items : List Item) : List String :=
  items.filterMap (Item.valueOf? flag)

/-- The value of a flag that is given once. -/
def value? (flag : String) (items : List Item) : Option String :=
  match values flag items with
  | [value] => some value
  | _ => none

/-- What the executor is told. -/
structure Instructions where
  url : String
  project : String
  user : String
  accessToken : String
  partitionName : String
  baseline : String
  fin : String
  agentUrl : String
  runAll : Bool
  includeTags : List String
  excludeTags : List String
  includeEngines : List String
  excludeEngines : List String
  includeRegexes : List String
  excludeRegexes : List String
  reportsDir : String
  scanPath : String
  deriving DecidableEq, Repr

/-- The reader of argument vectors. -/
def instructions? (args : List String) : Option Instructions := do
  let items ← items? args
  let url ← value? "--url" items
  let project ← value? "--project" items
  let user ← value? "--user" items
  let accessToken ← value? "--access-token" items
  let partitionName ← value? "--partition" items
  let baseline ← value? "--baseline" items
  let fin ← value? "--end" items
  let agentUrl ← value? "--agent-url" items
  let reportsDir ← value? "--reports-dir" items
  let scanPath ← value? "--scan-class-path" items
  some {
    url, project, user, accessToken, partitionName, baseline, fin, agentUrl, reportsDir, scanPath
    runAll := items.contains .switch
    includeTags := values "-t" items
    excludeTags := values "-T" items
    includeEngines := values "-e" items
    excludeEngines := values "-E" items
    includeRegexes := values "-n" items
    excludeRegexes := values "-N" items
  }

/-- What a selection tells the executor. Class patterns are told by the expressions of their normal
forms, and without any every class is included. -/
def instructionsOf (cwd : Path) (s : Selection) : Except LaunchError Instructions := do
  let includes ← s.filter.includeClasses.mapM ClassPattern.normalize
  let excludes ← s.filter.excludeClasses.mapM ClassPattern.normalize
  .ok {
    url := s.identity.url
    project := s.identity.project
    user := s.identity.user
    accessToken := s.identity.accessToken
    partitionName := s.partitionName
    baseline := RevisionPoint.describe s.window.baseline
    fin := RevisionPoint.describe s.window.fin
    agentUrl := s.agentUrl
    runAll := s.runAll
    includeTags := s.filter.includeTags
    excludeTags := s.filter.excludeTags
    includeEngines := s.filter.includeEngines
    excludeEngines := s.filter.excludeEngines
    includeRegexes := if s.filter.includeClasses = [] then [".*"] else includes.map (·.regex)
    excludeRegexes := excludes.map (·.regex)
    reportsDir := (s.reportsDir.absolute cwd).toText
    scanPath := ScanPath.join s.scanPaths
  }

variable {cwd : Path} {s : Selection} {args : List String} {flag : String}

/-! ### Items -/

def Item.write : Item → List String
  | switch => ["--all"]
  | option flag value => [flag, value]

/-- A flag that is not the switch. -/
def Item.IsPlain : Item → Prop
  | switch => True
  | option flag _ => flag ≠ "--all"

lemma items?_switch (rest : List String) :
    items? ("--all" :: rest) = (items? rest).map (.switch :: ·) := by
  cases rest <;> rfl

lemma items?_option (h : flag ≠ "--all") (value : String) (rest : List String) :
    items? (flag :: value :: rest) = (items? rest).map (.option flag value :: ·) := by
  rw [items?, if_neg h]

/-- The reader finds the items that were written, whatever the values are. -/
lemma items?_flatMap_write {items : List Item} (h : ∀ item ∈ items, item.IsPlain) :
    items? (items.flatMap Item.write) = some items := by
  induction items with
  | nil => rfl
  | cons item items ih =>
    obtain ⟨hitem, hitems⟩ := List.forall_mem_cons.mp h
    rw [List.flatMap_cons]
    cases item with
    | switch =>
      change items? ("--all" :: items.flatMap Item.write) = _
      rw [items?_switch, ih hitems]
      rfl
    | option flag value =>
      change items? (flag :: value :: items.flatMap Item.write) = _
      rw [items?_option hitem, ih hitems]
      rfl

lemma flagged_eq (flag : String) (texts : List String) :
    flagged flag texts = (texts.map (.option flag)).flatMap Item.write := by
  rw [List.flatMap_map]
  rfl

@[simp] lemma values_append (flag : String) (items items' : List Item) :
    values flag (items ++ items') = values flag items ++ values flag items' :=
  List.filterMap_append

@[simp] lemma values_nil (flag : String) : values flag [] = [] := rfl

@[simp] lemma values_switch (flag : String) (items : List Item) :
    values flag (.switch :: items) = values flag items := rfl

@[simp] lemma values_option (flag other value : String) (items : List Item) :
    values flag (.option other value :: items) =
      if other = flag then value :: values flag items else values flag items := by
  by_cases h : other = flag
  · simp [values, Item.valueOf?, h]
  · simp [values, Item.valueOf?, h]

@[simp] lemma values_map (flag other : String) (texts : List String) :
    values flag (texts.map (.option other)) = if other = flag then texts else [] := by
  induction texts with
  | nil => simp
  | cons text texts ih =>
    rw [List.map_cons, values_option, ih]
    split <;> rfl

/-! ### Instructions as items -/

/-- The items that tell the executor its instructions. -/
def Instructions.items (i : Instructions) : List Item :=
  [.option "--url" i.url, .option "--project" i.project, .option "--user" i.user,
    .option "--access-token" i.accessToken, .option "--partition" i.partitionName,
    .option "--baseline" i.baseline, .option "--end" i.fin, .option "--agent-url" i.agentUrl] ++
  (if i.runAll then [.switch] else []) ++
  i.includeTags.map (.option "-t") ++ i.excludeTags.map (.option "-T") ++
  i.includeEngines.map (.option "-e") ++ i.excludeEngines.map (.option "-E") ++
  i.includeRegexes.map (.option "-n") ++ i.excludeRegexes.map (.option "-N") ++
  [.option "--reports-dir" i.reportsDir, .option "--scan-class-path" i.scanPath]

lemma Instructions.items_plain (i : Instructions) : ∀ item ∈ i.items, item.IsPlain := by
  intro item hitem
  cases item with
  | switch => trivial
  | option flag value =>
    rintro rfl
    simp [Instructions.items] at hitem

/-- The reader recovers instructions from their items. -/
lemma instructions?_items (i : Instructions) :
    instructions? (i.items.flatMap Item.write) = some i := by
  have hswitch : ∀ flag, values flag (if i.runAll then [.switch] else []) = [] := by
    intro flag
    cases i.runAll <;> rfl
  rw [instructions?, items?_flatMap_write i.items_plain]
  simp [value?, Instructions.items, hswitch]

/-! ### Built arguments -/

lemma eq_of_require {field value text : String} (h : require field value = .ok text) :
    text = value := by
  rw [require] at h
  split at h
  · simp at h
  · exact (Except.ok.inj h).symm

lemma eq_of_requirePoint {field text : String} {point : Option RevisionPoint}
    (h : requirePoint field point = .ok text) : text = RevisionPoint.describe point := by
  cases point with
  | none => simp [requirePoint] at h
  | some p =>
    rw [requirePoint] at h
    split at h
    · simp at h
    · exact (Except.ok.inj h).symm

lemma regexes_eq_ok {patterns texts : List String} (h : regexes patterns = .ok texts) :
    ∃ normal, patterns.mapM ClassPattern.normalize = .ok normal ∧ texts = normal.map (·.regex) := by
  induction patterns generalizing texts with
  | nil =>
    obtain rfl := Except.ok.inj h
    exact ⟨[], rfl, rfl⟩
  | cons pattern patterns ih =>
    rw [regexes] at h
    obtain ⟨first, hfirst, h⟩ := bind_eq_ok.mp h
    obtain ⟨rest, hrest, h⟩ := bind_eq_ok.mp h
    obtain rfl := Except.ok.inj h
    obtain ⟨normal, hnormal, rfl⟩ := ih hrest
    refine ⟨first :: normal, ?_, rfl⟩
    rw [List.mapM_cons, hfirst, hnormal]
    rfl

/-- A selection for which arguments can be built writes the items of its instructions. -/
lemma build_eq_ok (h : build cwd s = .ok args) :
    ∃ i, instructionsOf cwd s = .ok i ∧ args = i.items.flatMap Item.write := by
  rw [build] at h
  obtain ⟨url, hurl, h⟩ := bind_eq_ok.mp h
  obtain ⟨project, hproject, h⟩ := bind_eq_ok.mp h
  obtain ⟨user, huser, h⟩ := bind_eq_ok.mp h
  obtain ⟨accessToken, htoken, h⟩ := bind_eq_ok.mp h
  obtain ⟨partitionName, hpartition, h⟩ := bind_eq_ok.mp h
  obtain ⟨baseline, hbaseline, h⟩ := bind_eq_ok.mp h
  obtain ⟨fin, hfin, h⟩ := bind_eq_ok.mp h
  obtain ⟨agentUrl, hagent, h⟩ := bind_eq_ok.mp h
  obtain ⟨filter, hfilter, h⟩ := bind_eq_ok.mp h
  rw [filterArguments] at hfilter
  obtain ⟨includes, hincludes, hfilter⟩ := bind_eq_ok.mp hfilter
  obtain ⟨excludes, hexcludes, hfilter⟩ := bind_eq_ok.mp hfilter
  obtain ⟨included, hincluded, rfl⟩ := regexes_eq_ok hincludes
  obtain ⟨excluded, hexcluded, rfl⟩ := regexes_eq_ok hexcludes
  obtain rfl := eq_of_require hurl
  obtain rfl := eq_of_require hproject
  obtain rfl := eq_of_require huser
  obtain rfl := eq_of_require htoken
  obtain rfl := eq_of_require hpartition
  obtain rfl := eq_of_requirePoint hbaseline
  obtain rfl := eq_of_requirePoint hfin
  obtain rfl := eq_of_require hagent
  obtain rfl := Except.ok.inj hfilter
  obtain rfl := Except.ok.inj h
  refine ⟨_, bind_eq_ok.mpr ⟨included, hincluded, bind_eq_ok.mpr ⟨excluded, hexcluded, rfl⟩⟩, ?_⟩
  have hswitch : (if s.runAll then [Item.switch] else []).flatMap Item.write =
      if s.runAll then ["--all"] else [] := by
    cases s.runAll <;> rfl
  simp only [Instructions.items, List.flatMap_append, ← flagged_eq, hswitch, List.append_assoc,
    List.isEmpty_iff, ClassPattern.matchAll]
  rfl

lemma instructionsOf_eq_ok {i : Instructions} (h : instructionsOf cwd s = .ok i) :
    i.agentUrl = s.agentUrl ∧ i.reportsDir = (s.reportsDir.absolute cwd).toText ∧
      i.scanPath = ScanPath.join s.scanPaths := by
  obtain ⟨includes, -, h⟩ := bind_eq_ok.mp h
  obtain ⟨excludes, -, h⟩ := bind_eq_ok.mp h
  obtain rfl := Except.ok.inj h
  exact ⟨rfl, rfl, rfl⟩

/-- A selection whose texts look like flags. -/
def sampleSelection : Selection where
  identity := ⟨"-n", "--all", "--reports-dir", "--access-token"⟩
  window := ⟨some (.ofText "--end"), some (.ofText "--baseline")⟩
  filter := ⟨["--all", "-t", "--all"], ["-T"], [], ["--all"], ["--all/**"], ["-N"]⟩
  reportsDir := Path.ofText "--all"
  scanPaths := ["--all"]
  runAll := false
  agentUrl := "--all"
  partitionName := "--all"

/-- The reader recovers from built arguments exactly what the selection tells the executor, whatever
the texts in it are. So selections with the same arguments tell the same. -/
theorem instructions_read_back (cwd : Path) (s : Selection) (args : List String)
    (h : build cwd s = .ok args) :
    (∃ i, instructionsOf cwd s = .ok i ∧ instructions? args = some i) ∧
      ∀ (cwd' : Path) (s' : Selection), build cwd' s' = .ok args →
        instructionsOf cwd' s' = instructionsOf cwd s := by
  obtain ⟨i, hi, rfl⟩ := build_eq_ok h
  refine ⟨⟨i, hi, instructions?_items i⟩, ?_⟩
  intro cwd' s' h'
  obtain ⟨i', hi', hargs⟩ := build_eq_ok h'
  have hread := congrArg instructions? hargs
  rw [instructions?_items, instructions?_items] at hread
  rw [hi, hi', Option.some.inj hread]

/-- Texts that look like flags are read as what they are. -/
theorem sample_instructions_read :
    ∃ args i, build (Path.ofText "/w") sampleSelection = .ok args ∧
      instructionsOf (Path.ofText "/w") sampleSelection = .ok i ∧ instructions? args = some i ∧
      i.includeTags = ["--all", "-t", "--all"] ∧ i.runAll = false := by
  obtain ⟨args, hbuild⟩ : ∃ args, build (Path.ofText "/w") sampleSelection = .ok args := ⟨_, rfl⟩
  obtain ⟨i, hi, hread⟩ := (instructions_read_back _ _ _ hbuild).1
  have htold : (instructionsOf (Path.ofText "/w") sampleSelection).toOption.map
      (fun i => (i.includeTags, i.runAll)) = some (["--all", "-t", "--all"], false) := by
    decide +kernel
  rw [hi] at htold
  obtain ⟨htags, hall⟩ := Prod.mk.inj (Option.some.inj htold)
  exact ⟨args, i, hbuild, hi, hread, htags, hall⟩

end TestImpact.Proofs
