import TestImpact.Proofs.Config.Dumping
import TestImpact.Proofs.Config.Layers
import TestImpact.Proofs.Config.Variables
import TestImpact.Proofs.Launch.Spawning

/-!
# Settings that are refused

Loading a configuration is to end with the configuration or with an error about it. Some settings
escape: variables that are no JSON, mappings that go on together without end, names that are no
texts, destinations in the home directory of nobody, and refused values with more digits than are
written. Once the files are read, nothing else does, whatever the library of the checks takes.
-/

namespace TestImpact.Proofs
open Config Data

variable {α β : Type} {x : Attempt α} {next : α → Attempt β} {checked : Checked α}
  {stop : Option Fault} {f : Fault} {value : Data} {entries : List (Data × Data)}
  {check : Data → Checked α} {limit : Number.DigitLimit} {lib : Library} {accounts : Accounts}
  {reader : Reader} {home : Option String} {files : Files} {cwd : Location} {env : Environment}
  {sources : Sources} {p : Path}

/-! ### Reported outcomes -/

/-- A value, or an error about the configuration. -/
def Reported (outcome : Attempt α) : Prop :=
  (∃ a, outcome = .ok a) ∨ ∃ e, outcome = .error (.error e) ∧ e.isConfiguration = true

/-- A reported outcome or a fault. -/
def Orderly (outcome : Attempt α) : Prop :=
  Reported outcome ∨ ∃ f, outcome = .error (.fault f)

lemma Orderly.ok (a : α) : Orderly (.ok a : Attempt α) := .inl (.inl ⟨a, rfl⟩)

lemma Orderly.error {e : LaunchError} (h : e.isConfiguration = true) :
    Orderly (.error (.error e) : Attempt α) := .inl (.inr ⟨e, rfl, h⟩)

lemma Orderly.fault (f : Fault) : Orderly (.error (.fault f) : Attempt α) := .inr ⟨f, rfl⟩

lemma Orderly.ofFault (x : Except Fault α) : Orderly (Failure.ofFault x) := by
  cases x with
  | ok a => exact .ok a
  | error f => exact .fault f

lemma Orderly.bind (h : Orderly x) (hnext : ∀ a, Orderly (next a)) : Orderly (x >>= next) := by
  rcases h with (⟨a, rfl⟩ | ⟨e, rfl, he⟩) | ⟨f, rfl⟩
  · exact hnext a
  · exact .error he
  · exact .fault f

lemma Orderly.reported_iff (h : Orderly x) : Reported x ↔ ∀ f, x ≠ .error (.fault f) := by
  constructor
  · rintro (⟨a, rfl⟩ | ⟨e, rfl, -⟩) f hf
    · cases hf
    · cases hf
  · intro hnone
    exact h.resolve_right fun ⟨f, hf⟩ => hnone f hf

lemma bind_fault_iff : x >>= next = .error (.fault f) ↔
    x = .error (.fault f) ∨ ∃ a, x = .ok a ∧ next a = .error (.fault f) := by
  cases x <;> simp [bind, Except.bind]

lemma ofFault_fault_iff {x : Except Fault α} :
    Failure.ofFault x = .error (.fault f) ↔ x = .error f := by
  cases x <;> simp [Failure.ofFault, Except.mapError]

lemma ofFault_ok_iff {x : Except Fault α} {a : α} : Failure.ofFault x = .ok a ↔ x = .ok a := by
  cases x <;> simp [Failure.ofFault, Except.mapError]

/-- A check that is refused by a value with more digits than are written. -/
def Unwritten (limit : Number.DigitLimit) (checked : Checked α) : Prop :=
  ∃ issue more, checked = .refused (issue :: more) ∧ issue.value.isWritten limit = false

lemma firstIssue_of_written {issue : Issue} (h : issue.value.isWritten limit = true)
    (more : List Issue) : ∃ e, e.isConfiguration = true ∧
      firstIssue limit (.refused (issue :: more) : Checked α) = .error (.error e) := by
  rw [firstIssue, Failure.invalidValue, if_pos h]
  exact ⟨_, rfl, rfl⟩

lemma firstIssue_of_unwritten {issue : Issue} (h : issue.value.isWritten limit = false)
    (more : List Issue) : firstIssue limit (.refused (issue :: more) : Checked α) =
      .error (.fault (.badValue limit.writingComplaint)) := by
  rw [firstIssue, Failure.invalidValue, h]
  rfl

lemma firstIssue_orderly (limit : Number.DigitLimit) (h : EndsAs checked stop) :
    Orderly (firstIssue limit checked) := by
  cases checked with
  | ok a => exact .ok a
  | fault f => exact .fault f
  | refused issues =>
    cases issues with
    | nil => exact absurd rfl h.1
    | cons issue issues =>
      cases hwritten : issue.value.isWritten limit with
      | true =>
        obtain ⟨e, he, herror⟩ := firstIssue_of_written (α := α) hwritten issues
        rw [herror]
        exact .error he
      | false =>
        rw [firstIssue_of_unwritten hwritten]
        exact .fault _

lemma firstIssue_fault_iff : firstIssue limit checked = .error (.fault f) ↔
    checked = .fault f ∨ Unwritten limit checked ∧ f = .badValue limit.writingComplaint := by
  cases checked with
  | ok a => simp [firstIssue, Unwritten]
  | fault g => simp [firstIssue, Unwritten]
  | refused issues =>
    cases issues with
    | nil => simp [firstIssue, Unwritten]
    | cons issue issues =>
      cases hwritten : issue.value.isWritten limit with
      | true =>
        obtain ⟨e, -, herror⟩ := firstIssue_of_written (α := α) hwritten issues
        simp [herror, Unwritten, hwritten]
      | false =>
        rw [firstIssue_of_unwritten hwritten]
        constructor
        · intro h
          obtain rfl := Failure.fault.inj (Except.error.inj h)
          exact .inr ⟨⟨issue, issues, rfl, hwritten⟩, rfl⟩
        · rintro (h | ⟨-, rfl⟩)
          · cases h
          · rfl

/-! ### Files -/

lemma readLayer_orderly (limit : Number.DigitLimit) (files : Files) (cwd : Location) (p : Path) :
    Orderly (readLayer limit files cwd p) := by
  refine (Orderly.ofFault (files.exists? cwd p)).bind fun there => ?_
  cases there with
  | false => exact .ok []
  | true =>
    refine (Orderly.ofFault (files.read cwd p)).bind fun bytes => ?_
    refine (Orderly.ofFault (fileText bytes)).bind fun text => ?_
    split
    · exact .error rfl
    · exact .fault _
    · split
      · exact .ok []
      · split
        · exact .ok _
        · exact .error rfl

lemma upperFile_orderly (files : Files) (cwd : Location) (sources : Sources) :
    Orderly (upperFile files cwd sources) := by
  unfold upperFile
  cases sources.namedFile with
  | none => exact .ok _
  | some p =>
    refine (Orderly.ofFault (files.exists? cwd p)).bind fun there => ?_
    cases there with
    | false => exact .error rfl
    | true => exact .ok p

lemma fileLayer_orderly (limit : Number.DigitLimit) (files : Files) (cwd : Location)
    (sources : Sources) : Orderly (fileLayer limit files cwd sources) :=
  (upperFile_orderly files cwd sources).bind fun _ =>
    (readLayer_orderly limit files cwd _).bind fun _ =>
      (readLayer_orderly limit files cwd _).bind fun _ => .ofFault _

/-- Of files that were read, only mappings that go on together without end are in the way. -/
lemma fileLayer_fails {file : Path} {user repository : List (Data × Data)}
    (hfile : upperFile files cwd sources = .ok file)
    (huser : readLayer limit files cwd sources.userFile = .ok user)
    (hrepository : readLayer limit files cwd file = .ok repository) :
    fileLayer limit files cwd sources = .error (.fault f) ↔
      f = .tooDeep ∧ mergeEntries user repository = .error .tooDeep := by
  rw [fileLayer, hfile, ok_bind, huser, ok_bind, hrepository, ok_bind, ofFault_fault_iff]
  constructor
  · intro h
    obtain rfl := mergeEntries_fails h
    exact ⟨rfl, h⟩
  · rintro ⟨rfl, h⟩
    exact h

/-! ### Destinations -/

/-- A destination in the home directory of nobody. -/
def Homeless (lib : Library) (accounts : Accounts) (destination : Data) : Prop :=
  ∃ s, lib.text destination = .ok s ∧ expandHome accounts (Path.ofText s) = .error .noHome

def stopOf? : Checked α → Option Fault
  | .fault f => some f
  | _ => none

lemma userDirectory_fails {user : String} (h : userDirectory accounts user = .error f) :
    f = .nullByte ∨ f = .noHome := by
  unfold userDirectory at h
  split at h
  · exact .inl (Except.error.inj h).symm
  · split at h
    · cases h
    · exact .inr (Except.error.inj h).symm

lemma expandHome_fails (h : expandHome accounts p = .error f) : f = .nullByte ∨ f = .noHome := by
  unfold expandHome at h
  split at h
  · split at h
    · rename_i user _
      cases hdir : userDirectory accounts (String.ofList user) with
      | error g =>
        rw [hdir] at h
        obtain rfl := Except.error.inj h
        exact userDirectory_fails hdir
      | ok dir =>
        rw [hdir, ok_bind] at h
        dsimp only at h
        split at h
        · exact .inr (Except.error.inj h).symm
        · cases h
    · cases h
  · cases h

lemma expandHome_stream (accounts : Accounts) :
    ∀ s ∈ streams, expandHome accounts (Path.ofText s) = .ok (Path.ofText s) := by
  intro s hs
  simp only [streams, List.mem_cons, List.not_mem_nil, or_false] at hs
  rcases hs with rfl | rfl
  · rfl
  · rfl

lemma checkDestination_ends (hlib : lib.Laws) (accounts : Accounts) (value : Data) :
    EndsAs (checkDestination lib accounts value)
      (stopOf? (checkDestination lib accounts value)) := by
  have htext : EndsAs (lib.text value) none := .ofReports hlib.text_reports value
  unfold checkDestination
  cases hcase : lib.text value with
  | ok s =>
    dsimp only [Checked.andThen]
    split
    · exact .ok s
    · split
      · exact .refuse _ value
      · rfl
      · split
        · exact .ok _
        · exact .refuse _ value
  | refused issues =>
    rw [hcase] at htext
    exact htext
  | fault f => rfl

lemma stopOf?_checkDestination (hlib : lib.Laws) :
    stopOf? (checkDestination lib accounts value) = some f ↔
      f = .noHome ∧ Homeless lib accounts value := by
  have htext : EndsAs (lib.text value) none := .ofReports hlib.text_reports value
  unfold checkDestination Homeless
  cases hcase : lib.text value with
  | refused issues => simp [stopOf?, Checked.andThen]
  | fault g => exact absurd (htext.fault_iff g |>.mp hcase) (by simp)
  | ok s =>
    simp only [Checked.andThen, Checked.ok.injEq, exists_eq_left']
    by_cases hstream : streams.contains s = true
    · rw [if_pos hstream, expandHome_stream accounts s (List.contains_iff_mem.mp hstream)]
      simp [stopOf?]
    · rw [if_neg hstream]
      cases hexpand : expandHome accounts (Path.ofText s) with
      | ok p =>
        dsimp only
        split <;> simp [stopOf?, Checked.refuse]
      | error g =>
        rcases expandHome_fails hexpand with rfl | rfl
        · simp [stopOf?, Checked.refuse]
        · simp [stopOf?, eq_comm]

/-! ### Settings -/

/-- The destinations in a list of outputs. -/
def destinationsOf (lib : Library) (outputs : List Data) : List Data :=
  outputs.filterMap fun output => field? "destination" (entriesIn lib "LogOutputConfig" output)

/-- The fault of the first destination that has one. -/
def stopIn (lib : Library) (accounts : Accounts) (destinations : List Data) : Option Fault :=
  destinations.findSome? fun destination => stopOf? (checkDestination lib accounts destination)

lemma checkOutput_ends (hlib : lib.Laws) (accounts : Accounts) (value : Data) :
    EndsAs (checkOutput lib accounts value)
      ((field? "destination" (entriesIn lib "LogOutputConfig" value)).bind fun d =>
        stopOf? (checkDestination lib accounts d)) := by
  refine .checkSection hlib (fun entries => (field? "destination" entries).bind fun d =>
    stopOf? (checkDestination lib accounts d)) rfl (fun entries => ?_) _ value
  refine .before (.after (.map ?format _) ?destination) ?level
  case format => exact field_ends (checkChoice_ends hlib _ _)
  case destination => exact .field (checkDestination_ends hlib accounts)
  case level => exact field_ends (checkOptional_ends (checkChoice_ends hlib _ _))

lemma outputs_ends (hlib : lib.Laws) (accounts : Accounts) (value : Data) :
    EndsAs (checkList lib (checkOutput lib accounts) value)
      (stopIn lib accounts (destinationsOf lib (itemsIn lib value))) := by
  have hfirst : ∀ outputs : List Data, stopIn lib accounts (destinationsOf lib outputs) =
      outputs.findSome? fun output =>
        (field? "destination" (entriesIn lib "LogOutputConfig" output)).bind fun d =>
          stopOf? (checkDestination lib accounts d) := by
    intro outputs
    induction outputs with
    | nil => rfl
    | cons output outputs ih =>
      rw [List.findSome?_cons, ← ih, stopIn, destinationsOf, List.filterMap_cons]
      cases field? "destination" (entriesIn lib "LogOutputConfig" output) with
      | none => rfl
      | some d => exact List.findSome?_cons
  rw [hfirst]
  exact .checkList hlib (checkOutput_ends hlib accounts) value

lemma field_stops {name : String} {default : α} {read : Data → List Data}
    (h : ∀ value, EndsAs (check value) (stopIn lib accounts (read value))) :
    EndsAs (Checked.field entries name default check)
      (stopIn lib accounts ((field? name entries).elim [] read)) := by
  unfold Checked.field
  cases field? name entries with
  | none => exact .ok default
  | some value => exact (h value).within name

def loggingDestinations (lib : Library) (entries : List (Data × Data)) : List Data :=
  (field? "outputs" entries).elim [] fun outputs => destinationsOf lib (itemsIn lib outputs)

/-- The destinations that settings give to outputs. -/
def destinationsIn (lib : Library) (entries : List (Data × Data)) : List Data :=
  (field? "logging" entries).elim [] fun logging =>
    loggingDestinations lib (entriesIn lib "LoggingConfig" logging)

lemma checkLogging_ends (hlib : lib.Laws) (accounts : Accounts) (value : Data) :
    EndsAs (checkLogging lib accounts value)
      (stopIn lib accounts (loggingDestinations lib (entriesIn lib "LoggingConfig" value))) := by
  refine .checkSection hlib (fun entries => stopIn lib accounts (loggingDestinations lib entries))
    rfl (fun entries => ?_) _ value
  refine .after (.map ?level _) ?outputs
  case level => exact field_ends (checkChoice_ends hlib _ _)
  case outputs => exact field_stops (outputs_ends hlib accounts)

lemma checkSections_ends (hlib : lib.Laws) (accounts : Accounts) (entries : List (Data × Data)) :
    EndsAs (checkSections lib accounts entries)
      (stopIn lib accounts (destinationsIn lib entries)) := by
  refine .before (.before (.before (.before (.map ?logging _) ?server) ?agent) ?executor) ?report
  case logging => exact field_stops (checkLogging_ends hlib accounts)
  case server => exact field_ends (checkServer_ends hlib)
  case agent => exact field_ends (checkAgent_ends hlib)
  case executor => exact field_ends (checkExecutor_ends hlib)
  case report => exact field_ends (checkReport_ends hlib)

lemma checkStrict_ends (hlib : lib.Laws) (accounts : Accounts) (entries : List (Data × Data)) :
    EndsAs (checkStrict lib accounts entries)
      (stopIn lib accounts (destinationsIn lib entries)) := by
  unfold checkStrict
  refine .before ((checkSections_ends hlib accounts entries).map _) ?_
  cases hunknown : unknownNames entries with
  | nil => exact .ok ()
  | cons issue issues => exact ⟨List.cons_ne_nil issue issues, rfl⟩

lemma stopIn_eq_some (hlib : lib.Laws) {destinations : List Data} :
    stopIn lib accounts destinations = some f ↔
      f = .noHome ∧ ∃ destination ∈ destinations, Homeless lib accounts destination := by
  constructor
  · intro h
    obtain ⟨destination, hmem, hstop⟩ := List.exists_of_findSome?_eq_some h
    obtain ⟨rfl, hhomeless⟩ := (stopOf?_checkDestination hlib).mp hstop
    exact ⟨rfl, destination, hmem, hhomeless⟩
  · rintro ⟨rfl, destination, hmem, hhomeless⟩
    have hstop := (stopOf?_checkDestination hlib).mpr ⟨rfl, hhomeless⟩
    -- Another destination may be the first, but its fault is the same.
    cases hfirst : stopIn lib accounts destinations with
    | none =>
      have hnone := List.findSome?_eq_none_iff.mp hfirst destination hmem
      cases hnone.symm.trans hstop
    | some g =>
      obtain ⟨other, -, hother⟩ := List.exists_of_findSome?_eq_some hfirst
      rw [((stopOf?_checkDestination hlib).mp hother).1]

lemma judge_orderly (hlib : reader.library.Laws) (home : Option String)
    (entries : List (Data × Data)) : Orderly (judge reader home entries) := by
  rw [judge_eq reader hlib]
  split
  · exact firstIssue_orderly _ (checkStrict_ends hlib _ entries)
  · exact .fault .nameNotText

/-- The check of settings that a reader makes for a program with a home directory. -/
def strictCheck (reader : Reader) (home : Option String) (entries : List (Data × Data)) :
    Checked Config :=
  checkStrict reader.library (reader.accounts.withHome home) entries

lemma judge_fault_iff (hlib : reader.library.Laws) :
    judge reader home entries = .error (.fault f) ↔
      (f = .nameNotText ∧ ∃ entry ∈ entries, isText entry.1 = false) ∨
      (∀ entry ∈ entries, isText entry.1 = true) ∧
        ((f = .noHome ∧ ∃ destination ∈ destinationsIn reader.library entries,
            Homeless reader.library (reader.accounts.withHome home) destination) ∨
          (Unwritten reader.digitLimit (strictCheck reader home entries) ∧
            f = .badValue reader.digitLimit.writingComplaint)) := by
  rw [judge_eq reader hlib]
  by_cases hnames : (entries.all fun entry => isText entry.1) = true
  · have hall := List.all_eq_true.mp hnames
    rw [if_pos hnames, firstIssue_fault_iff, (checkStrict_ends hlib _ entries).fault_iff,
      stopIn_eq_some hlib]
    refine ⟨fun h => .inr ⟨hall, h⟩, ?_⟩
    rintro (⟨-, entry, hentry, hname⟩ | ⟨-, h⟩)
    · rw [hall entry hentry] at hname
      cases hname
    · exact h
  · have hany : ∃ entry ∈ entries, isText entry.1 = false := by
      simpa using hnames
    rw [if_neg hnames]
    constructor
    · intro h
      cases h
      exact .inl ⟨rfl, hany⟩
    · rintro (⟨rfl, -⟩ | ⟨hall, -⟩)
      · rfl
      · exact absurd (List.all_eq_true.mpr hall) hnames

/-! ### Loading -/

/-- What layers make together. -/
def Together (reader : Reader) (files : Files) (cwd : Location) (env : Environment)
    (sources : Sources) (handed : List (Data × Data)) : Prop :=
  ∃ below environment, fileLayer reader.digitLimit files cwd sources = .ok below ∧
    environmentLayer reader.digitLimit env = .ok environment ∧
    layered (overrideLayer sources.overrides) environment below = .ok handed

/-- The ways in which loading ends without a configuration and without an error about it. -/
inductive Escapes (reader : Reader) (files : Files) (cwd : Location) (env : Environment)
    (sources : Sources) : Fault → Prop where
  /-- A file cannot be read, or the mappings of both files go on together without end. -/
  | file {f : Fault}
    (h : fileLayer reader.digitLimit files cwd sources = .error (.fault f)) :
    Escapes reader files cwd env sources f
  | variable_ {below : List (Data × Data)} {name : String}
    (hfiles : fileLayer reader.digitLimit files cwd sources = .ok below)
    (h : FirstUnreadable reader.digitLimit (lowerNames env) name) :
    Escapes reader files cwd env sources (.badSetting name)
  | endless {below environment : List (Data × Data)}
    (hfiles : fileLayer reader.digitLimit files cwd sources = .ok below)
    (henvironment : environmentLayer reader.digitLimit env = .ok environment)
    (h : layered (overrideLayer sources.overrides) environment below = .error .tooDeep) :
    Escapes reader files cwd env sources .tooDeep
  | name {handed : List (Data × Data)}
    (htogether : Together reader files cwd env sources handed)
    (h : ∃ entry ∈ handed, isText entry.1 = false) :
    Escapes reader files cwd env sources .nameNotText
  | destination {handed : List (Data × Data)}
    (htogether : Together reader files cwd env sources handed)
    (hnames : ∀ entry ∈ handed, isText entry.1 = true)
    (h : ∃ destination ∈ destinationsIn reader.library handed,
      Homeless reader.library (reader.accounts.withHome (env.get? "HOME")) destination) :
    Escapes reader files cwd env sources .noHome
  /-- A refused value has more digits than are written, so that there is no text for the error. -/
  | value {handed : List (Data × Data)}
    (htogether : Together reader files cwd env sources handed)
    (hnames : ∀ entry ∈ handed, isText entry.1 = true)
    (h : Unwritten reader.digitLimit (strictCheck reader (env.get? "HOME") handed)) :
    Escapes reader files cwd env sources (.badValue reader.digitLimit.writingComplaint)

lemma load_orderly (hlib : reader.library.Laws) (files : Files) (cwd : Location)
    (env : Environment) (sources : Sources) : Orderly (load reader files cwd env sources) :=
  (fileLayer_orderly _ files cwd sources).bind fun _ => (Orderly.ofFault _).bind fun _ =>
    (Orderly.ofFault _).bind fun _ => judge_orderly hlib _ _

lemma Together.load_eq {handed : List (Data × Data)}
    (h : Together reader files cwd env sources handed) :
    load reader files cwd env sources = judge reader (env.get? "HOME") handed := by
  obtain ⟨below, environment, hfiles, henvironment, hhanded⟩ := h
  rw [load, hfiles, ok_bind, ofFault_ok_iff.mpr henvironment, ok_bind, ofFault_ok_iff.mpr hhanded,
    ok_bind]

lemma load_fault_iff (hlib : reader.library.Laws) :
    load reader files cwd env sources = .error (.fault f) ↔
      Escapes reader files cwd env sources f := by
  constructor
  · intro hload
    unfold load at hload
    simp only [bind_fault_iff, ofFault_fault_iff, ofFault_ok_iff] at hload
    rcases hload with hfile | ⟨below, hfiles, henv | ⟨environment, henvironment, hlayered |
      ⟨handed, hhanded, hjudge⟩⟩⟩
    · exact .file hfile
    · obtain ⟨name, hfirst, rfl⟩ := environmentLayer_fails.mp henv
      exact .variable_ hfiles hfirst
    · obtain rfl := layered_fails hlayered
      exact .endless hfiles henvironment hlayered
    · have htogether : Together reader files cwd env sources handed :=
        ⟨below, environment, hfiles, henvironment, hhanded⟩
      rcases (judge_fault_iff hlib).mp hjudge with ⟨rfl, hname⟩ |
        ⟨hnames, ⟨rfl, hhomeless⟩ | ⟨hunwritten, rfl⟩⟩
      · exact .name htogether hname
      · exact .destination htogether hnames hhomeless
      · exact .value htogether hnames hunwritten
  · intro h
    cases h with
    | file h => exact bind_fault_iff.mpr (.inl h)
    | variable_ hfiles h =>
      have hfails := ofFault_fault_iff.mpr (environmentLayer_fails.mpr ⟨_, h, rfl⟩)
      rw [load, hfiles, ok_bind]
      exact bind_fault_iff.mpr (.inl hfails)
    | endless hfiles henvironment h =>
      rw [load, hfiles, ok_bind, ofFault_ok_iff.mpr henvironment, ok_bind]
      exact bind_fault_iff.mpr (.inl (ofFault_fault_iff.mpr h))
    | name htogether h =>
      rw [htogether.load_eq]
      exact (judge_fault_iff hlib).mpr (.inl ⟨rfl, h⟩)
    | destination htogether hnames h =>
      rw [htogether.load_eq]
      exact (judge_fault_iff hlib).mpr (.inr ⟨hnames, .inl ⟨rfl, h⟩⟩)
    | value htogether hnames h =>
      rw [htogether.load_eq]
      exact (judge_fault_iff hlib).mpr (.inr ⟨hnames, .inr ⟨h, rfl⟩⟩)

/-- Loading ends with a configuration or with an error about it exactly if nothing escapes, and what
escapes is one of six kinds. Of files that were read, only mappings that go on together without end
do. -/
theorem load_reports_iff (reader : Reader) (hlib : reader.library.Laws) (files : Files)
    (cwd : Location) (env : Environment) (sources : Sources) :
    (Reported (load reader files cwd env sources) ↔
      ∀ f, ¬Escapes reader files cwd env sources f) ∧
    (∀ f, load reader files cwd env sources = .error (.fault f) ↔
      Escapes reader files cwd env sources f) ∧
    ∀ file user repository, upperFile files cwd sources = .ok file →
      readLayer reader.digitLimit files cwd sources.userFile = .ok user →
      readLayer reader.digitLimit files cwd file = .ok repository →
      ∀ f, fileLayer reader.digitLimit files cwd sources = .error (.fault f) ↔
        f = .tooDeep ∧ mergeEntries user repository = .error .tooDeep := by
  refine ⟨?_, fun f => load_fault_iff hlib, fun file user repository hfile huser hrepository f =>
    fileLayer_fails hfile huser hrepository⟩
  rw [(load_orderly hlib files cwd env sources).reported_iff]
  exact forall_congr' fun f => not_congr (load_fault_iff hlib)

lemma faultOf?_eq_some : faultOf? x = some f ↔ x = .error (.fault f) := by
  cases x with
  | ok a => simp [faultOf?]
  | error failure => cases failure <;> simp [faultOf?]

/-- An output in the home directory of nobody. -/
def sampleHomeless : Sources :=
  { sampleSources with
    overrides := [(.text "logging", .map [(.text "outputs", .list
      [.map [(.text "destination", .text "~nobody-here/run.log")]])])] }

/-- A level that is no word, and has more digits than are written. -/
def sampleLongLevel : Sources :=
  { sampleSources with
    overrides := [(.text "logging", .map [(.text "level", .int (Nat.pow 10 4300))])] }

/-- A destination, a variable and a long integer that escape, and a port that is reported. -/
theorem sample_settings_escape :
    (Escapes sampleReader sampleTree ["w"] [] sampleHomeless .noHome ∧
      ¬Reported (load sampleReader sampleTree ["w"] [] sampleHomeless)) ∧
    (Escapes sampleReader sampleTree ["w"] [("TIALAUNCH__SERVER", "notjson")] sampleSources
        (.badSetting "server") ∧
      ¬Reported (load sampleReader sampleTree ["w"] [("TIALAUNCH__SERVER", "notjson")]
        sampleSources)) ∧
    (Escapes sampleReader sampleTree ["w"] [] sampleLongLevel
        (.badValue (Number.DigitLimit.writingComplaint (some 4300))) ∧
      ¬Reported (load sampleReader sampleTree ["w"] [] sampleLongLevel)) ∧
    Reported (load sampleReader sampleTree ["w"] [("TIALAUNCH__AGENT__PORT", "x")]
      sampleSources) ∧
    ∀ f, fileLayer .standard sampleTree ["w"] sampleSources ≠ .error (.fault f) := by
  have hescape : ∀ env sources f,
      faultOf? (load sampleReader sampleTree ["w"] env sources) = some f →
      Escapes sampleReader sampleTree ["w"] env sources f ∧
        ¬Reported (load sampleReader sampleTree ["w"] env sources) := by
    intro env sources f hfault
    obtain ⟨hreported, hescapes, -⟩ :=
      load_reports_iff sampleReader lax_laws sampleTree ["w"] env sources
    have h := (hescapes f).mp (faultOf?_eq_some.mp hfault)
    exact ⟨h, fun hnone => hreported.mp hnone f h⟩
  refine ⟨hescape _ _ _ (by decide +kernel), hescape _ _ _ (by decide +kernel),
    hescape _ _ _ (by decide +kernel), ?_, fun f hf => ?_⟩
  · obtain ⟨hreported, hescapes, -⟩ := load_reports_iff sampleReader lax_laws sampleTree ["w"]
      [("TIALAUNCH__AGENT__PORT", "x")] sampleSources
    have hnone : faultOf? (load sampleReader sampleTree ["w"]
        [("TIALAUNCH__AGENT__PORT", "x")] sampleSources) = none := by decide +kernel
    refine hreported.mpr fun f h => ?_
    rw [faultOf?_eq_some.mpr ((hescapes f).mpr h)] at hnone
    cases hnone
  · obtain ⟨-, -, hread⟩ :=
      load_reports_iff sampleReader lax_laws sampleTree ["w"] [] sampleSources
    have hmerge := ((hread (Path.ofText "/w/named") (sampleLayer "url" "u") (sampleLayer "url" "r")
      (eq_ok_of_toOption (by decide +kernel)) (read_of_oneField? (by decide +kernel))
      (read_of_oneField? (by decide +kernel)) f).mp hf).2
    obtain ⟨merged, hmerged, -⟩ : ∃ merged, mergeEntries (sampleLayer "url" "u")
        (sampleLayer "url" "r") = .ok merged ∧ anyEndlessEntry merged = false :=
      mergeEntriesBy_of_finite rfl rfl
    cases hmerged.symm.trans hmerge

end TestImpact.Proofs
