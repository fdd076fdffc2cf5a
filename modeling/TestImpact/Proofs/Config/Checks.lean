import Mathlib.Tactic.Lemma
import TestImpact.Config.Check

/-!
# Checks

A combined check accepts exactly if all its parts accept, and it ends with the first fault of its
parts. Where it refuses, it has an issue to report. This holds for every library that keeps what it
promises.
-/

namespace TestImpact.Proofs
open Config Data

variable {lib : Library} {α β : Type} {x : Checked α} {y : Checked (α → β)} {a default : α} {b : β}
  {check : Data → Checked α} {next : α → Checked β} {name : String} {value : Data}
  {items : List Data} {entries : List (Data × Data)} {stop later : Option Fault}
  {stopAt : Data → Option Fault}

/-! ### Accepted values -/

lemma map_eq_accepted {f : α → β} : f <$> x = .ok b ↔ ∃ a, x = .ok a ∧ f a = b := by
  cases x <;> simp [Functor.map, Checked.map]

lemma seq_eq_accepted : y <*> x = .ok b ↔ ∃ f a, y = .ok f ∧ x = .ok a ∧ f a = b := by
  change (y.both x).map _ = _ ↔ _
  cases y <;> cases x <;> simp [Checked.both, Checked.map]

lemma andThen_eq_accepted : x.andThen next = .ok b ↔ ∃ a, x = .ok a ∧ next a = .ok b := by
  cases x <;> simp [Checked.andThen]

lemma within_eq_accepted : x.within name = .ok a ↔ x = .ok a := by
  cases x <;> simp [Checked.within]

lemma field_eq_accepted (h : Checked.field entries name default check = .ok a) :
    a = default ∨ ∃ value, check value = .ok a := by
  unfold Checked.field at h
  split at h
  · exact .inr ⟨_, within_eq_accepted.mp h⟩
  · exact .inl (Checked.ok.inj h).symm

lemma of_mem_accepted {n : Nat} {accepted : List α}
    (h : Checked.items check n items = .ok accepted) (ha : a ∈ accepted) :
    ∃ item ∈ items, check item = .ok a := by
  induction items generalizing n accepted with
  | nil =>
    obtain rfl := Checked.ok.inj h
    cases ha
  | cons item items ih =>
    obtain ⟨f, rest, hfirst, hrest, rfl⟩ := seq_eq_accepted.mp h
    obtain ⟨first, hitem, rfl⟩ := map_eq_accepted.mp hfirst
    rcases List.mem_cons.mp ha with rfl | ha
    · exact ⟨item, List.mem_cons_self, within_eq_accepted.mp hitem⟩
    · obtain ⟨other, hother, hcheck⟩ := ih hrest ha
      exact ⟨other, List.mem_cons_of_mem _ hother, hcheck⟩

lemma of_mem_checkList {accepted : List α} (h : checkList lib check value = .ok accepted)
    (ha : a ∈ accepted) : ∃ item, check item = .ok a := by
  obtain ⟨items, -, hitems⟩ := andThen_eq_accepted.mp h
  obtain ⟨item, -, hitem⟩ := of_mem_accepted hitems ha
  exact ⟨item, hitem⟩

lemma checkSection_eq_accepted {fields : List (Data × Data) → Checked α}
    (h : checkSection lib name fields value = .ok a) : ∃ entries, fields entries = .ok a := by
  obtain ⟨entries, -, hfields⟩ := andThen_eq_accepted.mp h
  exact ⟨entries, hfields⟩

/-- What a check accepts. -/
def accepted? : Checked α → Option α
  | .ok a => some a
  | _ => none

lemma eq_of_accepted? (h : accepted? x = some a) : x = .ok a := by
  cases x with
  | ok b => exact congrArg Checked.ok (Option.some.inj h)
  | _ => cases h

/-! ### Ends of checks -/

/-- A check that ends with a fault, or else accepts or refuses with an issue. -/
def EndsAs : Checked α → Option Fault → Prop
  | .ok _, stop => stop = none
  | .refused issues, stop => issues ≠ [] ∧ stop = none
  | .fault f, stop => stop = some f

lemma EndsAs.ok (a : α) : EndsAs (.ok a) none := rfl

lemma EndsAs.refuse (kind : IssueKind) (value : Data) :
    EndsAs (Checked.refuse kind value : Checked α) none :=
  ⟨List.cons_ne_nil _ _, rfl⟩

lemma EndsAs.fault_iff (h : EndsAs x stop) (f : Fault) : x = .fault f ↔ stop = some f := by
  cases x with
  | ok a =>
    obtain rfl : stop = none := h
    simp
  | refused issues =>
    obtain rfl := h.2
    simp
  | fault g =>
    obtain rfl : stop = some g := h
    simp

lemma EndsAs.map (h : EndsAs x stop) (f : α → β) : EndsAs (f <$> x) stop := by
  cases x <;> exact h

/-- The first of two faults counts, and a fault counts more than all issues. -/
lemma EndsAs.seq (hy : EndsAs y stop) (hx : EndsAs x later) :
    EndsAs (y <*> x) (stop.or later) := by
  change EndsAs ((y.both x).map _) _
  cases y with
  | fault f =>
    obtain rfl : stop = some f := hy
    rfl
  | ok g =>
    obtain rfl : stop = none := hy
    cases x <;> exact hx
  | refused issues =>
    obtain ⟨hissues, rfl⟩ := hy
    cases x with
    | ok a =>
      obtain rfl : later = none := hx
      exact ⟨hissues, rfl⟩
    | refused more =>
      obtain ⟨-, rfl⟩ := hx
      exact ⟨List.append_ne_nil_of_left_ne_nil hissues more, rfl⟩
    | fault f =>
      obtain rfl : later = some f := hx
      rfl

lemma EndsAs.after (hy : EndsAs y none) (hx : EndsAs x stop) : EndsAs (y <*> x) stop :=
  hy.seq hx

lemma EndsAs.before (hy : EndsAs y stop) (hx : EndsAs x none) : EndsAs (y <*> x) stop := by
  have hboth := hy.seq hx
  rwa [Option.or_none] at hboth

lemma EndsAs.within (h : EndsAs x stop) (name : String) : EndsAs (x.within name) stop := by
  cases x with
  | ok a => exact h
  | refused issues =>
    refine ⟨fun hnone => h.1 ?_, h.2⟩
    exact List.map_eq_nil_iff.mp hnone
  | fault f => exact h

lemma EndsAs.field (h : ∀ value, EndsAs (check value) (stopAt value)) :
    EndsAs (Checked.field entries name default check) ((field? name entries).bind stopAt) := by
  unfold Checked.field
  cases field? name entries with
  | none => exact .ok default
  | some value => exact (h value).within name

lemma EndsAs.each (h : ∀ value, EndsAs (check value) (stopAt value)) (n : Nat) :
    EndsAs (Checked.items check n items) (items.findSome? stopAt) := by
  induction items generalizing n with
  | nil => exact .ok []
  | cons item items ih =>
    have hfirst := ((h item).within (toString n)).map List.cons
    have hboth := hfirst.seq (ih (n + 1))
    rw [List.findSome?_cons]
    cases hstop : stopAt item with
    | none =>
      rw [hstop, Option.none_or] at hboth
      exact hboth
    | some f =>
      rw [hstop, Option.some_or] at hboth
      exact hboth

lemma EndsAs.ofReports (h : Reports check) (value : Data) : EndsAs (check value) none := by
  rcases h value with ⟨a, ha⟩ | ⟨issue, more, hissues⟩
  · rw [ha]
    exact .ok a
  · rw [hissues]
    exact ⟨List.cons_ne_nil issue more, rfl⟩

lemma EndsAs.andThen (hx : EndsAs x none) (hnext : ∀ a, EndsAs (next a) none) :
    EndsAs (x.andThen next) none := by
  cases x with
  | ok a => exact hnext a
  | refused issues => exact hx
  | fault f => cases hx

/-- The parts that a check accepts decide how the checks of them end, and where there are no parts
nothing ends. -/
lemma EndsAs.parts {x : Checked (List α)} {next : List α → Checked β}
    (stopIn : List α → Option Fault) (hnone : stopIn [] = none) (hx : EndsAs x none)
    (hnext : ∀ parts, EndsAs (next parts) (stopIn parts)) :
    EndsAs (x.andThen next) (stopIn ((accepted? x).getD [])) := by
  cases x with
  | ok parts => exact hnext parts
  | refused issues =>
    change EndsAs _ (stopIn [])
    rw [hnone]
    exact hx
  | fault f => cases hx

/-! ### Lists and sections -/

/-- The items of a value that counts as a list. -/
def itemsIn (lib : Library) (value : Data) : List Data := (accepted? (lib.items value)).getD []

lemma EndsAs.checkList (hlib : lib.Laws) (h : ∀ value, EndsAs (check value) (stopAt value))
    (value : Data) :
    EndsAs (checkList lib check value) ((itemsIn lib value).findSome? stopAt) :=
  .parts (·.findSome? stopAt) rfl (.ofReports hlib.items_report value) fun _ => .each h 0

/-- The fields of a value that counts as a section of a name. -/
def entriesIn (lib : Library) (name : String) (value : Data) : List (Data × Data) :=
  (accepted? (lib.fields name value)).getD []

lemma EndsAs.checkSection (hlib : lib.Laws) {fields : List (Data × Data) → Checked α}
    (stopIn : List (Data × Data) → Option Fault) (hnone : stopIn [] = none)
    (h : ∀ entries, EndsAs (fields entries) (stopIn entries)) (name : String) (value : Data) :
    EndsAs (checkSection lib name fields value) (stopIn (entriesIn lib name value)) :=
  .parts stopIn hnone (.ofReports (hlib.fields_report name) value) h

/-! ### Checks without faults -/

lemma checkOptional_ends (h : ∀ value, EndsAs (check value) none) (value : Data) :
    EndsAs (checkOptional check value) none := by
  cases value with
  | null => exact .ok none
  | _ => exact (h _).map some

lemma checkChoice_ends (hlib : lib.Laws) (choices : List α) (name : α → String) (value : Data) :
    EndsAs (checkChoice lib choices name value) none := by
  refine .andThen (.ofReports (hlib.word_reports _) value) fun s => ?_
  split
  · exact .ok _
  · exact .refuse _ _

lemma field_ends (h : ∀ value, EndsAs (check value) none) :
    EndsAs (Checked.field entries name default check) none := by
  have hfield : EndsAs (Checked.field entries name default check)
      ((field? name entries).bind fun _ => none) := .field h
  rwa [Option.bind_fun_none] at hfield

lemma section_ends (hlib : lib.Laws) {fields : List (Data × Data) → Checked α}
    (h : ∀ entries, EndsAs (fields entries) none) (value : Data) :
    EndsAs (checkSection lib name fields value) none :=
  .andThen (.ofReports (hlib.fields_report name) value) h

lemma checkListOf_ends (hlib : lib.Laws) (h : ∀ value, EndsAs (check value) none) (value : Data) :
    EndsAs (checkList lib check value) none := by
  have hnone : (itemsIn lib value).findSome? (fun _ => (none : Option Fault)) = none :=
    List.findSome?_eq_none_iff.mpr fun _ _ => rfl
  rw [← hnone]
  exact .checkList hlib h value

lemma checkVariables_ends (hlib : lib.Laws) (given : List (Data × Data)) :
    EndsAs (checkVariables lib given) none := by
  induction given with
  | nil => exact .ok []
  | cons entry given ih =>
    have htext : ∀ value, EndsAs (lib.text value) none := .ofReports hlib.text_reports
    have hname := ((htext entry.1).within "[key]").within (keyName entry.1)
    have hvalue := (htext entry.2).within (keyName entry.1)
    exact (((hname.map Prod.mk).seq hvalue).map List.cons).seq ih

lemma checkEnvironment_ends (hlib : lib.Laws) (value : Data) :
    EndsAs (checkEnvironment lib value) none :=
  .andThen (.ofReports hlib.entries_report value) fun entries =>
    (checkVariables_ends hlib entries).map _

lemma checkServer_ends (hlib : lib.Laws) (value : Data) : EndsAs (checkServer lib value) none := by
  refine section_ends hlib (fun entries => ?_) value
  have htext := checkOptional_ends (EndsAs.ofReports hlib.text_reports)
  refine .before (.before (.before (.map ?url _) ?project) ?user) ?token
  all_goals exact field_ends htext

lemma checkAgent_ends (hlib : lib.Laws) (value : Data) : EndsAs (checkAgent lib value) none := by
  refine section_ends hlib (fun entries => ?_) value
  have htext : ∀ value, EndsAs (lib.text value) none := .ofReports hlib.text_reports
  refine .before (.before (.before (.before (.before (.before (.map ?mode _) ?url)
    ?port) ?jar) ?includes) ?excludes) ?dumpClasses
  case mode => exact field_ends (checkChoice_ends hlib _ _)
  case url => exact field_ends (checkOptional_ends htext)
  case port => exact field_ends (.ofReports hlib.int_reports)
  case jar => exact field_ends (checkOptional_ends (.ofReports hlib.path_reports))
  case includes => exact field_ends (checkListOf_ends hlib htext)
  case excludes => exact field_ends (checkListOf_ends hlib htext)
  case dumpClasses => exact field_ends (.ofReports hlib.bool_reports)

lemma checkExecutor_ends (hlib : lib.Laws) (value : Data) :
    EndsAs (checkExecutor lib value) none := by
  refine section_ends hlib (fun entries => ?_) value
  have htext : ∀ value, EndsAs (lib.text value) none := .ofReports hlib.text_reports
  refine .before (.before (.before (.before (.map ?java _) ?mainClass) ?classpath) ?jvmArgs)
    ?env
  case java => exact field_ends htext
  case mainClass => exact field_ends htext
  case classpath => exact field_ends (checkListOf_ends hlib (.ofReports hlib.path_reports))
  case jvmArgs => exact field_ends (checkListOf_ends hlib htext)
  case env => exact field_ends (checkEnvironment_ends hlib)

lemma checkReport_ends (hlib : lib.Laws) (value : Data) : EndsAs (checkReport lib value) none := by
  refine section_ends hlib (fun entries => ?_) value
  refine .before (.before (.before (.map ?partitionName _) ?reports) ?artifact) ?dump
  all_goals exact field_ends (.ofReports hlib.text_reports)

end TestImpact.Proofs
