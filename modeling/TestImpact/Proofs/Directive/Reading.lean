import Mathlib.Tactic.Lemma
import TestImpact.Agent
import TestImpact.Proofs.Joining

/-!
# Reading directives

The agent takes its directive apart in the way in which the directive is checked before a launch: the
jar up to the first equals sign, and options between commas, each with its key up to the first equals
sign. It reads what was written unless the jar holds an equals sign or a value holds a comma.
-/

namespace TestImpact.Proofs
open Agent

/-- An option taken apart at its first equals sign. -/
def option? (s : List Char) : Option (String × String) :=
  (Text.cut? '=' s).map fun (key, value) => (String.ofList key, String.ofList value)

/-- The jar and the options of a directive. -/
def parts? (directive : String) : Option (String × List (String × String)) := do
  let body ← Text.dropLead? directiveLead.toList directive.toList
  let (jar, options) ← Text.cut? '=' body
  let options ← (Text.splitOn ',' options).mapM option?
  some (String.ofList jar, options)

/-- An option with a key of the list and a value. -/
def Known (option : String × String) : Prop := option.1 ∈ optionKeys ∧ option.2 ≠ ""

instance (option : String × String) : Decidable (Known option) :=
  inferInstanceAs (Decidable (_ ∧ _))

/-- The directive for a jar with options. -/
def written (jar : String) (options : List (String × String)) : String :=
  directiveLead ++ jar ++ "=" ++ renderOptions options

variable {jar directive : String} {s : List Char} {pieces : List (List Char)}
  {option : String × String} {options : List (String × String)}

/-! ### What is read -/

lemma option?_plain (h : option? s = some option) :
    s = option.1.toList ++ '=' :: option.2.toList ∧ '=' ∉ option.1.toList := by
  obtain ⟨⟨key, value⟩, hcut, rfl⟩ := Option.map_eq_some_iff.mp h
  simpa using eq_of_cut? hcut

lemma mapM_option?_cons (piece : List Char) (h : (piece :: pieces).mapM option? = some options) :
    ∃ first rest, option? piece = some first ∧ pieces.mapM option? = some rest ∧
      options = first :: rest := by
  rw [List.mapM_cons] at h
  obtain ⟨first, hfirst, h⟩ := Option.bind_eq_some_iff.mp h
  obtain ⟨rest, hrest, h⟩ := Option.bind_eq_some_iff.mp h
  exact ⟨first, rest, hfirst, hrest, (Option.some.inj h).symm⟩

lemma exists_piece (h : pieces.mapM option? = some options) (hmem : option ∈ options) :
    ∃ piece ∈ pieces, option? piece = some option := by
  induction pieces generalizing options with
  | nil =>
    obtain rfl := Option.some.inj h
    simp at hmem
  | cons piece pieces ih =>
    obtain ⟨first, rest, hfirst, hrest, rfl⟩ := mapM_option?_cons piece h
    rcases List.mem_cons.mp hmem with rfl | hmem
    · exact ⟨piece, List.mem_cons_self, hfirst⟩
    · obtain ⟨other, hother, hread⟩ := ih hrest hmem
      exact ⟨other, List.mem_cons_of_mem _ hother, hread⟩

lemma parts?_eq_some (h : parts? directive = some (jar, options)) :
    ∃ body rest, Text.dropLead? directiveLead.toList directive.toList = some body ∧
      Text.cut? '=' body = some (jar.toList, rest) ∧
      (Text.splitOn ',' rest).mapM option? = some options := by
  obtain ⟨body, hbody, h⟩ := Option.bind_eq_some_iff.mp h
  obtain ⟨⟨before, rest⟩, hcut, h⟩ := Option.bind_eq_some_iff.mp h
  obtain ⟨read, hread, h⟩ := Option.bind_eq_some_iff.mp h
  obtain ⟨rfl, rfl⟩ := Prod.mk.inj (Option.some.inj h)
  exact ⟨body, rest, hbody, by simpa using hcut, hread⟩

/-- No jar that is read holds an equals sign, and no value a comma. -/
lemma parts?_plain (h : parts? directive = some (jar, options)) :
    '=' ∉ jar.toList ∧ ∀ option ∈ options, ',' ∉ option.2.toList := by
  obtain ⟨body, rest, -, hcut, hread⟩ := parts?_eq_some h
  refine ⟨(eq_of_cut? hcut).2, fun option hoption hcomma => ?_⟩
  obtain ⟨piece, hpiece, hparts⟩ := exists_piece hread hoption
  apply not_mem_of_mem_splitOn hpiece
  rw [(option?_plain hparts).1]
  exact List.mem_append_right _ (List.mem_cons_of_mem _ hcomma)

/-! ### What is accepted -/

lemma isOption_iff : isOption s = true ↔ ∃ option, option? s = some option ∧ Known option := by
  unfold isOption option?
  cases hcut : Text.cut? '=' s with
  | none => simp
  | some parts =>
    obtain ⟨key, value⟩ := parts
    have hvalue : String.ofList value = "" ↔ value = [] := by
      rw [← String.toList_inj, String.toList_ofList]
      rfl
    simp [Known, hvalue]

lemma all_isOption_iff : pieces.all isOption = true ↔
    ∃ options, pieces.mapM option? = some options ∧ ∀ option ∈ options, Known option := by
  induction pieces with
  | nil => simp
  | cons piece pieces ih =>
    rw [List.all_cons, Bool.and_eq_true, isOption_iff, ih]
    constructor
    · rintro ⟨⟨first, hfirst, hknown⟩, rest, hrest, hall⟩
      refine ⟨first :: rest, ?_, List.forall_mem_cons.mpr ⟨hknown, hall⟩⟩
      rw [List.mapM_cons, hfirst, hrest]
      rfl
    · rintro ⟨options, hread, hall⟩
      obtain ⟨first, rest, hfirst, hrest, rfl⟩ := mapM_option?_cons piece hread
      obtain ⟨hknown, hall⟩ := List.forall_mem_cons.mp hall
      exact ⟨⟨first, hfirst, hknown⟩, rest, hrest, hall⟩

/-- A directive is accepted exactly if it is read as a jar with known options. -/
lemma checkDirective_iff : checkDirective directive = .ok () ↔
    ∃ jar options, parts? directive = some (jar, options) ∧ jar ≠ "" ∧
      ∀ option ∈ options, Known option := by
  have hcheck : checkDirective directive = .ok () ↔ isDirective directive.toList = true := by
    rw [checkDirective]
    split <;> simp_all
  rw [hcheck]
  constructor
  · intro h
    unfold isDirective at h
    cases hbody : Text.dropLead? directiveLead.toList directive.toList with
    | none => simp [hbody] at h
    | some body =>
      cases hcut : Text.cut? '=' body with
      | none => simp [hbody, hcut] at h
      | some parts =>
        obtain ⟨before, rest⟩ := parts
        simp only [hbody, hcut, Option.bind_some, Bool.and_eq_true] at h
        obtain ⟨hjar, hall⟩ := h
        obtain ⟨options, hread, hknown⟩ := all_isOption_iff.mp hall
        refine ⟨String.ofList before, options, ?_, ?_, hknown⟩
        · simp [parts?, hbody, hcut, hread]
        · intro hempty
          simp [String.ofList_eq_empty_iff.mp hempty] at hjar
  · rintro ⟨jar, options, hparts, hjar, hknown⟩
    obtain ⟨body, rest, hbody, hcut, hread⟩ := parts?_eq_some hparts
    have hall := all_isOption_iff.mpr ⟨options, hread, hknown⟩
    unfold isDirective
    simp only [hbody, hcut, Option.bind_some, Bool.and_eq_true, hall, and_true]
    simpa using hjar

/-! ### Reading back -/

lemma toList_renderOptions (options : List (String × String)) :
    (renderOptions options).toList =
      Text.joinWith ',' (options.map fun option => option.1.toList ++ '=' :: option.2.toList) := by
  rw [renderOptions, toList_joinText rfl, List.map_map]
  congr 1
  apply List.map_congr_left
  intro option _
  simp

lemma not_mem_of_mem_optionKeys {key : String} (h : key ∈ optionKeys) :
    '=' ∉ key.toList ∧ ',' ∉ key.toList := by
  revert key
  decide +kernel

lemma mapM_option?_written (hkeys : ∀ option ∈ options, option.1 ∈ optionKeys) :
    (options.map fun option => option.1.toList ++ '=' :: option.2.toList).mapM option? =
      some options := by
  induction options with
  | nil => rfl
  | cons option options ih =>
    obtain ⟨hkey, hkeys⟩ := List.forall_mem_cons.mp hkeys
    have hread : option? (option.1.toList ++ '=' :: option.2.toList) = some option := by
      rw [option?, cut?_append (not_mem_of_mem_optionKeys hkey).1]
      simp
    rw [List.map_cons, List.mapM_cons, hread, ih hkeys]
    rfl

/-- A jar without equals signs and options without commas are read as they were written. -/
lemma parts?_written (hjar : '=' ∉ jar.toList) (hne : options ≠ [])
    (hkeys : ∀ option ∈ options, option.1 ∈ optionKeys)
    (hvalues : ∀ option ∈ options, ',' ∉ option.2.toList) :
    parts? (written jar options) = some (jar, options) := by
  have hbody : (written jar options).toList =
      directiveLead.toList ++ (jar.toList ++ '=' :: (renderOptions options).toList) := by
    simp [written, String.toList_append]
  have hpieces : Text.splitOn ',' (renderOptions options).toList =
      options.map fun option => option.1.toList ++ '=' :: option.2.toList := by
    rw [toList_renderOptions]
    apply splitOn_joinWith_of_not_mem (by simpa using hne)
    intro piece hpiece
    obtain ⟨option, hoption, rfl⟩ := List.mem_map.mp hpiece
    have hkey := (not_mem_of_mem_optionKeys (hkeys option hoption)).2
    have hvalue := hvalues option hoption
    simp [hkey, hvalue]
  rw [parts?, hbody, dropLead?_append]
  simp only [Option.bind_eq_bind, Option.bind_some]
  rw [cut?_append hjar]
  simp only [Option.bind_some]
  rw [hpieces, mapM_option?_written hkeys]
  simp

end TestImpact.Proofs
