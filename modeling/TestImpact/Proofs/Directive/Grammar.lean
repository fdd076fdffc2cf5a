import TestImpact.Proofs.Directive.Reading

/-!
# The grammar of directives

The directives that are accepted before a launch are those of a small grammar: the lead, a jar, and
options between commas. The grammar is written out here by itself, with its own keys, and the check
accepts a text exactly if the grammar has it.
-/

namespace TestImpact.Proofs
open Agent

/-- The keys that an option may have. -/
inductive OptionKey : String → Prop
  | destfile : OptionKey "destfile"
  | includes : OptionKey "includes"
  | excludes : OptionKey "excludes"
  | classDumpDir : OptionKey "classdumpdir"
  | controlPort : OptionKey "http-server-port"

/-- One option or more, with commas between them. -/
inductive OptionsText : String → Prop
  | one {key value : String} : OptionKey key → value ≠ "" → ',' ∉ value.toList →
    OptionsText (key ++ "=" ++ value)
  | more {key value rest : String} : OptionKey key → value ≠ "" → ',' ∉ value.toList →
    OptionsText rest → OptionsText (key ++ "=" ++ value ++ "," ++ rest)

/-- A jar with its options. -/
inductive DirectiveText : String → Prop
  | attach {jar options : String} : jar ≠ "" → '=' ∉ jar.toList → OptionsText options →
    DirectiveText ("-javaagent:" ++ jar ++ "=" ++ options)

variable {key jar directive text : String} {option : String × String}
  {options : List (String × String)}

/-- An option as the grammar has it. -/
def Plain (option : String × String) : Prop := Known option ∧ ',' ∉ option.2.toList

/-! ### Options -/

lemma optionKey_iff : OptionKey key ↔ key ∈ optionKeys := by
  constructor
  · rintro (_ | _ | _ | _ | _) <;> decide
  · intro h
    simp only [optionKeys, List.mem_cons, List.not_mem_nil, or_false] at h
    rcases h with rfl | rfl | rfl | rfl | rfl
    · exact .destfile
    · exact .includes
    · exact .excludes
    · exact .classDumpDir
    · exact .controlPort

lemma optionsText_iff : OptionsText text ↔
    ∃ options, options ≠ [] ∧ (∀ option ∈ options, Plain option) ∧ text = renderOptions options := by
  constructor
  · intro h
    induction h with
    | @one key value hkey hne hcomma =>
      refine ⟨[(key, value)], by simp, ?_, rfl⟩
      simpa using ⟨⟨optionKey_iff.mp hkey, hne⟩, hcomma⟩
    | @more key value rest hkey hne hcomma _ ih =>
      obtain ⟨options, hsome, hall, rfl⟩ := ih
      refine ⟨(key, value) :: options, by simp, List.forall_mem_cons.mpr ⟨?_, hall⟩, ?_⟩
      · exact ⟨⟨optionKey_iff.mp hkey, hne⟩, hcomma⟩
      · cases options with
        | nil => exact absurd rfl hsome
        | cons next options => rfl
  · rintro ⟨options, hsome, hall, rfl⟩
    induction options with
    | nil => exact absurd rfl hsome
    | cons option options ih =>
      obtain ⟨⟨⟨hkey, hne⟩, hcomma⟩, hall⟩ := List.forall_mem_cons.mp hall
      cases options with
      | nil => exact .one (optionKey_iff.mpr hkey) hne hcomma
      | cons next options =>
        exact .more (optionKey_iff.mpr hkey) hne hcomma (ih (by simp) hall)

/-! ### Directives -/

lemma eq_texts_of_mapM_option? {pieces : List (List Char)}
    (h : pieces.mapM option? = some options) :
    pieces = options.map fun option => option.1.toList ++ '=' :: option.2.toList := by
  induction pieces generalizing options with
  | nil =>
    obtain rfl := Option.some.inj h
    rfl
  | cons piece pieces ih =>
    obtain ⟨first, rest, hfirst, hrest, rfl⟩ := mapM_option?_cons piece h
    rw [List.map_cons, ← ih hrest, (option?_plain hfirst).1]

lemma eq_written_of_parts? (h : parts? directive = some (jar, options)) :
    options ≠ [] ∧ directive = written jar options := by
  obtain ⟨body, rest, hbody, hcut, hread⟩ := parts?_eq_some h
  have hpieces := eq_texts_of_mapM_option? hread
  have hrest : rest = (renderOptions options).toList := by
    rw [toList_renderOptions, ← hpieces, Text.joinWith_splitOn]
  refine ⟨fun hnone => ?_, ?_⟩
  · rw [hnone] at hpieces
    exact Text.splitOn_ne_nil ',' rest hpieces
  · rw [← String.toList_inj, eq_of_dropLead? hbody, (eq_of_cut? hcut).1, hrest]
    simp [written, String.toList_append]

/-- What is written for a jar without equals signs and plain options is read as that. -/
lemma parts?_iff : parts? directive = some (jar, options) ∧ (∀ option ∈ options, Known option) ↔
    '=' ∉ jar.toList ∧ options ≠ [] ∧ (∀ option ∈ options, Plain option) ∧
      directive = written jar options := by
  constructor
  · rintro ⟨hparts, hknown⟩
    obtain ⟨hjar, hcommas⟩ := parts?_plain hparts
    obtain ⟨hsome, htext⟩ := eq_written_of_parts? hparts
    exact ⟨hjar, hsome, fun option hoption => ⟨hknown option hoption, hcommas option hoption⟩, htext⟩
  · rintro ⟨hjar, hsome, hplain, rfl⟩
    refine ⟨parts?_written hjar hsome (fun option hoption => (hplain option hoption).1.1)
      fun option hoption => (hplain option hoption).2, fun option hoption => (hplain option hoption).1⟩

lemma directiveText_iff : DirectiveText directive ↔
    ∃ jar options, jar ≠ "" ∧ '=' ∉ jar.toList ∧ options ≠ [] ∧
      (∀ option ∈ options, Plain option) ∧ directive = written jar options := by
  constructor
  · rintro ⟨hjar, hequals, htext⟩
    obtain ⟨options, hsome, hall, rfl⟩ := optionsText_iff.mp htext
    exact ⟨_, options, hjar, hequals, hsome, hall, rfl⟩
  · rintro ⟨jar, options, hjar, hequals, hsome, hall, rfl⟩
    exact .attach hjar hequals (optionsText_iff.mpr ⟨options, hsome, hall, rfl⟩)

/-- A directive is accepted exactly if it is one of the grammar. Every other text is refused by an
error of spawning that carries it. -/
theorem accepted_iff_directiveText (directive : String) :
    (checkDirective directive = .ok () ↔ DirectiveText directive) ∧
      (¬DirectiveText directive ↔ ∃ e, checkDirective directive = .error e ∧ e.family = .spawn ∧
        e.cause = .malformedDirective directive ∧ e.cause.details = [("directive", .text directive)]) := by
  have haccepted : checkDirective directive = .ok () ↔ DirectiveText directive := by
    rw [checkDirective_iff, directiveText_iff]
    constructor
    · rintro ⟨jar, options, hparts, hjar, hknown⟩
      exact ⟨jar, options, hjar, parts?_iff.mp ⟨hparts, hknown⟩⟩
    · rintro ⟨jar, options, hjar, hwritten⟩
      obtain ⟨hparts, hknown⟩ := parts?_iff.mpr hwritten
      exact ⟨jar, options, hparts, hjar, hknown⟩
  refine ⟨haccepted, ?_⟩
  rw [← haccepted, checkDirective]
  split
  · simp
  · exact iff_of_true (by simp) ⟨_, rfl, rfl, rfl, rfl⟩

/-- Equals signs may stand in a value but not in a jar, and a comma at the end is one too many. -/
example : isDirective "-javaagent:a b.jar=includes==,destfile=x=y".toList = true ∧
    isDirective "-javaagent:a=b.jar=destfile=x".toList = false ∧
    isDirective "-javaagent:a.jar=destfile=x,".toList = false := by
  decide +kernel

end TestImpact.Proofs
