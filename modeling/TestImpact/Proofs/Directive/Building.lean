import Mathlib.Tactic.Lemma
import TestImpact.Proofs.Directive.Reading
import TestImpact.Proofs.Paths.Places
import TestImpact.Proofs.Reading

/-!
# Building directives

What the directive of an attached agent tells the agent.
-/

namespace TestImpact.Proofs
open Agent

/-- An option, or nothing if there is no value. -/
def unlessEmpty (key value : String) : List (String × String) :=
  if value = "" then [] else [(key, value)]

/-- The options that an attached agent is to be told. -/
def toldOptions (cwd workingDir artifact : Path) (controlPort : Int)
    (includes excludes : List String) (dumpDir : Option Path) : List (String × String) :=
  [("destfile", artifact.relativeTo cwd workingDir)] ++
  unlessEmpty "includes" (Path.joinList includes) ++
  unlessEmpty "excludes" (Path.joinList excludes) ++
  (dumpDir.map fun dir => ("classdumpdir", dir.relativeTo cwd workingDir)).toList ++
  [("http-server-port", toString controlPort)]

variable {limit : Number.DigitLimit} {cwd workingDir artifact : Path} {port : Data} {n : Int}
  {jar dumpDir : Option Path} {includes excludes : List String} {built : Option String}

/-! ### The control port -/

lemma eq_of_checkControlPort (h : checkControlPort limit port = .ok n) :
    port = .int n ∧ 1 ≤ n ∧ n ≤ 65535 := by
  unfold checkControlPort at h
  split at h
  · simp at h
  · rename_i m
    split at h
    · rename_i hrange
      obtain rfl := Except.ok.inj h
      exact ⟨rfl, hrange⟩
    · simp at h
  · simp at h

lemma isDigit_of_mem_toString (h : 1 ≤ n) {c : Char} (hc : c ∈ (toString n).toList) :
    c.isDigit = true := by
  obtain ⟨m, rfl⟩ := Int.eq_ofNat_of_zero_le (by omega : 0 ≤ n)
  have htext : toString (m : Int) = String.ofList (Nat.toDigits 10 m) :=
    Nat.repr_eq_ofList_toDigits
  rw [htext, String.toList_ofList] at hc
  exact Nat.isDigit_of_mem_toDigits (by omega) (by omega) hc

lemma toString_ne_empty (h : 1 ≤ n) : toString n ≠ "" := by
  obtain ⟨m, rfl⟩ := Int.eq_ofNat_of_zero_le (by omega : 0 ≤ n)
  have htext : toString (m : Int) = String.ofList (Nat.toDigits 10 m) :=
    Nat.repr_eq_ofList_toDigits
  rw [htext]
  intro hempty
  exact Nat.toDigits_ne_nil (String.ofList_eq_empty_iff.mp hempty)

/-! ### Options -/

lemma mem_unlessEmpty {key value : String} {option : String × String}
    (h : option ∈ unlessEmpty key value) : option = (key, value) ∧ value ≠ "" := by
  unfold unlessEmpty at h
  split at h
  · simp at h
  · rename_i hvalue
    exact ⟨List.mem_singleton.mp h, hvalue⟩

lemma unlessEmpty_of_ne {value : String} (h : value ≠ "") (key : String) :
    unlessEmpty key value = [(key, value)] := if_neg h

lemma filter_cons_unlessEmpty (key value : String) (options : List (String × String)) :
    ((key, value) :: options).filter (fun option => option.2 ≠ "") =
      unlessEmpty key value ++ options.filter fun option => option.2 ≠ "" := by
  rw [List.filter_cons, unlessEmpty]
  by_cases hvalue : value = ""
  · simp [hvalue]
  · simp [hvalue]

lemma options_eq_toldOptions (h : 1 ≤ n) :
    options cwd workingDir artifact n includes excludes dumpDir =
      toldOptions cwd workingDir artifact n includes excludes dumpDir := by
  have hdump : unlessEmpty "classdumpdir" ((dumpDir.map (·.relativeTo cwd workingDir)).getD "") =
      (dumpDir.map fun dir => ("classdumpdir", dir.relativeTo cwd workingDir)).toList := by
    cases dumpDir with
    | none => rfl
    | some dir => exact unlessEmpty_of_ne (relativeTo_ne_empty dir cwd workingDir) _
  rw [options, filter_cons_unlessEmpty, filter_cons_unlessEmpty, filter_cons_unlessEmpty,
    filter_cons_unlessEmpty, filter_cons_unlessEmpty, hdump,
    unlessEmpty_of_ne (relativeTo_ne_empty artifact cwd workingDir),
    unlessEmpty_of_ne (toString_ne_empty h), toldOptions]
  simp only [List.filter_nil, List.append_nil, List.append_assoc]

lemma unlessEmpty_keys_sublist (key value : String) :
    ((unlessEmpty key value).map Prod.fst).Sublist [key] := by
  unfold unlessEmpty
  split
  · exact List.nil_sublist _
  · exact List.Sublist.refl _

/-- The agent is told each key at most once, in the order of the list. -/
lemma toldOptions_keys_sublist : ((toldOptions cwd workingDir artifact n includes excludes
    dumpDir).map Prod.fst).Sublist optionKeys := by
  have hdump : ((dumpDir.map fun dir => ("classdumpdir", dir.relativeTo cwd workingDir)).toList.map
      Prod.fst).Sublist ["classdumpdir"] := by
    cases dumpDir with
    | none => exact List.nil_sublist _
    | some dir => exact List.Sublist.refl _
  simp only [toldOptions, List.map_append]
  exact ((((List.Sublist.refl ["destfile"]).append (unlessEmpty_keys_sublist _ _)).append
    (unlessEmpty_keys_sublist _ _)).append hdump).append (List.Sublist.refl ["http-server-port"])

lemma known_of_mem_toldOptions (h : 1 ≤ n) {option : String × String}
    (hmem : option ∈ toldOptions cwd workingDir artifact n includes excludes dumpDir) :
    Known option := by
  refine ⟨toldOptions_keys_sublist.mem (List.mem_map_of_mem hmem), ?_⟩
  simp only [toldOptions, List.mem_append, List.mem_singleton, Option.mem_toList,
    Option.map_eq_some_iff] at hmem
  rcases hmem with (((rfl | hmem) | hmem) | ⟨dir, -, rfl⟩) | rfl
  · exact relativeTo_ne_empty artifact cwd workingDir
  · obtain ⟨rfl, hvalue⟩ := mem_unlessEmpty hmem
    exact hvalue
  · obtain ⟨rfl, hvalue⟩ := mem_unlessEmpty hmem
    exact hvalue
  · exact relativeTo_ne_empty dir cwd workingDir
  · exact toString_ne_empty h

/-! ### Directives -/

/-- A directive that can be built is written for the jar with the options that the agent is told. -/
lemma directive_eq_ok
    (h : (attached jar port includes excludes dumpDir).directive limit cwd workingDir artifact =
      .ok built) :
    ∃ (j : Path) (n : Int), jar = some j ∧ port = .int n ∧ (1 ≤ n ∧ n ≤ 65535) ∧
      built = some (written (j.relativeTo cwd workingDir)
        (toldOptions cwd workingDir artifact n includes excludes dumpDir)) := by
  rw [directive] at h
  obtain ⟨n, hport, hbuilt⟩ := bind_eq_ok.mp h
  obtain ⟨rfl, hrange⟩ := eq_of_checkControlPort hport
  cases jar with
  | none => simp at hbuilt
  | some j =>
    refine ⟨j, n, rfl, rfl, hrange, ?_⟩
    rw [← options_eq_toldOptions hrange.1]
    exact (Except.ok.inj hbuilt).symm

/-- Only for an agent is there a directive, and it is that of the agent. -/
lemma directiveOf_eq_ok {subject : Agent ⊕ Data} :
    directiveOf limit cwd workingDir artifact subject = .ok built ↔ ∃ agent,
      subject = .inl agent ∧ agent.directive limit cwd workingDir artifact = .ok built := by
  cases subject with
  | inl agent => simp [directiveOf]
  | inr value => simp [directiveOf]

/-! ### What the agent is told -/

lemma not_mem_of_mem_toldOptions (h : 1 ≤ n)
    (hartifact : ',' ∉ (artifact.relativeTo cwd workingDir).toList)
    (hincludes : ',' ∉ (Path.joinList includes).toList)
    (hexcludes : ',' ∉ (Path.joinList excludes).toList)
    (hdump : ∀ dir ∈ dumpDir, ',' ∉ (dir.relativeTo cwd workingDir).toList)
    {option : String × String}
    (hmem : option ∈ toldOptions cwd workingDir artifact n includes excludes dumpDir) :
    ',' ∉ option.2.toList := by
  simp only [toldOptions, List.mem_append, List.mem_singleton, Option.mem_toList,
    Option.map_eq_some_iff] at hmem
  rcases hmem with (((rfl | hmem) | hmem) | ⟨dir, hdir, rfl⟩) | rfl
  · exact hartifact
  · obtain ⟨rfl, -⟩ := mem_unlessEmpty hmem
    exact hincludes
  · obtain ⟨rfl, -⟩ := mem_unlessEmpty hmem
    exact hexcludes
  · exact hdump dir hdir
  · intro hcomma
    exact absurd (isDigit_of_mem_toString h hcomma) (by decide)

/-- What is written for a jar without equals signs and options without commas is accepted and read
as it was meant. -/
lemma read_of_plain (h : 1 ≤ n) {jarText : String} (hne : jarText ≠ "")
    (hjar : '=' ∉ jarText.toList)
    (hvalues : ∀ option ∈ toldOptions cwd workingDir artifact n includes excludes dumpDir,
      ',' ∉ option.2.toList) :
    checkDirective (written jarText
        (toldOptions cwd workingDir artifact n includes excludes dumpDir)) = .ok () ∧
      parts? (written jarText (toldOptions cwd workingDir artifact n includes excludes dumpDir)) =
        some (jarText, toldOptions cwd workingDir artifact n includes excludes dumpDir) := by
  have hparts := parts?_written hjar (by simp [toldOptions])
    (fun option hoption => (known_of_mem_toldOptions h hoption).1) hvalues
  exact ⟨checkDirective_iff.mpr
    ⟨_, _, hparts, hne, fun option hoption => known_of_mem_toldOptions h hoption⟩, hparts⟩

/-- A directive whose jar holds no equals sign and whose other texts hold no comma is accepted, and
the agent reads the jar and all options in their order as they were meant. -/
theorem directive_read_back (limit : Number.DigitLimit) (cwd workingDir artifact : Path)
    (jar : Option Path) (port : Data) (includes excludes : List String) (dumpDir : Option Path)
    (built : Option String)
    (h : (attached jar port includes excludes dumpDir).directive limit cwd workingDir artifact =
      .ok built)
    (hjar : ∀ j ∈ jar, '=' ∉ (j.relativeTo cwd workingDir).toList)
    (hartifact : ',' ∉ (artifact.relativeTo cwd workingDir).toList)
    (hincludes : ',' ∉ (Path.joinList includes).toList)
    (hexcludes : ',' ∉ (Path.joinList excludes).toList)
    (hdump : ∀ dir ∈ dumpDir, ',' ∉ (dir.relativeTo cwd workingDir).toList) :
    ∃ (j : Path) (n : Int) (directive : String), jar = some j ∧ port = .int n ∧
      built = some directive ∧ checkDirective directive = .ok () ∧
      parts? directive = some (j.relativeTo cwd workingDir,
        toldOptions cwd workingDir artifact n includes excludes dumpDir) := by
  obtain ⟨j, n, rfl, rfl, hrange, rfl⟩ := directive_eq_ok h
  obtain ⟨haccepted, hparts⟩ := read_of_plain hrange.1 (relativeTo_ne_empty j cwd workingDir)
    (hjar j rfl) fun option hoption =>
      not_mem_of_mem_toldOptions hrange.1 hartifact hincludes hexcludes hdump hoption
  exact ⟨j, n, _, rfl, rfl, rfl, haccepted, hparts⟩

/-- Equals signs in values, an empty pattern and no excludes do no harm. -/
theorem sample_directive_read_back :
    ∃ directive, (attached (some (Path.ofText "/opt/../tools/agent.jar")) (.int 8123) ["", "a=b"] []
        (some (Path.ofText "dump"))).directive .standard (Path.ofText "/w") (Path.ofText "app")
        (Path.ofText "build/./x=y.exec") = .ok (some directive) ∧
      checkDirective directive = .ok () ∧
      parts? directive = some ("../../tools/agent.jar", [("destfile", "../build/x=y.exec"),
        ("includes", ":a=b"), ("classdumpdir", "../dump"), ("http-server-port", "8123")]) := by
  obtain ⟨j, n, directive, hj, hn, hbuilt, haccepted, hparts⟩ :=
    directive_read_back .standard (Path.ofText "/w") (Path.ofText "app")
      (Path.ofText "build/./x=y.exec") (some (Path.ofText "/opt/../tools/agent.jar")) (.int 8123)
      ["", "a=b"] []
      (some (Path.ofText "dump")) _ rfl (by decide +kernel) (by decide +kernel) (by decide +kernel)
      (by decide +kernel) (by decide +kernel)
  obtain rfl := Option.some.inj hj
  obtain rfl := Data.int.inj hn
  refine ⟨directive, congrArg Except.ok hbuilt, haccepted, hparts.trans ?_⟩
  decide +kernel

/-- The agent reads a directive as it was meant exactly if the jar holds no equals sign and no value
a comma. The check does not tell: it accepts whatever is read as a jar with known options, and the
options that the agent was to be told have different keys. -/
theorem read_as_meant_iff_plain (limit : Number.DigitLimit) (cwd workingDir artifact : Path)
    (jar : Option Path) (port : Data) (includes excludes : List String) (dumpDir : Option Path)
    (built : Option String)
    (h : (attached jar port includes excludes dumpDir).directive limit cwd workingDir artifact =
      .ok built) :
    ∃ (j : Path) (n : Int) (directive : String), jar = some j ∧ port = .int n ∧
      built = some directive ∧
      (parts? directive = some (j.relativeTo cwd workingDir,
          toldOptions cwd workingDir artifact n includes excludes dumpDir) ↔
        '=' ∉ (j.relativeTo cwd workingDir).toList ∧
        ∀ option ∈ toldOptions cwd workingDir artifact n includes excludes dumpDir,
          ',' ∉ option.2.toList) ∧
      (checkDirective directive = .ok () ↔ ∃ jarText options,
        parts? directive = some (jarText, options) ∧ jarText ≠ "" ∧
        ∀ option ∈ options, Known option) ∧
      ((toldOptions cwd workingDir artifact n includes excludes dumpDir).map Prod.fst).Nodup := by
  obtain ⟨j, n, rfl, rfl, hrange, rfl⟩ := directive_eq_ok h
  have hnodup : optionKeys.Nodup := by decide
  refine ⟨j, n, _, rfl, rfl, rfl, ⟨parts?_plain, fun ⟨hjar, hvalues⟩ => ?_⟩, checkDirective_iff,
    toldOptions_keys_sublist.nodup hnodup⟩
  exact (read_of_plain hrange.1 (relativeTo_ne_empty j cwd workingDir) hjar hvalues).2

/-- A pattern with a comma smuggles in an option: the directive is accepted, and the agent is told
to write elsewhere. -/
theorem sample_option_smuggled :
    ∃ directive, (attached (some (Path.ofText "/w/lib/agent.jar")) (.int 8123)
        ["com.a.*,destfile=other.exec"] [] none).directive .standard (Path.ofText "/w")
        (Path.ofText "/w") (Path.ofText "/w/build/test.exec") = .ok (some directive) ∧
      checkDirective directive = .ok () ∧
      parts? directive = some ("lib/agent.jar", [("destfile", "build/test.exec"),
        ("includes", "com.a.*"), ("destfile", "other.exec"), ("http-server-port", "8123")]) ∧
      parts? directive ≠ some ("lib/agent.jar", toldOptions (Path.ofText "/w") (Path.ofText "/w")
        (Path.ofText "/w/build/test.exec") 8123 ["com.a.*,destfile=other.exec"] [] none) := by
  obtain ⟨j, n, directive, hj, hn, hbuilt, hmeant, haccepted, -⟩ :=
    read_as_meant_iff_plain .standard (Path.ofText "/w") (Path.ofText "/w")
      (Path.ofText "/w/build/test.exec") (some (Path.ofText "/w/lib/agent.jar")) (.int 8123)
      ["com.a.*,destfile=other.exec"] [] none _ rfl
  obtain rfl := Option.some.inj hj
  obtain rfl := Data.int.inj hn
  have hjar : (Path.ofText "/w/lib/agent.jar").relativeTo (Path.ofText "/w") (Path.ofText "/w") =
      "lib/agent.jar" := by decide +kernel
  have hread : parts? directive = some ("lib/agent.jar", [("destfile", "build/test.exec"),
      ("includes", "com.a.*"), ("destfile", "other.exec"), ("http-server-port", "8123")]) := by
    obtain rfl := Option.some.inj hbuilt
    decide +kernel
  refine ⟨directive, congrArg Except.ok hbuilt, ?_, hread, fun hclaim => ?_⟩
  · exact haccepted.mpr ⟨_, _, hread, by decide, by decide⟩
  · rw [hjar] at hmeant
    exact absurd (hmeant.mp hclaim).2 (by decide +kernel)

end TestImpact.Proofs
