import Mathlib.Tactic.SplitIfs
import TestImpact.Config.EnvironmentLayer
import TestImpact.Proofs.Config.Merging
import TestImpact.Proofs.Results

/-!
# Variables that cannot be read

A section of settings is read from the environment unless one of its variables should be JSON and is
not. Nothing else can go wrong: what is read from JSON ends, so that its mappings are merged.
-/

namespace TestImpact.Proofs
open Config Data Json

variable {α β ε : Type} {s : String} {chars rest : List Char} {value : Data} {token : Token}
  {tokens more : List Token} {entries result : List (Data × Data)} {env : Environment}
  {lead name : String} {shape : Shape} {f : Fault} {e : ε} {n : Nat} {limit : Number.DigitLimit}

/-! ### Values in JSON -/

lemma lexMagnitude_finite {negative : Bool}
    (h : lexMagnitude limit negative chars = some (value, rest)) : value.isEndless = false := by
  unfold lexMagnitude at h
  extract_lets whole at h
  split at h
  · cases h
  · dsimp only at h
    split at h
    · obtain ⟨rfl, -⟩ := Prod.mk.inj (Option.some.inj h)
      rfl
    · split at h
      · cases h
      · obtain ⟨rfl, -⟩ := Prod.mk.inj (Option.some.inj h)
        rfl

lemma lexWord_finite (h : lexWord chars = some (value, rest)) : value.isEndless = false := by
  obtain ⟨⟨word, meant⟩, hword, hfound⟩ := List.exists_of_findSome?_eq_some h
  obtain ⟨after, -, heq⟩ := Option.map_eq_some_iff.mp hfound
  obtain ⟨rfl, -⟩ := Prod.mk.inj heq
  have hwords : ∀ w ∈ words, w.2.isEndless = false := by
    simp [words, isEndless]
  exact hwords _ hword

lemma lexScalar_finite (h : lexScalar limit chars = some (value, rest)) :
    value.isEndless = false := by
  unfold lexScalar at h
  rcases Option.or_eq_some_iff.mp h with hword | ⟨-, hnumber⟩
  · exact lexWord_finite hword
  · split at hnumber
    · exact lexMagnitude_finite hnumber
    · exact lexMagnitude_finite hnumber

/-- A token whose value, if it has one, ends. -/
def Ends : Token → Prop
  | .scalar value => value.isEndless = false
  | _ => True

lemma lex_ends (h : lex limit n chars = some tokens) : ∀ token ∈ tokens, Ends token := by
  induction n generalizing chars tokens with
  | zero =>
    unfold lex at h
    split at h
    · obtain rfl := Option.some.inj h
      exact List.forall_mem_nil _
    · cases h
  | succ n ih =>
    cases chars with
    | nil =>
      obtain rfl := Option.some.inj h
      exact List.forall_mem_nil _
    | cons c chars =>
      -- A token that is no scalar, before those of the rest.
      have hmark : ∀ t, (lex limit n chars).map (t :: ·) = some tokens → Ends t →
          ∀ token ∈ tokens, Ends token := by
        intro t hmap ht
        obtain ⟨others, hothers, rfl⟩ := Option.map_eq_some_iff.mp hmap
        exact List.forall_mem_cons.mpr ⟨ht, ih hothers⟩
      rw [lex] at h
      split_ifs at h
      · exact ih h
      iterate 6 exact hmark _ h trivial
      · obtain ⟨⟨units, after⟩, -, h⟩ := Option.bind_eq_some_iff.mp h
        obtain ⟨others, hothers, rfl⟩ := Option.map_eq_some_iff.mp h
        exact List.forall_mem_cons.mpr ⟨trivial, ih hothers⟩
      · obtain ⟨⟨value, after⟩, hscalar, h⟩ := Option.bind_eq_some_iff.mp h
        obtain ⟨others, hothers, rfl⟩ := Option.map_eq_some_iff.mp h
        exact List.forall_mem_cons.mpr ⟨lexScalar_finite hscalar, ih hothers⟩

lemma anyEndless_iff {items : List Data} :
    anyEndless items = false ↔ ∀ item ∈ items, item.isEndless = false := by
  induction items with
  | nil => simp [anyEndless]
  | cons item items ih => simp [anyEndless, ih]

lemma anyEndlessEntry_ofEntries (h : ∀ entry ∈ entries, entry.2.isEndless = false) :
    anyEndlessEntry (ofEntries entries) = false := by
  have hfold : ∀ done, anyEndlessEntry done = false →
      anyEndlessEntry (entries.foldl (fun done entry => put entry.1 entry.2 done) done) =
        false := by
    induction entries with
    | nil => exact fun _ hdone => hdone
    | cons entry entries ih =>
      obtain ⟨hfirst, hrest⟩ := List.forall_mem_cons.mp h
      exact fun done hdone => ih hrest _ (anyEndlessEntry_put hdone hfirst)
  exact hfold [] rfl

/-- A reader that gives a value that ends and leaves tokens that do. -/
def Leaves (read : Option (Data × List Token)) : Prop :=
  ∀ value rest, read = some (value, rest) →
    value.isEndless = false ∧ ∀ token ∈ rest, Ends token

lemma leaves_of_eq {left : List Token} (hvalue : value.isEndless = false)
    (hleft : ∀ token ∈ left, Ends token) : Leaves (some (value, left)) := by
  intro value' rest h
  obtain ⟨rfl, rfl⟩ := Prod.mk.inj (Option.some.inj h)
  exact ⟨hvalue, hleft⟩

lemma leaves_none : Leaves none := fun _ _ h => by cases h

lemma readItems_leaves {done : List Data} (hvalues : Leaves (readValue n tokens))
    (hitems : ∀ done tokens, (∀ item ∈ done, isEndless item = false) →
      (∀ token ∈ tokens, Ends token) → Leaves (readItems n done tokens))
    (hdone : ∀ item ∈ done, isEndless item = false) :
    Leaves (readItems (n + 1) done tokens) := by
  rw [readItems]
  split
  · rename_i value left hread
    obtain ⟨hvalue, hleft⟩ := hvalues _ _ hread
    refine hitems _ _ (List.forall_mem_cons.mpr ⟨hvalue, hdone⟩) ?_
    exact (List.forall_mem_cons.mp hleft).2
  · rename_i value left hread
    obtain ⟨hvalue, hleft⟩ := hvalues _ _ hread
    refine leaves_of_eq (anyEndless_iff.mpr fun item hitem => ?_) (List.forall_mem_cons.mp hleft).2
    rcases List.mem_cons.mp (List.mem_reverse.mp hitem) with rfl | hitem
    · exact hvalue
    · exact hdone item hitem
  · exact leaves_none

lemma readMembers_leaves {done : List (Data × Data)}
    (hvalues : ∀ tokens, (∀ token ∈ tokens, Ends token) → Leaves (readValue n tokens))
    (hmembers : ∀ done tokens, (∀ entry ∈ done, isEndless entry.2 = false) →
      (∀ token ∈ tokens, Ends token) → Leaves (readMembers n done tokens))
    (hdone : ∀ entry ∈ done, isEndless entry.2 = false) (htokens : ∀ token ∈ tokens, Ends token) :
    Leaves (readMembers (n + 1) done tokens) := by
  unfold readMembers
  split
  · rename_i m name after hm
    cases hm
    have hafter := (List.forall_mem_cons.mp (List.forall_mem_cons.mp htokens).2).2
    split
    · rename_i value left hread
      obtain ⟨hvalue, hleft⟩ := hvalues _ hafter _ _ hread
      refine hmembers _ _ (List.forall_mem_cons.mpr ⟨hvalue, hdone⟩) ?_
      exact (List.forall_mem_cons.mp hleft).2
    · rename_i value left hread
      obtain ⟨hvalue, hleft⟩ := hvalues _ hafter _ _ hread
      refine leaves_of_eq (anyEndlessEntry_ofEntries fun entry hentry => ?_)
        (List.forall_mem_cons.mp hleft).2
      rcases List.mem_cons.mp (List.mem_reverse.mp hentry) with rfl | hentry
      · exact hvalue
      · exact hdone entry hentry
    · exact leaves_none
  · exact leaves_none

lemma readValue_leaves
    (hitems : ∀ tokens, (∀ token ∈ tokens, Ends token) → Leaves (readItems n [] tokens))
    (hmembers : ∀ tokens, (∀ token ∈ tokens, Ends token) → Leaves (readMembers n [] tokens))
    (htokens : ∀ token ∈ tokens, Ends token) : Leaves (readValue (n + 1) tokens) := by
  unfold readValue
  split
  · exact leaves_of_eq rfl (List.forall_mem_cons.mp htokens).2
  · obtain ⟨hvalue, hrest⟩ := List.forall_mem_cons.mp htokens
    exact leaves_of_eq hvalue hrest
  · exact leaves_of_eq rfl (List.forall_mem_cons.mp (List.forall_mem_cons.mp htokens).2).2
  · rename_i m left hopen hm
    cases hm
    exact hitems _ (List.forall_mem_cons.mp htokens).2
  · exact leaves_of_eq rfl (List.forall_mem_cons.mp (List.forall_mem_cons.mp htokens).2).2
  · rename_i m left hopen hm
    cases hm
    exact hmembers _ (List.forall_mem_cons.mp htokens).2
  · exact leaves_none

lemma readers_leave (n : Nat) :
    (∀ tokens, (∀ token ∈ tokens, Ends token) → Leaves (readValue n tokens)) ∧
    (∀ done tokens, (∀ item ∈ done, isEndless item = false) → (∀ token ∈ tokens, Ends token) →
      Leaves (readItems n done tokens)) ∧
    ∀ done tokens, (∀ entry ∈ done, isEndless entry.2 = false) → (∀ token ∈ tokens, Ends token) →
      Leaves (readMembers n done tokens) := by
  -- All three at once, since each calls another one with a smaller bound.
  induction n with
  | zero =>
    refine ⟨fun tokens _ => ?_, fun done tokens _ _ => ?_, fun done tokens _ _ => ?_⟩
    · simpa [readValue] using leaves_none
    · simpa [readItems] using leaves_none
    · simpa [readMembers] using leaves_none
  | succ n ih =>
    obtain ⟨hvalues, hitems, hmembers⟩ := ih
    refine ⟨fun tokens htokens => ?_, fun done tokens hdone htokens => ?_,
      fun done tokens hdone htokens => ?_⟩
    · refine readValue_leaves (fun left hleft => ?_) (fun left hleft => ?_) htokens
      · exact hitems [] left (List.forall_mem_nil _) hleft
      · exact hmembers [] left (List.forall_mem_nil _) hleft
    · exact readItems_leaves (hvalues tokens htokens) hitems hdone
    · exact readMembers_leaves hvalues hmembers hdone htokens

/-- What is read from JSON ends. -/
lemma read?_finite (h : Json.read? limit s = some value) : value.isEndless = false := by
  obtain ⟨tokens, htokens, h⟩ := Option.bind_eq_some_iff.mp h
  split at h
  · rename_i found hread
    obtain rfl := Option.some.inj h
    exact ((readers_leave _).1 tokens (lex_ends htokens) _ _ hread).1
  · cases h

/-! ### Fields -/

/-- A variable that sets a field, or what is in one, and should be JSON but is not. -/
def Garbled (limit : Number.DigitLimit) (lead : String) (shape : Shape)
    (variable_ : String × String) : Prop :=
  ∃ rest, Text.dropLead? lead.toList variable_.1.toList = some rest ∧
    (shapeAt (some shape) ((nameParts rest).map String.ofList)).any Shape.isJson = true ∧
    variable_.2 ≠ "" ∧ Json.read? limit variable_.2 = none

lemma variableValue_eq_none {shape : Option Shape} :
    variableValue limit shape s = none ↔
      shape.any Shape.isJson = true ∧ s ≠ "" ∧ Json.read? limit s = none := by
  unfold variableValue
  by_cases hjson : shape.any Shape.isJson = true <;> by_cases hempty : s = "" <;>
    simp [hjson, hempty]

lemma variableValue_finite {shape : Option Shape} (h : variableValue limit shape s = some value) :
    value.isEndless = false := by
  unfold variableValue at h
  split at h
  · exact read?_finite h
  · obtain rfl := Option.some.inj h
    rfl

lemma setAt_finite {way : List String} (hvalue : value.isEndless = false)
    (h : anyEndlessEntry entries = false) :
    anyEndlessEntry (setAt name value way entries) = false := by
  induction way generalizing entries with
  | nil => exact anyEndlessEntry_put h hvalue
  | cons step way ih =>
    rw [setAt]
    split
    · exact anyEndlessEntry_put h (ih rfl)
    · rename_i inner hfound
      exact anyEndlessEntry_put h (ih (isEndless_of_lookup? h hfound))
    · exact h

lemma fieldVariables_finite (h : anyEndlessEntry entries = false)
    (hread : fieldVariables limit lead shape env entries = some result) :
    anyEndlessEntry result = false := by
  induction env generalizing entries with
  | nil =>
    obtain rfl := Option.some.inj hread
    exact h
  | cons variable_ env ih =>
    rw [fieldVariables] at hread
    split at hread
    · exact ih h hread
    · obtain ⟨value, hvalue, hread⟩ := Option.bind_eq_some_iff.mp hread
      exact ih (setAt_finite (variableValue_finite hvalue) h) hread

lemma fieldVariables_eq_none : fieldVariables limit lead shape env entries = none ↔
    ∃ variable_ ∈ env, Garbled limit lead shape variable_ := by
  induction env generalizing entries with
  | nil => simp [fieldVariables]
  | cons variable_ env ih =>
    have hcons : (∃ v ∈ variable_ :: env, Garbled limit lead shape v) ↔
        Garbled limit lead shape variable_ ∨ ∃ v ∈ env, Garbled limit lead shape v := by
      simp only [List.mem_cons, exists_eq_or_imp]
    rw [fieldVariables, hcons]
    split
    · rename_i hother
      rw [ih, or_iff_right]
      rintro ⟨rest, hlead, -⟩
      cases hother.symm.trans hlead
    · rename_i rest hlead
      have hfirst : Garbled limit lead shape variable_ ↔
          variableValue limit (shapeAt (some shape) ((nameParts rest).map String.ofList))
            variable_.2 = none := by
        rw [variableValue_eq_none, Garbled]
        constructor
        · rintro ⟨rest', hlead', hgarbled⟩
          obtain rfl := Option.some.inj (hlead.symm.trans hlead')
          exact hgarbled
        · exact fun hgarbled => ⟨rest, hlead, hgarbled⟩
      dsimp only
      cases hvalue : variableValue limit (shapeAt (some shape) ((nameParts rest).map String.ofList))
          variable_.2 with
      | none => exact iff_of_true rfl (.inl (hfirst.mpr hvalue))
      | some value =>
        have hnot : ¬Garbled limit lead shape variable_ := by
          rw [hfirst, hvalue]
          exact Option.some_ne_none value
        rw [or_iff_right hnot]
        exact ih

/-! ### Sections -/

/-- A section that cannot be read: its own variable is no JSON, or it has fields to read and one of
their variables is garbled. -/
def Unreadable (limit : Number.DigitLimit) (env : Environment) (name : String) (shape : Shape) :
    Prop :=
  (∃ s, env.get? (variableLead ++ name) = some s ∧ Json.read? limit s = none) ∨
  ((∀ s, env.get? (variableLead ++ name) = some s →
      ∃ entries, Json.read? limit s = some (.map entries)) ∧
    ∃ variable_ ∈ env, Garbled limit (variableLead ++ name ++ "__") shape variable_)

lemma sectionVariables_fails : sectionVariables limit env name shape = .error f ↔
    f = .badSetting name ∧ Unreadable limit env name shape := by
  have hfields : fieldVariables limit (variableLead ++ name ++ "__") shape env [] = none ↔
      ∃ variable_ ∈ env, Garbled limit (variableLead ++ name ++ "__") shape variable_ :=
    fieldVariables_eq_none
  unfold sectionVariables Unreadable
  dsimp only
  cases hown : env.get? (variableLead ++ name) with
  | none =>
    rw [← hfields]
    cases fieldVariables limit (variableLead ++ name ++ "__") shape env [] with
    | none => simp [eq_comm]
    | some entries => cases entries <;> simp
  | some s =>
    cases hread : Json.read? limit s with
    | none => simp [hread, eq_comm]
    | some value =>
      cases value with
      | map entries =>
        rw [← hfields]
        cases hupper : fieldVariables limit (variableLead ++ name ++ "__") shape env [] with
        | none => simp [hread, eq_comm]
        | some upper =>
          -- Neither of the two holds itself, so they are merged.
          obtain ⟨merged, hmerged, -⟩ : ∃ merged, mergeEntries entries upper = .ok merged ∧
              anyEndlessEntry merged = false :=
            mergeEntriesBy_of_finite (read?_finite hread) (fieldVariables_finite rfl hupper)
          simp [hread, hmerged, ok_bind]
      | null => simp [hread]
      | _ => simp [hread]

lemma mapM_eq_error {g : α → Except ε β} {items : List α} : items.mapM g = .error e ↔
    ∃ before item after, items = before ++ item :: after ∧ (∀ b ∈ before, ∃ r, g b = .ok r) ∧
      g item = .error e := by
  induction items with
  | nil =>
    refine iff_of_false (fun h => by cases h) ?_
    rintro ⟨before, item, after, heq, -⟩
    exact absurd heq.symm (List.append_ne_nil_of_right_ne_nil before (List.cons_ne_nil item after))
  | cons first items ih =>
    rw [List.mapM_cons]
    cases hfirst : g first with
    | error d =>
      constructor
      · intro h
        obtain rfl := Except.error.inj h
        exact ⟨[], first, items, rfl, List.forall_mem_nil _, hfirst⟩
      · rintro ⟨before, item, after, heq, hbefore, hitem⟩
        cases before with
        | nil =>
          obtain ⟨rfl, rfl⟩ := List.cons.inj heq
          obtain rfl := Except.error.inj (hfirst.symm.trans hitem)
          rfl
        | cons b before =>
          obtain ⟨rfl, -⟩ := List.cons.inj heq
          obtain ⟨r, hr⟩ := hbefore _ List.mem_cons_self
          cases hfirst.symm.trans hr
    | ok r =>
      have hrest : (Except.ok r >>= fun r => do
          let rs ← items.mapM g
          pure (r :: rs)) = .error e ↔ items.mapM g = .error e := by
        cases items.mapM g <;> simp [bind, Except.bind, pure, Except.pure]
      rw [hrest, ih]
      constructor
      · rintro ⟨before, item, after, rfl, hbefore, hitem⟩
        exact ⟨first :: before, item, after, rfl, List.forall_mem_cons.mpr ⟨⟨r, hfirst⟩, hbefore⟩,
          hitem⟩
      · rintro ⟨before, item, after, heq, hbefore, hitem⟩
        cases before with
        | nil =>
          obtain ⟨rfl, rfl⟩ := List.cons.inj heq
          cases hfirst.symm.trans hitem
        | cons b before =>
          obtain ⟨rfl, rfl⟩ := List.cons.inj heq
          exact ⟨before, item, after, rfl, (List.forall_mem_cons.mp hbefore).2, hitem⟩

/-- The first section that cannot be read. -/
def FirstUnreadable (limit : Number.DigitLimit) (env : Environment) (name : String) : Prop :=
  ∃ before shape after, sections = before ++ (name, shape) :: after ∧
    Unreadable limit env name shape ∧ ∀ section_ ∈ before, ¬Unreadable limit env section_.1 section_.2

/-- The environment gives a layer unless a section cannot be read, and the first one is told. -/
lemma environmentLayer_fails : environmentLayer limit env = .error f ↔
    ∃ name, FirstUnreadable limit (lowerNames env) name ∧ f = .badSetting name := by
  let read (section_ : String × Shape) : Except Fault (Option (Data × Data)) :=
    sectionVariables limit (lowerNames env) section_.1 section_.2 >>= fun value =>
      .ok (value.map fun v => (Data.text section_.1, v))
  have hread : ∀ section_ f, read section_ = .error f ↔
      f = .badSetting section_.1 ∧ Unreadable limit (lowerNames env) section_.1 section_.2 := by
    intro section_ f
    rw [← sectionVariables_fails]
    cases hvalue : sectionVariables limit (lowerNames env) section_.1 section_.2 <;>
      simp [read, hvalue, bind, Except.bind]
  have hgiven : ∀ section_, (∃ r, read section_ = .ok r) ↔
      ¬Unreadable limit (lowerNames env) section_.1 section_.2 := by
    intro section_
    cases hcase : read section_ with
    | ok r =>
      refine iff_of_true ⟨r, rfl⟩ fun hunreadable => ?_
      cases hcase.symm.trans ((hread section_ _).mpr ⟨rfl, hunreadable⟩)
    | error f =>
      refine iff_of_false (fun ⟨r, hr⟩ => by cases hr) fun hreadable => ?_
      exact hreadable ((hread section_ f).mp hcase).2
  have hlayer : environmentLayer limit env = .error f ↔ sections.mapM read = .error f := by
    change (sections.mapM read >>= fun values => .ok (values.filterMap id)) = _ ↔ _
    cases sections.mapM read <;> simp [bind, Except.bind]
  rw [hlayer, mapM_eq_error]
  constructor
  · rintro ⟨before, section_, after, hsections, hbefore, hfails⟩
    obtain ⟨rfl, hunreadable⟩ := (hread section_ f).mp hfails
    exact ⟨section_.1, ⟨before, section_.2, after, hsections, hunreadable, fun b hb =>
      (hgiven b).mp (hbefore b hb)⟩, rfl⟩
  · rintro ⟨name, ⟨before, shape, after, hsections, hunreadable, hbefore⟩, rfl⟩
    exact ⟨before, (name, shape), after, hsections, fun b hb => (hgiven b).mpr (hbefore b hb),
      (hread (name, shape) _).mpr ⟨rfl, hunreadable⟩⟩

end TestImpact.Proofs
