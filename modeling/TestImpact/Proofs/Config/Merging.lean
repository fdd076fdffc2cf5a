import TestImpact.Config.Merge
import TestImpact.Proofs.Data.Keys
import TestImpact.Proofs.Results

/-!
# Merged mappings

A value is looked up along a way of keys. What a merged mapping holds at the end of a way is what the
upper mapping holds there, or else what the lower one holds, and where both hold a mapping it is one
merged of the two.
-/

namespace TestImpact.Proofs
open Data

variable {base upper merged value inner : Data} {below above entries : List (Data × Data)}
  {key k : Data} {way : List Data} {n : Nat}
  {opened : List (Data × Data) → List (Data × Data) → Except Fault (List (Data × Data))}

/-! ### Ways -/

/-- The value at the end of a way of keys. -/
def valueAt : List Data → Data → Option Data
  | [], value => some value
  | key :: way, value => (lookup? key value.untie.entries).bind (valueAt way)

/-- A mapping, also one that holds itself. -/
def IsMapping (value : Data) : Prop := ∃ entries, value.untie = .map entries

/-- All mappings inside a value have each of their keys once. -/
def IsNested (value : Data) : Prop :=
  ∀ way inner, valueAt way value = some inner → HasKeys inner.untie.entries

/-- No way leads to a mapping in one value and to something else in the other. -/
def Agree (a b : Data) : Prop :=
  ∀ way inner inner', valueAt way a = some inner → valueAt way b = some inner' →
    (IsMapping inner ↔ IsMapping inner')

attribute [local simp] valueAt lookup? put untie isEndless anyEndlessEntry

lemma text_not_isMapping (s : String) : ¬IsMapping (.text s) := by
  rintro ⟨entries, h⟩
  cases h

lemma entries_of_not_isMapping (h : ¬IsMapping value) : value.untie.entries = [] := by
  cases hopen : value.untie with
  | map entries => exact absurd ⟨entries, hopen⟩ h
  | _ => rfl

lemma valueAt_of_not_isMapping (h : ¬IsMapping value) (key : Data) (way : List Data) :
    valueAt (key :: way) value = none := by
  rw [valueAt, entries_of_not_isMapping h]
  rfl

lemma valueAt_append (way way' : List Data) (value : Data) :
    valueAt (way ++ way') value = (valueAt way value).bind (valueAt way') := by
  induction way generalizing value with
  | nil => rfl
  | cons key way ih =>
    rw [List.cons_append, valueAt, valueAt, Option.bind_assoc]
    exact congrArg _ (funext ih)

lemma IsNested.sub (h : IsNested value) (hway : valueAt way value = some inner) :
    IsNested inner := by
  intro way' last hlast
  refine h (way ++ way') last ?_
  rw [valueAt_append, hway]
  exact hlast

lemma IsNested.keys (h : IsNested value) (hopen : value.untie = .map entries) :
    HasKeys entries := by
  have hroot := h [] value rfl
  rwa [hopen] at hroot

lemma Agree.sub {a b a' b' : Data} (h : Agree a b) (ha : valueAt way a = some a')
    (hb : valueAt way b = some b') : Agree a' b' := by
  intro way' last last' hlast hlast'
  refine h (way ++ way') last last' ?_ ?_
  · rw [valueAt_append, ha]
    exact hlast
  · rw [valueAt_append, hb]
    exact hlast'

lemma Agree.symm {a b : Data} (h : Agree a b) : Agree b a :=
  fun way _ _ hb ha => (h way _ _ ha hb).symm

lemma valueAt_single (h : value.untie = .map entries) :
    valueAt [key] value = lookup? key entries := by
  rw [valueAt, h]
  exact Option.bind_fun_some _

lemma value_of_lookup? (h : lookup? key entries = some value) : ∃ e ∈ entries, e.2 = value := by
  induction entries with
  | nil => cases h
  | cons e entries ih =>
    rw [lookup?] at h
    split at h
    · exact ⟨e, List.mem_cons_self, Option.some.inj h⟩
    · obtain ⟨f, hf, hvalue⟩ := ih h
      exact ⟨f, List.mem_cons_of_mem e hf, hvalue⟩

lemma value_of_lookup?_single {old : Data} (h : lookup? key [(k, old)] = some value) :
    value = old := by
  obtain ⟨e, he, rfl⟩ := value_of_lookup? h
  rw [List.mem_singleton.mp he]

lemma isNested_map (hkeys : HasKeys entries) (hvalues : ∀ e ∈ entries, IsNested e.2) :
    IsNested (.map entries) := by
  intro way last hlast
  cases way with
  | nil =>
    obtain rfl := Option.some.inj hlast
    exact hkeys
  | cons key way =>
    obtain ⟨value, hvalue, hlast⟩ := Option.bind_eq_some_iff.mp hlast
    obtain ⟨e, he, rfl⟩ := value_of_lookup? hvalue
    exact hvalues e he way last hlast

lemma isNested_of_not_isMapping (h : ¬IsMapping value) : IsNested value := by
  intro way last hlast
  cases way with
  | nil =>
    obtain rfl := Option.some.inj hlast
    rw [entries_of_not_isMapping h]
    exact ⟨fun e he => absurd he List.not_mem_nil, List.Pairwise.nil⟩
  | cons key way =>
    rw [valueAt_of_not_isMapping h] at hlast
    cases hlast

lemma agree_map (h : ∀ key a b, lookup? key below = some a → lookup? key above = some b → Agree a b) :
    Agree (.map below) (.map above) := by
  intro way found found' hfound hfound'
  cases way with
  | nil =>
    obtain rfl := Option.some.inj hfound
    obtain rfl := Option.some.inj hfound'
    exact iff_of_true ⟨below, rfl⟩ ⟨above, rfl⟩
  | cons key way =>
    obtain ⟨a, ha, hfound⟩ := Option.bind_eq_some_iff.mp hfound
    obtain ⟨b, hb, hfound'⟩ := Option.bind_eq_some_iff.mp hfound'
    exact h key a b ha hb way found found' hfound hfound'

lemma agree_of_not_isMapping {a b : Data} (ha : ¬IsMapping a) (hb : ¬IsMapping b) : Agree a b := by
  intro way found found' hfound hfound'
  cases way with
  | nil =>
    obtain rfl := Option.some.inj hfound
    obtain rfl := Option.some.inj hfound'
    exact iff_of_false ha hb
  | cons key way =>
    rw [valueAt_of_not_isMapping ha] at hfound
    cases hfound

/-! ### One step of merging -/

/-- A value that two others are merged to. -/
def IsMerge (base upper merged : Data) : Prop :=
  ∃ n, mergeBy (mergeEntriesWithin n) base upper = .ok merged

/-- What is found in a merged mapping, beside what is found in the lower and in the upper one. -/
inductive Joined : Option Data → Option Data → Option Data → Prop
  | lower (found : Option Data) : Joined found none found
  | upper (found : Option Data) : Joined none found found
  | both {base upper merged : Data} (h : IsMerge base upper merged) :
      Joined (some base) (some upper) (some merged)

/-- What stands under a key of merged entries, with the way in which mappings on top that hold
themselves are opened. -/
inductive JoinedBy
    (opened : List (Data × Data) → List (Data × Data) → Except Fault (List (Data × Data))) :
    Option Data → Option Data → Option Data → Prop
  | lower (found : Option Data) : JoinedBy opened found none found
  | upper (found : Option Data) : JoinedBy opened none found found
  | both {base upper merged : Data} (h : mergeBy opened base upper = .ok merged) :
      JoinedBy opened (some base) (some upper) (some merged)

lemma JoinedBy.joined {low high found : Option Data}
    (h : JoinedBy (mergeEntriesWithin n) low high found) : Joined low high found := by
  cases h with
  | lower => exact .lower _
  | upper => exact .upper _
  | both hmerge => exact .both ⟨n, hmerge⟩

lemma JoinedBy.eq_lower {low found : Option Data} (h : JoinedBy opened low none found) :
    found = low := by
  cases h <;> rfl

attribute [local simp] mergeBy mergeEntriesBy

lemma mergeBy_of_not_both (h : ¬(IsMapping base ∧ IsMapping upper)) :
    mergeBy opened base upper = .ok upper := by
  cases upper with
  | map above =>
    rw [mergeBy]
    split
    · rename_i below hbelow
      exact absurd ⟨⟨below, hbelow⟩, above, rfl⟩ h
    · rfl
  | knot label value =>
    rw [mergeBy]
    split
    · rename_i below above hbelow habove
      exact absurd ⟨⟨below, hbelow⟩, above, habove⟩ h
    · rfl
  | _ => rw [mergeBy] <;> simp

lemma mergeBy_of_both (hbase : base.untie = .map below) (hupper : upper.untie = .map above) :
    mergeBy opened base upper = map <$> mergeEntriesBy opened below above ∨
      mergeBy opened base upper = map <$> opened below above := by
  cases upper with
  | map above' =>
    obtain rfl : above' = above := map.inj hupper
    rw [mergeBy, hbase]
    exact .inl rfl
  | knot label value =>
    rw [mergeBy, hbase, hupper]
    exact .inr rfl
  | _ => cases hupper

/-- Two mappings are merged entry by entry, and otherwise the upper value stays. -/
lemma mergeBy_cases (h : mergeBy (mergeEntriesWithin n) base upper = .ok merged) :
    (∃ m below above entries, m ≤ n ∧ base.untie = .map below ∧ upper.untie = .map above ∧
        merged = .map entries ∧ mergeEntriesBy (mergeEntriesWithin m) below above = .ok entries) ∨
      ¬(IsMapping base ∧ IsMapping upper) ∧ merged = upper := by
  by_cases hboth : IsMapping base ∧ IsMapping upper
  · obtain ⟨⟨below, hbelow⟩, above, habove⟩ := hboth
    refine .inl ?_
    have hsteps : mergeBy (mergeEntriesWithin n) base upper =
          map <$> mergeEntriesBy (mergeEntriesWithin n) below above ∨
        mergeBy (mergeEntriesWithin n) base upper = map <$> mergeEntriesWithin n below above :=
      mergeBy_of_both hbelow habove
    rcases hsteps with heq | heq
    · obtain ⟨entries, hentries, rfl⟩ := map_eq_ok.mp (heq.symm.trans h)
      exact ⟨n, below, above, entries, Nat.le_refl n, hbelow, habove, rfl, hentries⟩
    · obtain ⟨entries, hentries, rfl⟩ := map_eq_ok.mp (heq.symm.trans h)
      cases n with
      | zero => cases hentries
      | succ n => exact ⟨n, below, above, entries, Nat.le_succ n, hbelow, habove, rfl, hentries⟩
  · rw [mergeBy_of_not_both hboth] at h
    exact .inr ⟨hboth, (Except.ok.inj h).symm⟩

lemma merge_cases (h : IsMerge base upper merged) :
    (∃ n below above entries, base.untie = .map below ∧ upper.untie = .map above ∧
        merged = .map entries ∧ mergeEntriesBy (mergeEntriesWithin n) below above = .ok entries) ∨
      ¬(IsMapping base ∧ IsMapping upper) ∧ merged = upper := by
  obtain ⟨n, h⟩ := h
  rcases mergeBy_cases h with ⟨m, below, above, entries, -, hrest⟩ | hupper
  · exact .inl ⟨m, below, above, entries, hrest⟩
  · exact .inr hupper

lemma mergeEntriesBy_new (h : lookup? key below = none) :
    mergeEntriesBy opened below ((key, value) :: above) =
      mergeEntriesBy opened (put key value below) above := by
  rw [mergeEntriesBy, h]
  rfl

lemma mergeEntriesBy_old {old : Data} (h : lookup? key below = some old) :
    mergeEntriesBy opened below ((key, value) :: above) =
      mergeBy opened old value >>= fun m => mergeEntriesBy opened (put key m below) above := by
  rw [mergeEntriesBy, h]

lemma mergeEntriesBy_cons (h : mergeEntriesBy opened below ((key, value) :: above) = .ok entries) :
    ∃ m, mergeEntriesBy opened (put key m below) above = .ok entries ∧
      ((lookup? key below = none ∧ m = value) ∨
        ∃ old, lookup? key below = some old ∧ mergeBy opened old value = .ok m) := by
  cases hfound : lookup? key below with
  | none =>
    rw [mergeEntriesBy_new hfound] at h
    exact ⟨value, h, .inl ⟨rfl, rfl⟩⟩
  | some old =>
    rw [mergeEntriesBy_old hfound] at h
    obtain ⟨m, hm, hrest⟩ := bind_eq_ok.mp h
    exact ⟨m, hrest, .inr ⟨old, rfl, hm⟩⟩

lemma HasKeys.merge (hbelow : HasKeys below) (habove : ∀ e ∈ above, isKey e.1 = true)
    (h : mergeEntriesBy opened below above = .ok entries) : HasKeys entries := by
  induction above generalizing below with
  | nil =>
    rw [mergeEntriesBy] at h
    exact Except.ok.inj h ▸ hbelow
  | cons e above ih =>
    obtain ⟨hkey, hrest⟩ := List.forall_mem_cons.mp habove
    obtain ⟨m, hmerged, -⟩ := mergeEntriesBy_cons h
    exact ih (hbelow.put hkey m) hrest hmerged

/-- What is found under a key of merged entries. -/
lemma lookup?_joinedBy (hbelow : HasKeys below) (habove : HasKeys above)
    (h : mergeEntriesBy opened below above = .ok entries) (k : Data) :
    JoinedBy opened (lookup? k below) (lookup? k above) (lookup? k entries) := by
  induction above generalizing below with
  | nil =>
    rw [mergeEntriesBy] at h
    obtain rfl := Except.ok.inj h
    exact .lower _
  | cons e above ih =>
    obtain ⟨key, value⟩ := e
    have hkey : isKey key = true := habove.keys (key, value) List.mem_cons_self
    obtain ⟨hapart, -⟩ := List.pairwise_cons.mp habove.once
    obtain ⟨m, hmerged, hm⟩ := mergeEntriesBy_cons h
    have hjoined := ih (hbelow.put hkey m) habove.tail hmerged
    rw [lookup?_put hbelow.keys hkey] at hjoined
    rw [lookup?]
    by_cases hsame : key.same k = true
    · -- No other entry of the upper mapping has this key.
      have hnone : lookup? k above = none := by
        refine lookup?_eq_none fun f hf => Bool.eq_false_iff.mpr fun hother => ?_
        have hcongr := same_congr hkey (habove.tail.keys f hf) hother
        rw [hapart f hf, hsame] at hcongr
        cases hcongr
      rw [if_pos hsame, hnone] at hjoined
      rw [if_pos hsame, hjoined.eq_lower, ← lookup?_congr hbelow.keys hkey hsame]
      rcases hm with ⟨hlacks, rfl⟩ | ⟨old, hold, hm⟩
      · rw [hlacks]
        exact .upper _
      · rw [hold]
        exact .both hm
    · rw [if_neg hsame] at hjoined ⊢
      exact hjoined

/-! ### Along a way -/

/-- What is found in a merged value at the end of a way. -/
lemma valueAt_joined (h : IsMerge base upper merged) (hbase : IsNested base)
    (hupper : IsNested upper) (hagree : Agree base upper) (way : List Data) :
    Joined (valueAt way base) (valueAt way upper) (valueAt way merged) := by
  induction way generalizing base upper merged with
  | nil => exact .both h
  | cons key way ih =>
    rcases merge_cases h with
      ⟨n, below, above, entries, hbelow, habove, rfl, hentries⟩ | ⟨hboth, rfl⟩
    · have hjoined :=
        (lookup?_joinedBy (hbase.keys hbelow) (hupper.keys habove) hentries key).joined
      rw [valueAt, valueAt, valueAt, hbelow, habove]
      simp only [untie, Data.entries]
      generalize hlow : lookup? key below = low at hjoined ⊢
      generalize hhigh : lookup? key above = high at hjoined ⊢
      generalize lookup? key entries = found at hjoined ⊢
      cases hjoined with
      | lower => exact .lower _
      | upper => exact .upper _
      | both hmerge =>
        rw [← valueAt_single hbelow] at hlow
        rw [← valueAt_single habove] at hhigh
        exact ih hmerge (hbase.sub hlow) (hupper.sub hhigh) (hagree.sub hlow hhigh)
    · -- By agreement neither value is a mapping, so nothing stands behind a key of it.
      have hroot := hagree [] base merged rfl rfl
      have hbase' : ¬IsMapping base := fun hmapping => hboth ⟨hmapping, hroot.mp hmapping⟩
      have hupper' : ¬IsMapping merged := fun hmapping => hboth ⟨hroot.mpr hmapping, hmapping⟩
      rw [valueAt_of_not_isMapping hbase', valueAt_of_not_isMapping hupper']
      exact .lower _

/-- Merging leaves the kind of what is found. -/
lemma Joined.isMapping_iff {low high : Option Data} {found : Data}
    (h : Joined low high (some found)) :
    ∃ source, (low = some source ∨ high = some source) ∧ (IsMapping found ↔ IsMapping source) := by
  generalize hfound : some found = result at h
  cases h with
  | lower => exact ⟨found, .inl hfound.symm, .rfl⟩
  | upper => exact ⟨found, .inr hfound.symm, .rfl⟩
  | both hmerge =>
    obtain rfl := Option.some.inj hfound
    rename_i base upper
    refine ⟨upper, .inr rfl, ?_⟩
    rcases merge_cases hmerge with ⟨_, _, above, entries, -, habove, rfl, -⟩ | ⟨-, rfl⟩
    · exact iff_of_true ⟨entries, rfl⟩ ⟨above, habove⟩
    · rfl

lemma Joined.eq_none_iff {low high found : Option Data} (h : Joined low high found) :
    found = none ↔ low = none ∧ high = none := by
  cases h <;> simp

/-- Where the upper value is no mapping it is what is found. -/
lemma Joined.eq_or {low high found : Option Data} (h : Joined low high found)
    (hleaf : ∀ value, high = some value → ¬IsMapping value) : found = high.or low := by
  cases h with
  | lower => rfl
  | upper => rw [Option.or_none]
  | both hmerge =>
    rename_i base upper merged
    rcases merge_cases hmerge with ⟨_, _, above, _, -, habove, -, -⟩ | ⟨-, rfl⟩
    · exact absurd ⟨above, habove⟩ (hleaf upper rfl)
    · rfl

lemma IsNested.merge (h : IsMerge base upper merged) (hbase : IsNested base)
    (hupper : IsNested upper) (hagree : Agree base upper) : IsNested merged := by
  intro way last hlast
  have hjoined := valueAt_joined h hbase hupper hagree way
  rw [hlast] at hjoined
  generalize hlow : valueAt way base = low at hjoined
  generalize hhigh : valueAt way upper = high at hjoined
  cases hjoined with
  | lower => exact hbase way last hlow
  | upper => exact hupper way last hhigh
  | both hmerge =>
    rename_i old new
    rcases merge_cases hmerge with
      ⟨n, below, above, entries, hbelow, habove, rfl, hentries⟩ | ⟨-, rfl⟩
    · have hkeys := (hbase.sub hlow).keys hbelow
      exact hkeys.merge ((hupper.sub hhigh).keys habove).keys hentries
    · exact hupper way last hhigh

lemma Agree.merge {other : Data} (h : IsMerge base upper merged) (hbase : IsNested base)
    (hupper : IsNested upper) (hagree : Agree base upper) (hlow : Agree base other)
    (hhigh : Agree upper other) : Agree merged other := by
  intro way found found' hfound hfound'
  have hjoined := valueAt_joined h hbase hupper hagree way
  rw [hfound] at hjoined
  obtain ⟨source, hsource | hsource, hiff⟩ := hjoined.isMapping_iff
  · exact hiff.trans (hlow way source found' hsource hfound')
  · exact hiff.trans (hhigh way source found' hsource hfound')

/-! ### Mappings that do not hold themselves -/

lemma untie_of_finite (h : value.isEndless = false) : value.untie = value := by
  cases value <;> first | rfl | cases h

lemma anyEndlessEntry_put (hentries : anyEndlessEntry entries = false)
    (hvalue : value.isEndless = false) : anyEndlessEntry (put key value entries) = false := by
  induction entries with
  | nil => simp [hvalue]
  | cons e entries ih =>
    obtain ⟨k, old⟩ := e
    rw [anyEndlessEntry, Bool.or_eq_false_iff] at hentries
    rw [put]
    split
    · simp [hvalue, hentries.2]
    · simp [hentries.1, ih hentries.2]

lemma isEndless_of_lookup? (hentries : anyEndlessEntry entries = false)
    (h : lookup? key entries = some value) : value.isEndless = false := by
  induction entries with
  | nil => cases h
  | cons e entries ih =>
    obtain ⟨k, old⟩ := e
    rw [anyEndlessEntry, Bool.or_eq_false_iff] at hentries
    rw [lookup?] at h
    split at h
    · exact Option.some.inj h ▸ hentries.1
    · exact ih hentries.2 h

mutual

/-- Values without knots are merged, and no knot comes in. -/
lemma mergeBy_of_finite {base upper : Data} (hbase : base.isEndless = false)
    (hupper : upper.isEndless = false) :
    ∃ merged, mergeBy opened base upper = .ok merged ∧ merged.isEndless = false := by
  cases upper with
  | map above =>
    rw [mergeBy, untie_of_finite hbase]
    split
    · obtain ⟨entries, hentries, hfinite⟩ := mergeEntriesBy_of_finite hbase hupper
      exact ⟨.map entries, by rw [hentries]; rfl, hfinite⟩
    · exact ⟨.map above, rfl, hupper⟩
  | _ =>
    refine ⟨_, mergeBy_of_not_both ?_, hupper⟩
    rintro ⟨-, above, habove⟩
    cases (untie_of_finite hupper).symm.trans habove

lemma mergeEntriesBy_of_finite {below above : List (Data × Data)}
    (hbelow : anyEndlessEntry below = false) (habove : anyEndlessEntry above = false) :
    ∃ entries, mergeEntriesBy opened below above = .ok entries ∧
      anyEndlessEntry entries = false := by
  match above with
  | [] => exact ⟨below, by rw [mergeEntriesBy], hbelow⟩
  | (key, value) :: above =>
    rw [anyEndlessEntry, Bool.or_eq_false_iff] at habove
    cases hfound : lookup? key below with
    | none =>
      rw [mergeEntriesBy_new hfound]
      exact mergeEntriesBy_of_finite (anyEndlessEntry_put hbelow habove.1) habove.2
    | some old =>
      obtain ⟨merged, hmerged, hfinite⟩ :=
        mergeBy_of_finite (isEndless_of_lookup? hbelow hfound) habove.1
      rw [mergeEntriesBy_old hfound, hmerged]
      exact mergeEntriesBy_of_finite (anyEndlessEntry_put hbelow hfinite) habove.2

end

mutual

/-- Merging fails only where mappings go on together without end. -/
lemma mergeBy_fails {base upper : Data} {f : Fault}
    (hopened : ∀ below above f, opened below above = .error f → f = .tooDeep)
    (h : mergeBy opened base upper = .error f) : f = .tooDeep := by
  cases upper with
  | map above =>
    rw [mergeBy] at h
    split at h
    · exact mergeEntriesBy_fails hopened (map_eq_error.mp h)
    · cases h
  | knot label value =>
    rw [mergeBy] at h
    split at h
    · exact hopened _ _ _ (map_eq_error.mp h)
    · cases h
  | _ =>
    rw [mergeBy_of_not_both] at h
    · cases h
    · rintro ⟨-, above, habove⟩
      cases habove

lemma mergeEntriesBy_fails {below above : List (Data × Data)} {f : Fault}
    (hopened : ∀ below above f, opened below above = .error f → f = .tooDeep)
    (h : mergeEntriesBy opened below above = .error f) : f = .tooDeep := by
  match above with
  | [] =>
    rw [mergeEntriesBy] at h
    cases h
  | (key, value) :: above =>
    cases hfound : lookup? key below with
    | none =>
      rw [mergeEntriesBy_new hfound] at h
      exact mergeEntriesBy_fails hopened h
    | some old =>
      rw [mergeEntriesBy_old hfound] at h
      cases hmerged : mergeBy opened old value with
      | error g =>
        rw [hmerged] at h
        obtain rfl : g = f := Except.error.inj h
        exact mergeBy_fails hopened hmerged
      | ok m =>
        rw [hmerged] at h
        exact mergeEntriesBy_fails hopened h

end

lemma mergeEntriesWithin_fails {f : Fault} (h : mergeEntriesWithin n below above = .error f) :
    f = .tooDeep := by
  induction n generalizing below above f with
  | zero => exact (Except.error.inj h).symm
  | succ n ih => exact mergeEntriesBy_fails (fun _ _ _ => ih) h

/-! ### Merged layers -/

lemma mergeEntries_fails {f : Fault} (h : mergeEntries below above = .error f) : f = .tooDeep :=
  mergeEntriesBy_fails (fun _ _ _ => mergeEntriesWithin_fails) h

lemma isMerge_of_mergeEntries (h : mergeEntries below above = .ok entries) :
    IsMerge (.map below) (.map above) (.map entries) := by
  refine ⟨maxOpenings, ?_⟩
  rw [mergeBy]
  exact map_eq_ok.mpr ⟨entries, h, rfl⟩

end TestImpact.Proofs
