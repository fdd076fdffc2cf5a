import TestImpact.Proofs.Config.Merging

/-!
# One mapping over another

Merging is exact along every way of keys: a value on top that is no mapping is what is found and hides
all that stands behind it below, what the upper mapping does not reach is as it was below, and where
both hold a mapping their merge is found. So an empty mapping changes nothing on either side, and a
mapping that was put on top once changes nothing when it is put there again.
-/

namespace TestImpact.Proofs
open Data

variable {base upper merged value : Data} {below above entries : List (Data × Data)}
  {key : Data} {way : List Data} {n : Nat}
  {opened opened' : List (Data × Data) → List (Data × Data) → Except Fault (List (Data × Data))}

/-! ### Opening more often -/

/-- The second way to open mappings has every merge that the first one has. -/
def Extends
    (opened opened' : List (Data × Data) → List (Data × Data) → Except Fault (List (Data × Data))) :
    Prop :=
  ∀ below above entries, opened below above = .ok entries → opened' below above = .ok entries

mutual

lemma mergeBy_extends {base upper merged : Data} (hmore : Extends opened opened')
    (h : mergeBy opened base upper = .ok merged) : mergeBy opened' base upper = .ok merged := by
  by_cases hboth : IsMapping base ∧ IsMapping upper
  · obtain ⟨⟨below, hbelow⟩, above, habove⟩ := hboth
    cases upper with
    | map upper =>
      rw [mergeBy, hbelow] at h ⊢
      obtain ⟨entries, hentries, rfl⟩ := map_eq_ok.mp h
      exact map_eq_ok.mpr ⟨entries, mergeEntriesBy_extends hmore hentries, rfl⟩
    | knot label value =>
      rw [mergeBy, hbelow, habove] at h ⊢
      obtain ⟨entries, hentries, rfl⟩ := map_eq_ok.mp h
      exact map_eq_ok.mpr ⟨entries, hmore _ _ _ hentries, rfl⟩
    | _ => cases habove
  · rw [mergeBy_of_not_both hboth] at h ⊢
    exact h

lemma mergeEntriesBy_extends {below above entries : List (Data × Data)}
    (hmore : Extends opened opened') (h : mergeEntriesBy opened below above = .ok entries) :
    mergeEntriesBy opened' below above = .ok entries := by
  match above with
  | [] =>
    rw [mergeEntriesBy] at h ⊢
    exact h
  | (key, value) :: above =>
    obtain ⟨m, hrest, ⟨hnew, rfl⟩ | ⟨old, hold, hm⟩⟩ := mergeEntriesBy_cons h
    · rw [mergeEntriesBy_new hnew]
      exact mergeEntriesBy_extends hmore hrest
    · rw [mergeEntriesBy_old hold, mergeBy_extends hmore hm]
      exact mergeEntriesBy_extends hmore hrest

end

lemma mergeEntriesWithin_extends {m : Nat} (hle : n ≤ m) :
    Extends (mergeEntriesWithin n) (mergeEntriesWithin m) := by
  induction n generalizing m with
  | zero =>
    intro below above entries h
    cases h
  | succ n ih =>
    intro below above entries h
    cases m with
    | zero => omega
    | succ m => exact mergeEntriesBy_extends (ih (by omega)) h

/-- Entries that are merged with fewer openings are merged to the same with all. -/
lemma mergeEntries_of_le (hle : n ≤ maxOpenings)
    (h : mergeEntriesBy (mergeEntriesWithin n) below above = .ok entries) :
    mergeEntries below above = .ok entries :=
  mergeEntriesBy_extends (mergeEntriesWithin_extends hle) h

/-! ### Ways that end early -/

/-- On the way stands something that is no mapping. -/
def IsBlocked (way : List Data) (value : Data) : Prop :=
  ∃ lead rest inner, way = lead ++ rest ∧ rest ≠ [] ∧ valueAt lead value = some inner ∧
    ¬IsMapping inner

lemma valueAt_of_isBlocked (h : IsBlocked way value) : valueAt way value = none := by
  obtain ⟨lead, rest, inner, rfl, hrest, hinner, hleaf⟩ := h
  rw [valueAt_append, hinner]
  cases rest with
  | nil => exact absurd rfl hrest
  | cons key rest => exact valueAt_of_not_isMapping hleaf key rest

lemma isMapping_of_valueAt {inner : Data} (h : valueAt (key :: way) value = some inner) :
    IsMapping value := by
  by_cases hmapping : IsMapping value
  · exact hmapping
  · rw [valueAt_of_not_isMapping hmapping] at h
    cases h

lemma isBlocked_of_not_isMapping (h : ¬IsMapping value) : IsBlocked (key :: way) value :=
  ⟨[], key :: way, value, rfl, List.cons_ne_nil key way, rfl, h⟩

lemma valueAt_cons (hopen : value.untie = .map entries) (key : Data) (way : List Data) :
    valueAt (key :: way) value = (lookup? key entries).bind (valueAt way) := by
  rw [valueAt, hopen]
  rfl

/-- A way into a mapping is blocked behind its first key. -/
lemma isBlocked_cons (hopen : value.untie = .map entries) :
    IsBlocked (key :: way) value ↔
      ∃ inner, lookup? key entries = some inner ∧ IsBlocked way inner := by
  constructor
  · rintro ⟨lead, rest, last, hsplit, hrest, hlast, hleaf⟩
    cases lead with
    | nil =>
      obtain rfl := Option.some.inj hlast
      exact absurd ⟨entries, hopen⟩ hleaf
    | cons first lead =>
      obtain ⟨rfl, rfl⟩ := List.cons.inj hsplit
      rw [valueAt_cons hopen] at hlast
      obtain ⟨inner, hinner, hlast⟩ := Option.bind_eq_some_iff.mp hlast
      exact ⟨inner, hinner, lead, rest, last, rfl, hrest, hlast, hleaf⟩
  · rintro ⟨inner, hinner, lead, rest, last, rfl, hrest, hlast, hleaf⟩
    refine ⟨key :: lead, rest, last, rfl, hrest, ?_, hleaf⟩
    rw [valueAt_cons hopen, hinner]
    exact hlast

/-! ### What is found along a way -/

/-- What is found at the end of a way in two values of which one lies over the other. -/
structure Overlays (base upper : Data) (way : List Data) (found : Option Data) : Prop where
  /-- What is no mapping wins. -/
  leaf : ∀ value, valueAt way upper = some value → ¬IsMapping value → found = some value
  /-- Behind it nothing is found. -/
  hidden : IsBlocked way upper → found = none
  /-- What the upper value does not reach stays. -/
  kept : valueAt way upper = none → ¬IsBlocked way upper → found = valueAt way base
  /-- Two mappings are merged. -/
  both : ∀ old new below above, valueAt way base = some old → valueAt way upper = some new →
    old.untie = .map below → new.untie = .map above →
    ∃ entries, mergeEntries below above = .ok entries ∧ found = some (.map entries)
  /-- A mapping over anything else wins. -/
  fresh : ∀ new, valueAt way upper = some new → IsMapping new →
    (∀ old, valueAt way base = some old → ¬IsMapping old) → found = some new

/-- Where the upper value wins: nothing below shows through and no two mappings meet. -/
lemma Overlays.of_upper
    (happart : ∀ old new, valueAt way base = some old → valueAt way upper = some new →
      ¬(IsMapping old ∧ IsMapping new))
    (hnone : valueAt way upper = none → ¬IsBlocked way upper → valueAt way base = none) :
    Overlays base upper way (valueAt way upper) where
  leaf _ hvalue _ := hvalue
  hidden := valueAt_of_isBlocked
  kept hlacks hopen := hlacks.trans (hnone hlacks hopen).symm
  both old new below above hold hnew hbelow habove :=
    absurd ⟨⟨below, hbelow⟩, above, habove⟩ (happart old new hold hnew)
  fresh _ hnew _ _ := hnew

/-- Where the upper value does not reach. -/
lemma Overlays.of_lower (hlacks : valueAt way upper = none) (hopen : ¬IsBlocked way upper) :
    Overlays base upper way (valueAt way base) where
  leaf value hvalue := by
    rw [hlacks] at hvalue
    cases hvalue
  hidden hblocked := absurd hblocked hopen
  kept _ _ := rfl
  both old new below above _ hnew := by
    rw [hlacks] at hnew
    cases hnew
  fresh new hnew := by
    rw [hlacks] at hnew
    cases hnew

/-- Where two mappings meet at the end of the way. -/
lemma Overlays.of_both (hbelow : base.untie = .map below) (habove : upper.untie = .map above)
    (h : mergeEntries below above = .ok entries) :
    Overlays base upper [] (some (.map entries)) where
  leaf value hvalue hleaf := by
    obtain rfl := Option.some.inj hvalue
    exact absurd ⟨above, habove⟩ hleaf
  hidden hblocked := by
    have hnone := valueAt_of_isBlocked hblocked
    cases hnone
  kept hlacks := by cases hlacks
  both old new below' above' hold hnew hbelow' habove' := by
    obtain rfl := Option.some.inj hold
    obtain rfl := Option.some.inj hnew
    obtain rfl := map.inj (hbelow.symm.trans hbelow')
    obtain rfl := map.inj (habove.symm.trans habove')
    exact ⟨entries, h, rfl⟩
  fresh new _ _ hleaf := absurd ⟨below, hbelow⟩ (hleaf base rfl)

/-- Behind a key that both hold. -/
lemma Overlays.cons {low high : Data} {found : Option Data} (hbelow : base.untie = .map below)
    (habove : upper.untie = .map above) (hlow : lookup? key below = some low)
    (hhigh : lookup? key above = some high) (h : Overlays low high way found) :
    Overlays base upper (key :: way) found := by
  have hbase : valueAt (key :: way) base = valueAt way low := by
    rw [valueAt_cons hbelow, hlow]
    rfl
  have hupper : valueAt (key :: way) upper = valueAt way high := by
    rw [valueAt_cons habove, hhigh]
    rfl
  have hblocked : IsBlocked (key :: way) upper ↔ IsBlocked way high := by
    rw [isBlocked_cons habove, hhigh]
    simp
  constructor
  case leaf => exact hupper ▸ h.leaf
  case hidden => exact fun hhidden => h.hidden (hblocked.mp hhidden)
  case kept =>
    rw [hbase, hupper, hblocked]
    exact h.kept
  case both =>
    rw [hbase, hupper]
    exact h.both
  case fresh =>
    rw [hbase, hupper]
    exact h.fresh

/-- What is found in a merged value, by induction on the way: behind each key the two values that
stand there are merged. -/
lemma overlays_of_mergeBy (hle : n ≤ maxOpenings) (hbase : IsNested base) (hupper : IsNested upper)
    (h : mergeBy (mergeEntriesWithin n) base upper = .ok merged) (way : List Data) :
    Overlays base upper way (valueAt way merged) := by
  induction way generalizing base upper merged n with
  | nil =>
    rcases mergeBy_cases h with
      ⟨m, below, above, entries, hm, hbelow, habove, rfl, hentries⟩ | ⟨hboth, rfl⟩
    · exact .of_both hbelow habove (mergeEntries_of_le (by omega) hentries)
    · refine .of_upper (fun old new hold hnew => ?_) (fun hnone => by cases hnone)
      obtain rfl := Option.some.inj hold
      obtain rfl := Option.some.inj hnew
      exact hboth
  | cons key way ih =>
    rcases mergeBy_cases h with
      ⟨m, below, above, entries, hm, hbelow, habove, rfl, hentries⟩ | ⟨hboth, rfl⟩
    · have hjoined := lookup?_joinedBy (hbase.keys hbelow) (hupper.keys habove) hentries key
      have hlower := valueAt_cons hbelow key way
      have hhigher := valueAt_cons habove key way
      rw [valueAt_cons (show (Data.map entries).untie = .map entries from rfl) key way]
      generalize hlow : lookup? key below = low at hjoined hlower
      generalize hhigh : lookup? key above = high at hjoined hhigher
      generalize lookup? key entries = found at hjoined
      cases hjoined with
      | lower =>
        rw [← hlower]
        refine .of_lower hhigher fun hblocked => ?_
        obtain ⟨inner, hinner, -⟩ := (isBlocked_cons habove).mp hblocked
        rw [hhigh] at hinner
        cases hinner
      | upper =>
        rw [← hhigher]
        refine .of_upper (fun old new hold => ?_) fun _ _ => hlower
        rw [hlower] at hold
        cases hold
      | both hmerge =>
        have hbase' := hbase.sub ((valueAt_single hbelow).trans hlow)
        have hupper' := hupper.sub ((valueAt_single habove).trans hhigh)
        have hbehind := ih (Nat.le_trans hm hle) hbase' hupper' hmerge
        exact hbehind.cons hbelow habove hlow hhigh
    · -- One of the two values is no mapping, so no way leads into both.
      refine .of_upper (fun old new hold hnew _ => ?_) fun _ hopen => ?_
      · exact hboth ⟨isMapping_of_valueAt hold, isMapping_of_valueAt hnew⟩
      · refine valueAt_of_not_isMapping (fun hlow => ?_) key way
        exact hopen (isBlocked_of_not_isMapping fun hhigh => hboth ⟨hlow, hhigh⟩)

/-! ### Nothing on top, nothing below, the same on top again -/

lemma mergeBy_map_eq_ok :
    mergeBy opened (.map below) (.map above) = .ok (.map entries) ↔
      mergeEntriesBy opened below above = .ok entries := by
  rw [mergeBy]
  constructor
  · intro h
    obtain ⟨found, hfound, heq⟩ := map_eq_ok.mp h
    rw [map.inj heq]
    exact hfound
  · intro h
    exact map_eq_ok.mpr ⟨entries, h, rfl⟩

lemma put_append (hfresh : ∀ e ∈ entries, e.1.same key = false) :
    put key value entries = entries ++ [(key, value)] := by
  induction entries with
  | nil => rfl
  | cons e entries ih =>
    obtain ⟨hfirst, hrest⟩ := List.forall_mem_cons.mp hfresh
    rw [put, hfirst, if_neg Bool.false_ne_true, ih hrest]
    rfl

/-- Entries with keys of their own are added behind those that are there. -/
lemma mergeEntriesBy_append (hkeys : HasKeys (below ++ above)) :
    mergeEntriesBy opened below above = .ok (below ++ above) := by
  induction above generalizing below with
  | nil => rw [mergeEntriesBy, List.append_nil]
  | cons e above ih =>
    obtain ⟨key, value⟩ := e
    have hfresh : ∀ f ∈ below, f.1.same key = false := fun f hf =>
      (List.pairwise_append.mp hkeys.once).2.2 f hf (key, value) List.mem_cons_self
    rw [mergeEntriesBy_new (lookup?_eq_none hfresh), put_append hfresh, ih (by simpa using hkeys)]
    simp

lemma mergeEntriesBy_nothing (hkeys : HasKeys above) : mergeEntriesBy opened [] above = .ok above :=
  mergeEntriesBy_append hkeys

lemma put_self (h : lookup? key entries = some value) : put key value entries = entries := by
  induction entries with
  | nil => cases h
  | cons e entries ih =>
    rw [lookup?] at h
    rw [put]
    by_cases hsame : e.1.same key = true
    · rw [if_pos hsame] at h ⊢
      rw [← Option.some.inj h]
    · rw [if_neg hsame] at h ⊢
      rw [ih h]

lemma lookup?_of_mem (hkeys : HasKeys entries) {e : Data × Data} (he : e ∈ entries) :
    lookup? e.1 entries = some e.2 := by
  induction entries with
  | nil => cases he
  | cons f entries ih =>
    rw [lookup?]
    rcases List.mem_cons.mp he with rfl | hmem
    · rw [if_pos (same_refl (hkeys.keys e List.mem_cons_self))]
    · have hapart := (List.pairwise_cons.mp hkeys.once).1 e hmem
      rw [hapart, if_neg Bool.false_ne_true, ih hkeys.tail hmem]

/-- Entries that change nothing where they are put change nothing together. -/
lemma mergeEntriesBy_eq_self
    (h : ∀ e ∈ above, ∃ m, lookup? e.1 entries = some m ∧ mergeBy opened m e.2 = .ok m) :
    mergeEntriesBy opened entries above = .ok entries := by
  induction above with
  | nil => rw [mergeEntriesBy]
  | cons e above ih =>
    obtain ⟨⟨m, hfound, hm⟩, hrest⟩ := List.forall_mem_cons.mp h
    rw [mergeEntriesBy_old hfound, hm]
    simp only [ok_bind]
    rw [put_self hfound]
    exact ih hrest

/-- Putting the value on top again changes nothing. -/
def Settles
    (opened : List (Data × Data) → List (Data × Data) → Except Fault (List (Data × Data)))
    (upper : Data) : Prop :=
  ∀ base merged, IsNested base → mergeBy opened base upper = .ok merged →
    mergeBy opened merged upper = .ok merged

lemma mergeEntriesBy_settles (hbelow : IsNested (.map below)) (habove : IsNested (.map above))
    (hsettles : ∀ e ∈ above, Settles opened e.2)
    (h : mergeEntriesBy opened below above = .ok entries) :
    mergeEntriesBy opened entries above = .ok entries := by
  have hkeysBelow : HasKeys below := hbelow.keys rfl
  have hkeysAbove : HasKeys above := habove.keys rfl
  apply mergeEntriesBy_eq_self
  intro e he
  have hhigh := lookup?_of_mem hkeysAbove he
  have hjoined := lookup?_joinedBy hkeysBelow hkeysAbove h e.1
  generalize hlow : lookup? e.1 below = low at hjoined
  generalize lookup? e.1 entries = found at hjoined ⊢
  rw [hhigh] at hjoined
  cases hjoined with
  | upper =>
    -- A value that is alone under its key is put on itself, as if it had come onto null before.
    refine ⟨e.2, rfl, hsettles e he .null e.2 ?_ ?_⟩
    · exact isNested_of_not_isMapping (by rintro ⟨_, hmapping⟩; cases hmapping)
    · exact mergeBy_of_not_both (by rintro ⟨⟨_, hmapping⟩, -⟩; cases hmapping)
  | both hmerge =>
    rename_i old merged
    have hold : valueAt [e.1] (.map below) = some old := (valueAt_single rfl).trans hlow
    exact ⟨merged, rfl, hsettles e he old merged (hbelow.sub hold) hmerge⟩

lemma IsNested.untie (h : IsNested value) (hopen : value.untie = .map entries) :
    IsNested (.map entries) := by
  intro way last hlast
  cases way with
  | nil =>
    obtain rfl := Option.some.inj hlast
    exact h.keys hopen
  | cons key way =>
    apply h (key :: way) last
    rw [valueAt_cons hopen]
    exact hlast

mutual

/-- By induction on the value on top, whose mappings each lie on what they were merged to. -/
lemma settles_of_finite {upper : Data} (hfinite : upper.isEndless = false)
    (hupper : IsNested upper) : Settles opened upper := by
  intro base merged hbase h
  cases upper with
  | map above =>
    have hsettles : ∀ e ∈ above, Settles opened e.2 := by
      intro e he
      have hvalue : valueAt [e.1] (.map above) = some e.2 :=
        (valueAt_single rfl).trans (lookup?_of_mem (hupper.keys rfl) he)
      exact settles_of_finiteEntries hfinite e he (hupper.sub hvalue)
    rw [mergeBy] at h
    split at h
    · rename_i below hbelow
      obtain ⟨entries, hentries, rfl⟩ := map_eq_ok.mp h
      apply mergeBy_map_eq_ok.mpr
      exact mergeEntriesBy_settles (hbase.untie hbelow) hupper hsettles hentries
    · obtain rfl := Except.ok.inj h
      have hnone : IsNested (.map []) := isNested_map ⟨by simp, .nil⟩ (by simp)
      have hfirst : mergeEntriesBy opened [] above = .ok above :=
        mergeEntriesBy_nothing (hupper.keys rfl)
      exact mergeBy_map_eq_ok.mpr (mergeEntriesBy_settles hnone hupper hsettles hfirst)
  | _ =>
    rw [mergeBy_of_not_both] at h ⊢
    · exact h
    all_goals
      rintro ⟨-, above, habove⟩
      cases (untie_of_finite hfinite).symm.trans habove

lemma settles_of_finiteEntries {above : List (Data × Data)}
    (hfinite : anyEndlessEntry above = false) :
    ∀ e ∈ above, IsNested e.2 → Settles opened e.2 := by
  match above with
  | [] => exact List.forall_mem_nil _
  | (key, value) :: above =>
    rw [anyEndlessEntry, Bool.or_eq_false_iff] at hfinite
    exact List.forall_mem_cons.mpr
      ⟨fun hvalue => settles_of_finite hfinite.1 hvalue, settles_of_finiteEntries hfinite.2⟩

end

lemma merge_map (h : mergeEntries below above = .ok entries) :
    merge (.map below) (.map above) = .map entries := by
  have hmerge : mergeBy (mergeEntriesWithin maxOpenings) (.map below) (.map above) =
      .ok (.map entries) := mergeBy_map_eq_ok.mpr h
  rw [merge, hmerge]

/-- Merging is exact along every way, and putting nothing on top, or anything on nothing, or the same
once more changes nothing. Mappings that do not hold themselves have a merge. -/
theorem merging_is_exact_along_every_way (hbelow : IsNested (.map below))
    (habove : IsNested (.map above)) :
    (∀ entries, mergeEntries below above = .ok entries →
      merge (.map below) (.map above) = .map entries ∧
      ∀ way, Overlays (.map below) (.map above) way (valueAt way (.map entries))) ∧
    (anyEndlessEntry below = false → anyEndlessEntry above = false →
      ∃ entries, mergeEntries below above = .ok entries ∧
        mergeEntries entries above = .ok entries) ∧
    mergeEntries below [] = .ok below ∧ mergeEntries [] above = .ok above := by
  refine ⟨fun entries h => ⟨merge_map h, fun way => ?_⟩, fun hlow hhigh => ?_, ?_, ?_⟩
  · exact overlays_of_mergeBy (Nat.le_refl _) hbelow habove (mergeBy_map_eq_ok.mpr h) way
  · obtain ⟨entries, hentries, -⟩ := mergeEntriesBy_of_finite hlow hhigh
    have hupper : (map above).isEndless = false := hhigh
    refine ⟨entries, hentries, mergeBy_map_eq_ok.mp ?_⟩
    exact settles_of_finite hupper habove _ _ hbelow (mergeBy_map_eq_ok.mpr hentries)
  · rw [mergeEntries, mergeEntriesBy]
  · exact mergeEntriesBy_nothing (habove.keys rfl)

/-- A text and a mapping, each below a value of the other kind, and a text that nothing lies on. -/
def sampleLower : List (Data × Data) :=
  [(.text "name", .text "n"), (.text "agent", .text "off"),
    (.text "log", .map [(.text "level", .text "info")])]

def sampleUpper : List (Data × Data) :=
  [(.text "agent", .map [(.text "port", .text "1")]), (.text "log", .text "off")]

lemma isNested_of_text (key s : String) : IsNested (.map [(.text key, .text s)]) := by
  refine isNested_map ⟨by simp [isKey], by simp⟩ fun e he => ?_
  rw [List.mem_singleton.mp he]
  exact isNested_of_not_isMapping (text_not_isMapping s)

theorem sample_overlay : ∃ entries, mergeEntries sampleLower sampleUpper = .ok entries ∧
    merge (.map sampleLower) (.map sampleUpper) = .map entries ∧
    mergeEntries entries sampleUpper = .ok entries ∧
    valueAt [.text "name"] (.map entries) = some (.text "n") ∧
    valueAt [.text "agent"] (.map entries) = some (.map [(.text "port", .text "1")]) ∧
    valueAt [.text "log"] (.map entries) = some (.text "off") ∧
    valueAt [.text "log", .text "level"] (.map entries) = none := by
  have hlower : IsNested (.map sampleLower) := by
    refine isNested_map ⟨by simp [sampleLower, isKey], by simp [sampleLower, same]⟩ ?_
    simp only [sampleLower, List.forall_mem_cons]
    exact ⟨isNested_of_not_isMapping (text_not_isMapping "n"),
      isNested_of_not_isMapping (text_not_isMapping "off"), isNested_of_text "level" "info",
      List.forall_mem_nil _⟩
  have hupper : IsNested (.map sampleUpper) := by
    refine isNested_map ⟨by simp [sampleUpper, isKey], by simp [sampleUpper, same]⟩ ?_
    simp only [sampleUpper, List.forall_mem_cons]
    exact ⟨isNested_of_text "port" "1", isNested_of_not_isMapping (text_not_isMapping "off"),
      List.forall_mem_nil _⟩
  obtain ⟨hways, hexists, -⟩ := merging_is_exact_along_every_way hlower hupper
  obtain ⟨entries, hentries, hagain⟩ := hexists (by simp [sampleLower, anyEndlessEntry, isEndless])
    (by simp [sampleUpper, anyEndlessEntry, isEndless])
  obtain ⟨hmerge, hfound⟩ := hways entries hentries
  have hname : valueAt [.text "name"] (.map sampleLower) = some (.text "n") := by
    simp [valueAt, untie, Data.entries, sampleLower, lookup?, same]
  have hunnamed : lookup? (.text "name") sampleUpper = none := by
    simp [sampleUpper, lookup?, same]
  have hagent : valueAt [.text "agent"] (.map sampleUpper) =
      some (.map [(.text "port", .text "1")]) := by
    simp [valueAt, untie, Data.entries, sampleUpper, lookup?, same]
  have hlog : valueAt [.text "log"] (.map sampleUpper) = some (.text "off") := by
    simp [valueAt, untie, Data.entries, sampleUpper, lookup?, same]
  refine ⟨entries, hentries, hmerge, hagain, ?_, ?_, ?_, ?_⟩
  · rw [← hname]
    apply (hfound _).kept
    · rw [valueAt_single rfl, hunnamed]
    · rw [isBlocked_cons rfl, hunnamed]
      rintro ⟨inner, hinner, -⟩
      cases hinner
  · refine (hfound _).fresh _ hagent ⟨_, rfl⟩ fun old hold => ?_
    obtain rfl : .text "off" = old := by
      simpa [valueAt, untie, Data.entries, sampleLower, lookup?, same] using hold
    exact text_not_isMapping "off"
  · exact (hfound _).leaf _ hlog (text_not_isMapping "off")
  · apply (hfound _).hidden
    exact ⟨_, [.text "level"], _, rfl, List.cons_ne_nil _ _, hlog, text_not_isMapping "off"⟩

end TestImpact.Proofs
