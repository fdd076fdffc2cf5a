import TestImpact.Config.Lax
import TestImpact.Config.Load
import TestImpact.Proofs.Config.Merging

/-!
# Layers of settings

Mappings that agree on what is a mapping can be put on top of each other in any grouping: at the end
of each way stands what the first of them has there. So the settings that are checked hold, at each
way, the value of the overrides, else that of the environment, else that of the upper file, else
that of the file of the user.
-/

namespace TestImpact.Proofs
open Config Data

variable {upper lower merged : Data} {layers uppers lowers : List Data} {way : List Data}

/-! ### Layers on top of each other -/

/-- No layer has a mapping at the end of the way. -/
def IsLeafWay (layers : List Data) (way : List Data) : Prop :=
  ∀ layer ∈ layers, ∀ found, valueAt way layer = some found → ¬IsMapping found

/-- A value in which the first layer that has something at the end of a way decides. -/
structure Stacked (layers : List Data) (merged : Data) : Prop where
  nested : IsNested merged
  agree : ∀ other, (∀ layer ∈ layers, Agree layer other) → Agree merged other
  leaf : ∀ way, IsLeafWay layers way → valueAt way merged = layers.findSome? (valueAt way)
  absent : ∀ way, valueAt way merged = none ↔ ∀ layer ∈ layers, valueAt way layer = none

lemma Stacked.single {layer : Data} (h : IsNested layer) : Stacked [layer] layer where
  nested := h
  agree := fun _ hother => hother layer (List.mem_singleton_self layer)
  leaf := fun way _ => by rw [List.findSome?_singleton]
  absent := fun way => by simp

/-- Layers put on top of others, whatever the grouping of each. -/
lemma Stacked.join (hupper : Stacked uppers upper) (hlower : Stacked lowers lower)
    (hagree : ∀ high ∈ uppers, ∀ low ∈ lowers, Agree high low)
    (h : IsMerge lower upper merged) : Stacked (uppers ++ lowers) merged := by
  have hboth : Agree lower upper := by
    refine hlower.agree upper fun low hlow => Agree.symm ?_
    exact hupper.agree low fun high hhigh => hagree high hhigh low hlow
  have hjoined := valueAt_joined h hlower.nested hupper.nested hboth
  refine ⟨hlower.nested.merge h hupper.nested hboth, fun other hother => ?_, fun way hleaf => ?_,
    fun way => ?_⟩
  · obtain ⟨hhigh, hlow⟩ := List.forall_mem_append.mp hother
    exact Agree.merge h hlower.nested hupper.nested hboth (hlower.agree other hlow)
      (hupper.agree other hhigh)
  · obtain ⟨hhigh, hlow⟩ := List.forall_mem_append.mp hleaf
    have hfound := hupper.leaf way hhigh
    have hend : ∀ value, valueAt way upper = some value → ¬IsMapping value := by
      intro value hvalue
      rw [hfound] at hvalue
      obtain ⟨layer, hlayer, hvalue⟩ := List.exists_of_findSome?_eq_some hvalue
      exact hhigh layer hlayer value hvalue
    rw [(hjoined way).eq_or hend, hfound, hlower.leaf way hlow, List.findSome?_append]
  · rw [(hjoined way).eq_none_iff, hupper.absent way, hlower.absent way, List.forall_mem_append,
      and_comm]

/-! ### Names of overrides -/

/-- The names of sections among the overrides are in lower case. -/
def IsSpelled (overrides : List (Data × Data)) : Prop :=
  ∀ e ∈ overrides, ∀ s, e.1 = .text s → Text.lower s ∈ sectionNames → Text.lower s = s

lemma same_text_iff {key : Data} {s : String} : key.same (.text s) = true ↔ key = .text s := by
  cases key <;> simp [same, number?]

lemma text_same_iff {key : Data} {s : String} : (Data.text s).same key = true ↔ key = .text s := by
  cases key with
  | text t =>
    rw [same, beq_iff_eq, text.injEq]
    exact eq_comm
  | _ => simp [same]

lemma lookup?_append (key : Data) (first rest : List (Data × Data)) :
    lookup? key (first ++ rest) = (lookup? key first).or (lookup? key rest) := by
  induction first with
  | nil => rfl
  | cons e first ih =>
    rw [List.cons_append, lookup?, lookup?, ih]
    split <;> rfl

lemma lookup?_filter {key : Data} {entries : List (Data × Data)} {keep : Data × Data → Bool}
    (h : ∀ e ∈ entries, e.1.same key = true → keep e = true) :
    lookup? key (entries.filter keep) = lookup? key entries := by
  induction entries with
  | nil => rfl
  | cons e entries ih =>
    obtain ⟨hfirst, hrest⟩ := List.forall_mem_cons.mp h
    by_cases hsame : e.1.same key = true
    · rw [List.filter_cons_of_pos (hfirst hsame), lookup?, lookup?, if_pos hsame, if_pos hsame]
    · rw [lookup?, if_neg hsame, ← ih hrest, List.filter_cons]
      split
      · rw [lookup?, if_neg hsame]
      · rfl

/-- The named entries of a list of names, found under a name. -/
lemma lookup?_named (names : List String) (find : String → Option Data) (name : String) :
    lookup? (.text name) (names.filterMap fun n => (find n).map fun value => (.text n, value)) =
      if name ∈ names then find name else none := by
  induction names with
  | nil => rfl
  | cons n names ih =>
    rw [List.filterMap_cons]
    by_cases hname : n = name
    · subst hname
      rw [if_pos List.mem_cons_self]
      cases hfound : find n with
      | none =>
        rw [Option.map_none, ih, hfound]
        exact ite_self none
      | some value =>
        rw [Option.map_some, lookup?, if_pos (text_same_iff.mpr rfl)]
    · have hmem : name ∈ n :: names ↔ name ∈ names := by
        rw [List.mem_cons, or_iff_right (Ne.symm hname)]
      simp only [hmem]
      cases find n with
      | none => exact ih
      | some value =>
        rw [Option.map_some, lookup?, if_neg, ih]
        exact fun hsame => hname (text.inj (text_same_iff.mp hsame)).symm

/-- Entries under names of sections, by another key. -/
lemma lookup?_named_other (names : List String) (find : String → Option Data) {key : Data}
    (hkey : ∀ name ∈ names, key ≠ .text name) :
    lookup? key (names.filterMap fun n => (find n).map fun value => (.text n, value)) = none := by
  refine lookup?_eq_none fun e he => Bool.eq_false_iff.mpr fun hsame => ?_
  obtain ⟨name, hname, hfound⟩ := List.mem_filterMap.mp he
  obtain ⟨value, -, rfl⟩ := Option.map_eq_some_iff.mp hfound
  exact hkey name hname (text_same_iff.mp hsame)

lemma isNamed_iff {name : String} {key : Data} :
    isNamed name key = true ↔ ∃ s, key = .text s ∧ Text.lower s = name := by
  cases key <;> simp [isNamed]

lemma lower_sectionName : ∀ name ∈ sectionNames, Text.lower name = name := by
  decide +kernel

/-- An override that is named like a section has its name. -/
lemma IsSpelled.isNamed_iff {overrides : List (Data × Data)} (h : IsSpelled overrides)
    {e : Data × Data} (he : e ∈ overrides) {name : String} (hname : name ∈ sectionNames) :
    isNamed name e.1 = true ↔ e.1 = .text name := by
  rw [Proofs.isNamed_iff]
  constructor
  · rintro ⟨s, hs, rfl⟩
    rw [hs, h e he s hs hname]
  · intro heq
    exact ⟨name, heq, lower_sectionName name hname⟩

lemma IsSpelled.find? {overrides : List (Data × Data)} (h : IsSpelled overrides) {name : String}
    (hname : name ∈ sectionNames) :
    (overrides.find? fun e => isNamed name e.1).map (·.2) = lookup? (.text name) overrides := by
  induction overrides with
  | nil => rfl
  | cons e overrides ih =>
    have hiff := h.isNamed_iff List.mem_cons_self hname
    rw [List.find?_cons, lookup?]
    by_cases hsame : e.1.same (.text name) = true
    · rw [hiff.mpr (same_text_iff.mp hsame), if_pos hsame]
      rfl
    · rw [Bool.eq_false_iff.mpr fun hnamed => hsame (same_text_iff.mpr (hiff.mp hnamed)),
        if_neg hsame]
      exact ih fun f hf => h f (List.mem_cons_of_mem e hf)

lemma IsSpelled.lookup?_overrideLayer {overrides : List (Data × Data)} (h : IsSpelled overrides)
    (key : Data) : lookup? key (overrideLayer overrides) = lookup? key overrides := by
  have hknown : (sectionNames.filterMap fun name =>
        (overrides.find? fun e => isNamed name e.1).map fun e => (Data.text name, e.2)) =
      sectionNames.filterMap fun name =>
        ((overrides.find? fun e => isNamed name e.1).map (·.2)).map fun value =>
          (Data.text name, value) := by
    simp only [Option.map_map]
    rfl
  rw [overrideLayer, lookup?_append]
  dsimp only
  rw [hknown]
  by_cases hsection : ∃ name ∈ sectionNames, key = .text name
  · obtain ⟨name, hname, rfl⟩ := hsection
    have hrest : lookup? (.text name) (overrides.filter fun e =>
        !sectionNames.any fun name => isNamed name e.1) = none := by
      refine lookup?_eq_none fun e he => Bool.eq_false_iff.mpr fun hsame => ?_
      obtain ⟨hmem, hother⟩ := List.mem_filter.mp he
      have hnamed := (h.isNamed_iff hmem hname).mpr (same_text_iff.mp hsame)
      rw [List.any_eq_true.mpr ⟨name, hname, hnamed⟩] at hother
      cases hother
    rw [lookup?_named, if_pos hname, h.find? hname, hrest, Option.or_none]
  · rw [lookup?_named_other _ _ fun name hname hkey => hsection ⟨name, hname, hkey⟩,
      Option.none_or]
    refine lookup?_filter fun e he hsame => ?_
    rw [Bool.not_eq_true', Bool.eq_false_iff]
    intro hany
    obtain ⟨name, hname, hnamed⟩ := List.any_eq_true.mp hany
    rw [(h.isNamed_iff he hname).mp hnamed] at hsame
    exact hsection ⟨name, hname, text_same_iff.mp hsame⟩

/-! ### Settings -/

/-- The layers of settings, the one that counts most first. -/
def settingLayers (overrides environment repository user : List (Data × Data)) : List Data :=
  [.map (overrideLayer overrides), .map environment, .map repository, .map user]

variable {reader : Reader} {files : Files} {cwd : Location} {env : Environment} {sources : Sources}
  {file : Path} {overrides environment repository user handed : List (Data × Data)} {f : Fault}

/-- A layer answers with a field exactly if it holds a value there that is not null. -/
lemma layerField_answers {layer : List (Data × Data)} {name : String} {value : Data} :
    layerField layer name = (value, name, true) ↔
      valueAt [.text name] (.map layer) = some value ∧ value ≠ .null := by
  have hfound : valueAt [.text name] (.map layer) = field? name layer := valueAt_single rfl
  rw [hfound, layerField]
  cases field? name layer with
  | none => simp
  | some found =>
    constructor
    · intro h
      cases found <;> cases h <;> exact ⟨rfl, Data.noConfusion⟩
    · rintro ⟨hvalue, hnull⟩
      obtain rfl := Option.some.inj hvalue
      cases found with
      | null => exact absurd rfl hnull
      | _ => rfl

/-- Layers are merged, or mappings in them go on together without end. -/
lemma layered_stacked {below : List (Data × Data)}
    (hnested : ∀ layer ∈ settingLayers overrides environment repository user, IsNested layer)
    (hagree : (settingLayers overrides environment repository user).Pairwise Agree)
    (hfiles : mergeEntries user repository = .ok below)
    (h : layered (overrideLayer overrides) environment below = .ok handed) :
    Stacked (settingLayers overrides environment repository user) (.map handed) := by
  obtain ⟨above, habove, hhanded⟩ := bind_eq_ok.mp h
  simp only [settingLayers, List.forall_mem_cons, List.pairwise_cons] at hnested hagree
  obtain ⟨hn₁, hn₂, hn₃, hn₄, -⟩ := hnested
  obtain ⟨⟨h₁₂, h₁₃, h₁₄, -⟩, ⟨h₂₃, h₂₄, -⟩, ⟨h₃₄, -⟩, -⟩ := hagree
  have hfilesStack : Stacked [.map repository, .map user] (.map below) := by
    refine Stacked.join (.single hn₃) (.single hn₄) ?_ (isMerge_of_mergeEntries hfiles)
    simpa using h₃₄
  have hupperStack : Stacked [.map (overrideLayer overrides), .map environment] (.map above) := by
    refine Stacked.join (.single hn₁) (.single hn₂) ?_ (isMerge_of_mergeEntries habove)
    simpa using h₁₂
  refine Stacked.join hupperStack hfilesStack ?_ (isMerge_of_mergeEntries hhanded)
  simp [h₁₃, h₁₄, h₂₃, h₂₄]

lemma layered_fails (h : layered overrides environment repository = .error f) : f = .tooDeep := by
  rw [layered] at h
  cases habove : mergeEntries environment overrides with
  | error g =>
    rw [habove] at h
    obtain rfl : g = f := Except.error.inj h
    exact mergeEntries_fails habove
  | ok above =>
    rw [habove] at h
    exact mergeEntries_fails h

/-- Layers without knots are merged. -/
lemma layered_of_finite
    (hfinite : ∀ layer ∈ settingLayers overrides environment repository user,
      layer.isEndless = false) :
    ∃ below handed, mergeEntries user repository = .ok below ∧
      layered (overrideLayer overrides) environment below = .ok handed := by
  simp only [settingLayers, List.forall_mem_cons] at hfinite
  obtain ⟨hoverrides, henvironment, hrepository, huser, -⟩ := hfinite
  obtain ⟨below, hbelow, hfiniteBelow⟩ := mergeEntriesBy_of_finite huser hrepository
  obtain ⟨above, habove, hfiniteAbove⟩ := mergeEntriesBy_of_finite henvironment hoverrides
  obtain ⟨handed, hhanded, -⟩ := mergeEntriesBy_of_finite hfiniteBelow hfiniteAbove
  exact ⟨below, handed, hbelow, bind_eq_ok.mpr ⟨above, habove, hhanded⟩⟩

/-- What loading comes to once all layers are read. -/
lemma load_eq (hfile : upperFile files cwd sources = .ok file)
    (huser : readLayer reader.digitLimit files cwd sources.userFile = .ok user)
    (hrepository : readLayer reader.digitLimit files cwd file = .ok repository)
    (henvironment : environmentLayer reader.digitLimit env = .ok environment) :
    load reader files cwd env sources =
      Failure.ofFault (mergeEntries user repository) >>= fun below =>
        Failure.ofFault (layered (overrideLayer sources.overrides) environment below) >>=
          judge reader (env.get? "HOME") := by
  have hread : Failure.ofFault (environmentLayer reader.digitLimit env) = .ok environment := by
    rw [henvironment]
    rfl
  rw [load, fileLayer, hfile, ok_bind, huser, ok_bind, hrepository, ok_bind, hread]
  rfl

lemma exists_endless
    (h : ¬∃ below handed, mergeEntries user repository = .ok below ∧
      layered (overrideLayer overrides) environment below = .ok handed) :
    ∃ layer ∈ settingLayers overrides environment repository user, layer.isEndless = true := by
  refine Classical.byContradiction fun hnone => ?_
  refine h (layered_of_finite fun layer hlayer => Bool.eq_false_iff.mpr fun hendless => ?_)
  exact hnone ⟨layer, hlayer, hendless⟩

/-! ### Layers for examples -/

/-- The section, field and text that entries set, if they set nothing else. -/
def oneField? : List (Data × Data) → Option (String × String × String)
  | [(.text s, .map [(.text f, .text v)])] => some (s, f, v)
  | _ => none

def sampleLayer (name value : String) : List (Data × Data) :=
  [(.text "agent", .map [(.text name, .text value)])]

lemma eq_of_oneField? {entries : List (Data × Data)} {name value : String}
    (h : oneField? entries = some ("agent", name, value)) : entries = sampleLayer name value := by
  unfold oneField? at h
  split at h
  · cases h
    rfl
  · cases h

lemma read_of_oneField? {ε : Type} {x : Except ε (List (Data × Data))} {name value : String}
    (h : x.toOption.bind oneField? = some ("agent", name, value)) :
    x = .ok (sampleLayer name value) := by
  cases x with
  | error e => cases h
  | ok entries => exact congrArg Except.ok (eq_of_oneField? h)

lemma sampleLayer_nested (name value : String) : IsNested (.map (sampleLayer name value)) := by
  have hsingle : ∀ (s : String) (d : Data), HasKeys [(.text s, d)] := fun s d =>
    ⟨fun e he => by rw [List.mem_singleton.mp he]; rfl, List.pairwise_singleton ..⟩
  refine isNested_map (hsingle "agent" _) fun e he => ?_
  rw [List.mem_singleton.mp he]
  refine isNested_map (hsingle name _) fun f hf => ?_
  rw [List.mem_singleton.mp hf]
  exact isNested_of_not_isMapping (text_not_isMapping value)

lemma sampleLayer_agree (name value name' value' : String) :
    Agree (.map (sampleLayer name value)) (.map (sampleLayer name' value')) := by
  refine agree_map fun key a b ha hb => ?_
  rw [value_of_lookup?_single ha, value_of_lookup?_single hb]
  refine agree_map fun key a b ha hb => ?_
  rw [value_of_lookup?_single ha, value_of_lookup?_single hb]
  exact agree_of_not_isMapping (text_not_isMapping value) (text_not_isMapping value')

lemma sampleLayer_field (name value field : String) :
    valueAt [.text "agent", .text field] (.map (sampleLayer name value)) =
      if name = field then some (.text value) else none := by
  by_cases h : name = field <;> simp [valueAt, untie, Data.entries, sampleLayer, lookup?, same, h]

/-- A file of a user and one that is named, with the same field in both. -/
def sampleTree : Files :=
  ((Files.empty.place "w" [] .dir).place "user" ["w"]
    (.file "agent: \x7burl: u\x7d".toUTF8.toList false)).place "named" ["w"]
      (.file "agent: \x7burl: r\x7d".toUTF8.toList false)

def sampleSources : Sources :=
  ⟨Path.ofText "/w/user", Path.ofText "/w", some (Path.ofText "/w/named"), sampleLayer "jar" "k"⟩

/-- What is set by an override, a variable, the named file and the file of the user. -/
def sampleLayers : List Data :=
  [.map (sampleLayer "jar" "k"), .map (sampleLayer "mode" "remote"), .map (sampleLayer "url" "r"),
    .map (sampleLayer "url" "u")]

lemma of_mem_sampleLayers {layer : Data} (h : layer ∈ sampleLayers) :
    ∃ name value, layer = .map (sampleLayer name value) := by
  simp only [sampleLayers, List.mem_cons, List.not_mem_nil, or_false] at h
  rcases h with rfl | rfl | rfl | rfl <;> exact ⟨_, _, rfl⟩

lemma sampleLayers_leafWay (field : String) :
    IsLeafWay sampleLayers [.text "agent", .text field] := by
  intro layer hlayer found hfound
  obtain ⟨name, value, rfl⟩ := of_mem_sampleLayers hlayer
  rw [sampleLayer_field] at hfound
  split at hfound
  · obtain rfl := Option.some.inj hfound
    exact text_not_isMapping value
  · cases hfound

lemma sampleLayers_nested : ∀ layer ∈ sampleLayers, IsNested layer := by
  intro layer hlayer
  obtain ⟨name, value, rfl⟩ := of_mem_sampleLayers hlayer
  exact sampleLayer_nested name value

lemma sampleLayers_agree : sampleLayers.Pairwise Agree := by
  refine List.pairwise_iff_forall_sublist.mpr fun h => ?_
  obtain ⟨name, value, rfl⟩ := of_mem_sampleLayers (h.subset List.mem_cons_self)
  obtain ⟨name', value', rfl⟩ :=
    of_mem_sampleLayers (h.subset (List.mem_cons_of_mem _ List.mem_cons_self))
  exact sampleLayer_agree name value name' value'

/-! ### Precedence -/

/-- Of four layers of nested mappings that agree on what is a mapping, the first one with a value at
the end of a way decides, and a way that no layer has is absent, so that a field there has its
default. Only layers that hold themselves may have no merged value. -/
theorem first_layer_decides (reader : Reader) (files : Files) (cwd : Location) (env : Environment)
    (sources : Sources) (file : Path) (user repository environment : List (Data × Data))
    (layers : List Data)
    (hlayers : layers = settingLayers sources.overrides environment repository user)
    (hfile : upperFile files cwd sources = .ok file)
    (huser : readLayer reader.digitLimit files cwd sources.userFile = .ok user)
    (hrepository : readLayer reader.digitLimit files cwd file = .ok repository)
    (henvironment : environmentLayer reader.digitLimit env = .ok environment)
    (hnested : ∀ layer ∈ layers, IsNested layer) (hagree : layers.Pairwise Agree) :
    (IsSpelled sources.overrides → ∀ key way,
      valueAt (key :: way) (.map (overrideLayer sources.overrides)) =
        valueAt (key :: way) (.map sources.overrides)) ∧
    ((load reader files cwd env sources = .error (.fault .tooDeep) ∧
        ∃ layer ∈ layers, layer.isEndless = true) ∨
      ∃ handed, load reader files cwd env sources = judge reader (env.get? "HOME") handed ∧
        (∀ way, IsLeafWay layers way →
          valueAt way (.map handed) = layers.findSome? (valueAt way)) ∧
        (∀ way, valueAt way (.map handed) = none ↔
          ∀ layer ∈ layers, valueAt way layer = none) ∧
        ∀ way holder name, valueAt way (.map handed) = some holder →
          (∀ layer ∈ layers, valueAt (way ++ [.text name]) layer = none) →
          ∀ (α : Type) (default : α) (check : Data → Checked α),
            Checked.field holder.untie.entries name default check = .ok default) := by
  subst hlayers
  have hload := load_eq hfile huser hrepository henvironment
  refine ⟨fun hspelled key way => ?_, ?_⟩
  · exact congrArg (Option.bind · (valueAt way)) (hspelled.lookup?_overrideLayer key)
  cases hbelow : mergeEntries user repository with
  | error f =>
    refine .inl ⟨?_, exists_endless ?_⟩
    · rw [hload, hbelow, mergeEntries_fails hbelow]
      rfl
    · rintro ⟨_, _, hmerged, -⟩
      cases hbelow.symm.trans hmerged
  | ok below =>
    have hmerged : Failure.ofFault (mergeEntries user repository) = .ok below := by
      rw [hbelow]
      rfl
    rw [hmerged, ok_bind] at hload
    cases hhanded : layered (overrideLayer sources.overrides) environment below with
    | error f =>
      refine .inl ⟨?_, exists_endless ?_⟩
      · rw [hload, hhanded, layered_fails hhanded]
        rfl
      · rintro ⟨below', _, hmerged', hlayered⟩
        obtain rfl : below = below' := Except.ok.inj (hbelow.symm.trans hmerged')
        cases hhanded.symm.trans hlayered
    | ok handed =>
      rw [hhanded] at hload
      have hstacked := layered_stacked hnested hagree hbelow hhanded
      refine .inr ⟨handed, hload, hstacked.leaf, hstacked.absent, ?_⟩
      intro way holder name hholder hlacks α default check
      have hnone := (hstacked.absent _).mpr hlacks
      rw [valueAt_append, hholder] at hnone
      have hfield : field? name holder.untie.entries = none :=
        (Option.bind_fun_some _).symm.trans hnone
      rw [Checked.field, hfield]

/-- What settings are read with on a system without home directories. -/
def sampleReader : Reader := ⟨.lax, ⟨none, fun _ => none⟩, .standard⟩

/-- With a file of a user, a named one, a variable and an override: the named file decides the field
that both files set, the others keep theirs beside it, and what none sets is absent. -/
theorem sample_first_layer_decides :
    ∃ handed,
      load sampleReader sampleTree ["w"] [("TIALAUNCH__AGENT__MODE", "remote")] sampleSources =
        judge sampleReader none handed ∧
      valueAt [.text "agent", .text "url"] (.map handed) = some (.text "r") ∧
      valueAt [.text "agent", .text "mode"] (.map handed) = some (.text "remote") ∧
      valueAt [.text "agent", .text "jar"] (.map handed) = some (.text "k") ∧
      valueAt [.text "agent", .text "port"] (.map handed) = none := by
  have hoverrides : overrideLayer sampleSources.overrides = sampleLayer "jar" "k" :=
    eq_of_oneField? (by decide +kernel)
  have hlayers : sampleLayers = settingLayers sampleSources.overrides
      (sampleLayer "mode" "remote") (sampleLayer "url" "r") (sampleLayer "url" "u") := by
    rw [settingLayers, hoverrides, sampleLayers]
  obtain ⟨-, hfails | ⟨handed, hload, hleaf, -, -⟩⟩ :=
    first_layer_decides sampleReader sampleTree ["w"] [("TIALAUNCH__AGENT__MODE", "remote")]
      sampleSources (Path.ofText "/w/named") (sampleLayer "url" "u") (sampleLayer "url" "r")
      (sampleLayer "mode" "remote") sampleLayers hlayers (eq_ok_of_toOption (by decide +kernel))
      (read_of_oneField? (by decide +kernel)) (read_of_oneField? (by decide +kernel))
      (read_of_oneField? (by decide +kernel)) sampleLayers_nested sampleLayers_agree
  · obtain ⟨-, layer, hlayer, hendless⟩ := hfails
    obtain ⟨name, value, rfl⟩ := of_mem_sampleLayers hlayer
    cases hendless
  · have hfound := fun field => hleaf _ (sampleLayers_leafWay field)
    refine ⟨handed, hload, (hfound "url").trans ?_, (hfound "mode").trans ?_,
      (hfound "jar").trans ?_, (hfound "port").trans ?_⟩ <;>
      simp [sampleLayers, sampleLayer_field]

end TestImpact.Proofs
