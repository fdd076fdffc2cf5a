import TestImpact.Proofs.Data.Numbers

/-!
# Keys of mappings

Keys are single values and tuples of keys. Sameness is an equivalence on them, so looking up a key
after an entry was set gives the new value at this key and the old ones at all others. The entries of
a mapping have each key once, and setting an entry keeps this.
-/

namespace TestImpact.Proofs
open Data

/-! ### Sameness of keys -/

mutual

/-- The values that mappings may have as keys. -/
def isKey : Data → Bool
  | .list _ | .set _ | .map _ | .knot .. | .again .. => false
  | .tuple items => areKeys items
  | _ => true

def areKeys : List Data → Bool
  | [] => true
  | item :: items => isKey item && areKeys items

end

attribute [local simp] same sameItems

lemma same_of_number {x : Data} {m : Number} (h : x.number? = some m) (y : Data) :
    x.same y = true ↔ ∃ n, y.number? = some n ∧ m.same n = true := by
  cases x <;> simp only [number?, Option.some.injEq, reduceCtorEq] at h <;> subst h <;>
    rw [same.eq_def] <;> cases y.number? <;> simp

lemma timestampSame_refl (t : Timestamp) : t.same t = true := by
  unfold Timestamp.same
  cases t.offset <;> simp

lemma timestampSame_symm {t u : Timestamp} (h : t.same u = true) : u.same t = true := by
  unfold Timestamp.same at h ⊢
  cases ht : t.offset <;> cases hu : u.offset <;> simp_all

lemma timestampSame_trans {t u v : Timestamp} (h : t.same u = true) (h' : u.same v = true) :
    t.same v = true := by
  unfold Timestamp.same at h h' ⊢
  cases ht : t.offset <;> cases hu : u.offset <;> cases hv : v.offset <;> simp_all

mutual

lemma same_refl {x : Data} (hx : isKey x = true) : x.same x = true := by
  cases hn : x.number? with
  | some m => exact (same_of_number hn x).mpr ⟨m, hn, numberSame_refl m⟩
  | none =>
    match x with
    | .tuple xs =>
      rw [same]
      exact sameItems_refl hx
    | .time t =>
      rw [same]
      exact timestampSame_refl t
    | .null => simp
    | .text _ => simp
    | .bytes _ => simp
    | .path _ => simp
    | .date _ => simp

lemma sameItems_refl {xs : List Data} (hxs : areKeys xs = true) : sameItems xs xs = true := by
  match xs with
  | [] => rw [sameItems]
  | x :: xs =>
    rw [areKeys, Bool.and_eq_true] at hxs
    rw [sameItems, Bool.and_eq_true]
    exact ⟨same_refl hxs.1, sameItems_refl hxs.2⟩

end

mutual

lemma same_symm {x y : Data} (hx : isKey x = true) (h : x.same y = true) : y.same x = true := by
  cases hn : x.number? with
  | some m =>
    obtain ⟨n, hy, hsame⟩ := (same_of_number hn y).mp h
    exact (same_of_number hy x).mpr ⟨m, hn, numberSame_symm hsame⟩
  | none =>
    match x with
    | .tuple xs =>
      cases y <;> simp only [same, Bool.false_eq_true] at h
      rw [same]
      exact sameItems_symm hx h
    | .time t =>
      cases y <;> simp only [same, Bool.false_eq_true] at h
      rw [same]
      exact timestampSame_symm h
    | .null => cases y <;> simp_all [same]
    | .text _ => cases y <;> simp_all [same]
    | .bytes _ => cases y <;> simp_all [same]
    | .path _ => cases y <;> simp_all [same]
    | .date _ => cases y <;> simp_all [same]

lemma sameItems_symm {xs ys : List Data} (hxs : areKeys xs = true) (h : sameItems xs ys = true) :
    sameItems ys xs = true := by
  match xs, ys with
  | [], [] => exact h
  | [], _ :: _ => simp [sameItems] at h
  | _ :: _, [] => simp [sameItems] at h
  | x :: xs, y :: ys =>
    rw [areKeys, Bool.and_eq_true] at hxs
    rw [sameItems, Bool.and_eq_true] at h ⊢
    exact ⟨same_symm hxs.1 h.1, sameItems_symm hxs.2 h.2⟩

end

mutual

lemma same_trans {x y z : Data} (hx : isKey x = true) (h : x.same y = true)
    (h' : y.same z = true) : x.same z = true := by
  cases hn : x.number? with
  | some m =>
    obtain ⟨n, hy, hsame⟩ := (same_of_number hn y).mp h
    obtain ⟨k, hz, hsame'⟩ := (same_of_number hy z).mp h'
    exact (same_of_number hn z).mpr ⟨k, hz, numberSame_trans hsame hsame'⟩
  | none =>
    match x with
    | .tuple xs =>
      cases y <;> simp only [same, Bool.false_eq_true] at h
      cases z <;> simp only [same, Bool.false_eq_true] at h'
      rw [same]
      exact sameItems_trans hx h h'
    | .time t =>
      cases y <;> simp only [same, Bool.false_eq_true] at h
      cases z <;> simp only [same, Bool.false_eq_true] at h'
      rw [same]
      exact timestampSame_trans h h'
    | .null => cases y <;> simp_all [same]
    | .text _ => cases y <;> simp_all [same]
    | .bytes _ => cases y <;> simp_all [same]
    | .path _ => cases y <;> simp_all [same]
    | .date _ => cases y <;> simp_all [same]

lemma sameItems_trans {xs ys zs : List Data} (hxs : areKeys xs = true)
    (h : sameItems xs ys = true) (h' : sameItems ys zs = true) : sameItems xs zs = true := by
  match xs, ys, zs with
  | [], [], _ => exact h'
  | [], _ :: _, _ => simp [sameItems] at h
  | _ :: _, [], _ => simp [sameItems] at h
  | _ :: _, _ :: _, [] => simp [sameItems] at h'
  | x :: xs, y :: ys, z :: zs =>
    rw [areKeys, Bool.and_eq_true] at hxs
    rw [sameItems, Bool.and_eq_true] at h h' ⊢
    exact ⟨same_trans hxs.1 h.1 h'.1, sameItems_trans hxs.2 h.2 h'.2⟩

end

/-- A key is the same as each of two others, or as none of them, if these are the same. -/
lemma same_congr {x y z : Data} (hx : isKey x = true) (hy : isKey y = true)
    (h : y.same z = true) : x.same y = x.same z := by
  have hsymm := same_symm hy h
  rw [Bool.eq_iff_iff]
  refine ⟨fun hxy => same_trans hx hxy h, fun hxz => same_trans hx hxz hsymm⟩

lemma same_congr_left {x y : Data} (hx : isKey x = true) (hy : isKey y = true)
    (h : x.same y = true) (z : Data) : x.same z = y.same z := by
  rw [Bool.eq_iff_iff]
  exact ⟨fun hxz => same_trans hy (same_symm hx h) hxz, fun hyz => same_trans hx h hyz⟩

/-! ### Entries -/

variable {key k value : Data} {entries : List (Data × Data)}

/-- Entries that each have a key, and no key twice. -/
structure HasKeys (entries : List (Data × Data)) : Prop where
  keys : ∀ e ∈ entries, isKey e.1 = true
  once : entries.Pairwise fun e f => e.1.same f.1 = false

lemma HasKeys.tail {e : Data × Data} (h : HasKeys (e :: entries)) : HasKeys entries :=
  ⟨fun f hf => h.keys f (List.mem_cons_of_mem e hf), (List.pairwise_cons.mp h.once).2⟩

lemma lookup?_congr (hkeys : ∀ e ∈ entries, isKey e.1 = true) (hkey : isKey key = true)
    (h : key.same k = true) : lookup? key entries = lookup? k entries := by
  induction entries with
  | nil => rfl
  | cons e entries ih =>
    obtain ⟨hfirst, hrest⟩ := List.forall_mem_cons.mp hkeys
    rw [lookup?, lookup?, same_congr hfirst hkey h, ih hrest]

lemma lookup?_eq_none (h : ∀ e ∈ entries, e.1.same key = false) : lookup? key entries = none := by
  induction entries with
  | nil => rfl
  | cons e entries ih =>
    obtain ⟨hfirst, hrest⟩ := List.forall_mem_cons.mp h
    rw [lookup?, hfirst, if_neg Bool.false_ne_true, ih hrest]

/-- Looking up a key after an entry was set. -/
lemma lookup?_put (hkeys : ∀ e ∈ entries, isKey e.1 = true) (hkey : isKey key = true) :
    lookup? k (put key value entries) = if key.same k then some value else lookup? k entries := by
  induction entries with
  | nil => rfl
  | cons e entries ih =>
    obtain ⟨hfirst, hrest⟩ := List.forall_mem_cons.mp hkeys
    rw [put]
    by_cases hsame : e.1.same key = true
    · have hcongr := same_congr_left hfirst hkey hsame k
      rw [if_pos hsame, lookup?, lookup?, hcongr]
      by_cases hk : key.same k = true
      · rw [if_pos hk, if_pos hk]
      · rw [if_neg hk, if_neg hk, if_neg hk]
    · rw [if_neg hsame, lookup?, lookup?, ih hrest]
      by_cases hk : key.same k = true
      · have hother : ¬ e.1.same k = true := by
          rw [← same_congr hfirst hkey hk]
          exact hsame
        rw [if_neg hother, if_pos hk, if_pos hk]
      · rw [if_neg hk, if_neg hk]

lemma key_of_mem_put {e : Data × Data} (h : e ∈ put key value entries) :
    e.1 = key ∨ ∃ f ∈ entries, f.1 = e.1 := by
  induction entries with
  | nil =>
    rw [put, List.mem_singleton] at h
    exact .inl (congrArg Prod.fst h)
  | cons f entries ih =>
    rw [put] at h
    by_cases hsame : f.1.same key = true
    · rw [if_pos hsame] at h
      rcases List.mem_cons.mp h with rfl | hmem
      · exact .inr ⟨f, List.mem_cons_self, rfl⟩
      · exact .inr ⟨e, List.mem_cons_of_mem f hmem, rfl⟩
    · rw [if_neg hsame] at h
      rcases List.mem_cons.mp h with rfl | hmem
      · exact .inr ⟨f, List.mem_cons_self, rfl⟩
      · rcases ih hmem with heq | ⟨g, hg, heq⟩
        · exact .inl heq
        · exact .inr ⟨g, List.mem_cons_of_mem f hg, heq⟩

lemma HasKeys.put (h : HasKeys entries) (hkey : isKey key = true) (value : Data) :
    HasKeys (put key value entries) := by
  refine ⟨fun e he => ?_, ?_⟩
  · rcases key_of_mem_put he with heq | ⟨f, hf, heq⟩
    · rw [heq, hkey]
    · rw [← heq, h.keys f hf]
  · induction entries with
    | nil => exact List.pairwise_singleton ..
    | cons f entries ih =>
      obtain ⟨hapart, honce⟩ := List.pairwise_cons.mp h.once
      rw [Data.put]
      by_cases hsame : f.1.same key = true
      · rw [if_pos hsame]
        exact List.pairwise_cons.mpr ⟨hapart, honce⟩
      · rw [if_neg hsame]
        refine List.pairwise_cons.mpr ⟨fun e he => ?_, ih h.tail⟩
        rcases key_of_mem_put he with heq | ⟨g, hg, heq⟩
        · rw [heq, Bool.not_eq_true _ |>.mp hsame]
        · rw [← heq, hapart g hg]

end TestImpact.Proofs
