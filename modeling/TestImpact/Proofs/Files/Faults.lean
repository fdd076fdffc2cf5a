import Mathlib.Tactic.Lemma
import TestImpact.Files.Operations

/-!
# What goes wrong with files

On a path without null characters an operation on files fails by an error of the system only.
-/

namespace TestImpact.Proofs
open Files

variable {fs later : Files} {cwd : Location} {p : Path} {follow : Bool} {f : Fault} {c : Char}

/-! ### Null characters in paths -/

lemma mem_joinText {sep : String} {texts : List String}
    (h : c ∈ (Text.joinText sep texts).toList) : c ∈ sep.toList ∨ ∃ s ∈ texts, c ∈ s.toList := by
  induction texts with
  | nil => simp [Text.joinText] at h
  | cons s rest ih =>
    cases rest with
    | nil => exact .inr ⟨s, by simp, h⟩
    | cons t rest =>
      simp only [Text.joinText, String.toList_append, List.mem_append] at h
      rcases h with (h | h) | h
      · exact .inr ⟨s, by simp, h⟩
      · exact .inl h
      · rcases ih h with hsep | ⟨u, hu, hc⟩
        · exact .inl hsep
        · exact .inr ⟨u, List.mem_cons_of_mem _ hu, hc⟩

lemma mem_joinText_of_mem {sep s : String} {texts : List String} (hs : s ∈ texts)
    (hc : c ∈ s.toList) : c ∈ (Text.joinText sep texts).toList := by
  induction texts with
  | nil => simp at hs
  | cons t rest ih =>
    cases rest with
    | nil =>
      obtain rfl := List.mem_singleton.mp hs
      exact hc
    | cons u rest =>
      simp only [Text.joinText, String.toList_append, List.mem_append]
      rcases List.mem_cons.mp hs with rfl | hrest
      · exact .inl (.inl hc)
      · exact .inr (ih hrest)

lemma hasNull_iff_exists_segment :
    hasNull p.toText = true ↔ ∃ s ∈ p.segments, '\x00' ∈ s.toList := by
  rw [hasNull, List.contains_iff_mem, Path.toText]
  split
  · rename_i hhere
    simp [hhere.2]
  · rw [String.toList_append, List.mem_append]
    have hanchor : '\x00' ∉ (Path.Anchor.toText p.anchor).toList := by
      cases p.anchor <;> decide +kernel
    constructor
    · rintro (h | h)
      · exact absurd h hanchor
      · rcases mem_joinText h with hsep | hs
        · exact absurd hsep (by decide +kernel)
        · exact hs
    · rintro ⟨s, hs, hc⟩
      exact .inr (mem_joinText_of_mem hs hc)

lemma hasNull_parent (h : hasNull p.toText = false) : hasNull p.parent.toText = false := by
  rw [← Bool.not_eq_true, hasNull_iff_exists_segment] at h ⊢
  rintro ⟨s, hs, hc⟩
  exact h ⟨s, (List.dropLast_sublist _).mem hs, hc⟩

/-! ### Errors of the system -/

lemma os_of_find (hnull : hasNull p.toText = false) (h : fs.find cwd follow p = .error f) :
    ∃ e, f = .os e := by
  rw [find, hnull] at h
  simp only [Bool.false_eq_true, if_false] at h
  split at h
  · simp at h
  · exact ⟨_, (Except.error.inj h).symm⟩

lemma os_of_unlink (hnull : hasNull p.toText = false) (h : fs.unlink cwd p = .error f) :
    ∃ e, f = .os e := by
  rw [unlink] at h
  split at h
  · rename_i g hfind
    obtain rfl := Except.error.inj h
    exact os_of_find hnull hfind
  · exact ⟨_, (Except.error.inj h).symm⟩
  · exact ⟨_, (Except.error.inj h).symm⟩
  · simp at h

lemma os_of_makeDir (hnull : hasNull p.toText = false) (h : fs.makeDir cwd p = .error f) :
    ∃ e, f = .os e := by
  rw [makeDir] at h
  split at h
  · rename_i g hfind
    obtain rfl := Except.error.inj h
    exact os_of_find hnull hfind
  · exact ⟨_, (Except.error.inj h).symm⟩
  · rename_i l _
    cases l with
    | nil => exact ⟨_, (Except.error.inj h).symm⟩
    | cons name dir =>
      rw [create] at h
      split at h
      · simp at h
      · exact ⟨_, (Except.error.inj h).symm⟩

lemma os_of_isDir (hnull : hasNull p.toText = false) (h : fs.isDir cwd p = .error f) :
    ∃ e, f = .os e := by
  have hstat : ∀ g, fs.stat cwd p = .error g → ∃ e, g = .os e := by
    intro g hg
    rw [stat] at hg
    split at hg
    · simp at hg
    · exact ⟨_, (Except.error.inj hg).symm⟩
    · rename_i g' hfind
      obtain rfl := Except.error.inj hg
      exact os_of_find hnull hfind
  rw [isDir, look?] at h
  cases hs : fs.stat cwd p with
  | ok e => simp [hs, Except.map] at h
  | error g =>
    obtain ⟨e, rfl⟩ := hstat g hs
    by_cases habsent : meansAbsent e.kind
    · simp [hs, habsent, Except.map] at h
    · simp only [hs, habsent, Bool.false_eq_true, if_false, Except.map, Except.error.injEq] at h
      exact ⟨e, h.symm⟩

lemma os_of_settle {e : OsError} (hnull : hasNull p.toText = false)
    (h : fs.settle cwd p (.os e) = .error f) : ∃ e, f = .os e := by
  rw [settle] at h
  cases hdir : fs.isDir cwd p with
  | ok there =>
    cases there with
    | true => simp [hdir] at h
    | false =>
      simp only [hdir, Except.error.injEq] at h
      exact ⟨e, h.symm⟩
  | error g =>
    simp only [hdir, Except.error.injEq] at h
    obtain ⟨e', rfl⟩ := os_of_isDir hnull hdir
    exact ⟨e', h.symm⟩

lemma os_of_ensureDirFrom {n : Nat} (hnull : hasNull p.toText = false)
    (h : ensureDirFrom cwd n p fs = (later, .error f)) : ∃ e, f = .os e := by
  induction n generalizing p later f with
  | zero =>
    rw [ensureDirFrom] at h
    split at h
    · simp at h
    · rename_i g hg
      obtain ⟨e, rfl⟩ := os_of_makeDir hnull hg
      split at h
      · exact ⟨e, (Except.error.inj (Prod.mk.inj h).2).symm⟩
      · exact os_of_settle hnull (Prod.mk.inj h).2
  | succ n ih =>
    rw [ensureDirFrom] at h
    split at h
    · simp at h
    · rename_i g hg
      obtain ⟨e, rfl⟩ := os_of_makeDir hnull hg
      split at h
      · dsimp only at h
        split at h
        · rename_i above g' habove
          obtain rfl := Except.error.inj (Prod.mk.inj h).2
          exact ih (hasNull_parent hnull) habove
        · rename_i above habove
          split at h
          · simp at h
          · rename_i g' hg'
            obtain ⟨e', rfl⟩ := os_of_makeDir hnull hg'
            have hr := (Prod.mk.inj h).2
            split at hr
            · exact ⟨e', (Except.error.inj hr).symm⟩
            · exact os_of_settle hnull hr
      · exact os_of_settle hnull (Prod.mk.inj h).2

end TestImpact.Proofs
