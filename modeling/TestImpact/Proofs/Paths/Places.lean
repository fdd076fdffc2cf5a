import Mathlib.Tactic.Lemma
import TestImpact.Proofs.Paths.Climbing
import TestImpact.Proofs.Paths.Texts

/-!
# Places

The program that launches and the executor that it starts have different current directories. A text
means the same place to both of them if it leads to the same segments from the root. A path relative
to the working directory does; a path that is passed on as it is written may not.
-/

namespace TestImpact.Proofs
open TestImpact.Path

variable {cwd dir p : Path} {s : String}

/-! ### Where paths lead -/

lemma normal_of_absolute (h : p.isAbsolute = true) (cwd : Path) :
    p.normal cwd = climb [] p.segments := by
  change climb [] (join cwd p).segments = _
  rw [join, if_pos h]

lemma normal_of_relative (h : p.isAbsolute = false) (cwd : Path) :
    p.normal cwd = climb [] (cwd.segments ++ p.segments) := by
  change climb [] (join cwd p).segments = _
  rw [join, if_neg (by simp [h])]

/-- What is left of a path without double dots are segments. -/
lemma isSegment_of_mem_normal (h : s ∈ p.normal cwd) : IsSegment s ∧ s ≠ ".." := by
  rcases mem_climb h with hnone | ⟨hmem, hs⟩
  · simp at hnone
  · exact ⟨(p.absolute cwd).valid s hmem, hs⟩

lemma not_mem_normal (p cwd : Path) : ".." ∉ p.normal cwd :=
  fun h => (isSegment_of_mem_normal h).2 rfl

/-! ### The same place -/

/-- To a process that starts in a directory a text means the place that a path means at the current
directory. -/
def MeansPlace (cwd dir : Path) (text : String) (p : Path) : Prop :=
  (ofText text).normal (dir.absolute cwd) = p.normal cwd

instance (cwd dir : Path) (text : String) (p : Path) : Decidable (MeansPlace cwd dir text p) :=
  inferInstanceAs (Decidable (_ = _))

/-- A relative text that leads from a directory to the place of a path. -/
structure LeadsTo (cwd dir : Path) (text : String) (p : Path) : Prop where
  notEmpty : text ≠ ""
  notAbsolute : text.toList.head? ≠ some '/'
  arrives : MeansPlace cwd dir text p

lemma isSegment_of_mem_wayTo (h : s ∈ wayTo (dir.normal cwd) (p.normal cwd)) : IsSegment s := by
  rcases mem_wayTo h with rfl | hmem
  · decide +kernel
  · exact (isSegment_of_mem_normal hmem).1

/-- The text of a relative path is read as the way to it. -/
lemma ofText_relativeTo (p cwd dir : Path) : ofText (p.relativeTo cwd dir) =
    ⟨.relative, wayTo (dir.normal cwd) (p.normal cwd), fun _ => isSegment_of_mem_wayTo⟩ := by
  unfold relativeTo
  split
  · rename_i hway
    rw [ofText_dot]
    exact eq_of_parts rfl hway.symm
  · exact ofText_joinText fun _ => isSegment_of_mem_wayTo

lemma relativeTo_ne_empty (p cwd dir : Path) : p.relativeTo cwd dir ≠ "" := by
  intro hempty
  have hway := congrArg Path.segments (ofText_relativeTo p cwd dir)
  rw [hempty] at hway
  have hnone : wayTo (dir.normal cwd) (p.normal cwd) = [] := hway.symm
  unfold relativeTo at hempty
  rw [hnone] at hempty
  exact absurd hempty (by decide)

lemma head?_relativeTo (p cwd dir : Path) : (p.relativeTo cwd dir).toList.head? ≠ some '/' := by
  unfold relativeTo
  split
  · decide
  · exact head?_joinText fun _ => isSegment_of_mem_wayTo

/-- The text of a path relative to a directory leads from there to the path. -/
theorem leadsTo_relativeTo (p cwd dir : Path) : LeadsTo cwd dir (p.relativeTo cwd dir) p where
  notEmpty := relativeTo_ne_empty p cwd dir
  notAbsolute := head?_relativeTo p cwd dir
  arrives := by
    have hway : climb ((dir.normal cwd).reverse ++ []) (wayTo (dir.normal cwd) (p.normal cwd)) =
        p.normal cwd := climb_wayTo (not_mem_normal p cwd) []
    rw [List.append_nil] at hway
    rw [MeansPlace, ofText_relativeTo, normal_of_relative rfl, climb_append]
    exact hway

/-! ### Paths passed on as they are -/

/-- The text of an absolute path means its place to everybody. -/
lemma meansPlace_of_absolute (h : p.isAbsolute = true) : MeansPlace cwd dir p.toText p := by
  rw [MeansPlace, ofText_toText, normal_of_absolute h, normal_of_absolute h]

/-- The text of a path from an absolute directory means its place to everybody. -/
lemma meansPlace_absolute (h : cwd.isAbsolute = true) (dir p : Path) :
    MeansPlace cwd dir (p.absolute cwd).toText p := by
  have habsolute : (p.absolute cwd).isAbsolute = true := by
    change (join cwd p).isAbsolute = true
    rw [join]
    split
    · assumption
    · exact h
  rw [MeansPlace, ofText_toText, normal_of_absolute habsolute]
  rfl

/-- The text of a path means its place in another directory exactly if the path is absolute, or both
directories are the same once as many levels of them are left as the path leads up. -/
lemma meansPlace_toText_iff (cwd dir p : Path) : MeansPlace cwd dir p.toText p ↔
    p.isAbsolute = true ∨ (dir.normal cwd).rdrop (rise 0 p.segments) =
      (here.normal cwd).rdrop (rise 0 p.segments) := by
  by_cases habsolute : p.isAbsolute = true
  · exact iff_of_true (meansPlace_of_absolute habsolute) (.inl habsolute)
  · have hrelative : p.isAbsolute = false := by simpa using habsolute
    have hhere : here.normal cwd = climb [] cwd.segments := by
      rw [normal_of_relative rfl]
      exact congrArg (climb []) (List.append_nil _)
    rw [MeansPlace, ofText_toText, normal_of_relative hrelative, normal_of_relative hrelative,
      climb_append_eq, climb_append_eq, List.append_left_inj, ← hhere, hrelative]
    simp only [Bool.false_eq_true, false_or]
    rfl

end TestImpact.Proofs
