import Mathlib.Tactic.Lemma
import TestImpact.Data.Basic

/-!
# Sameness of numbers

A double precision number that is an integer is the only one that is this integer, up to the sign of
zero. So sameness is an equivalence over truth values, integers and numbers with a point.
-/

namespace TestImpact.Proofs
open Binary64

variable {x y z : Binary64} {n : Int}

/-! ### Significands -/

lemma fraction_lt (x : Binary64) : x.fraction < Nat.pow 2 52 := Nat.mod_lt _ (by decide)

lemma significand_of_zero (h : x.biasedExponent = 0) : x.significand = x.fraction := by
  rw [significand, h]
  rfl

lemma significand_of_pos (h : 0 < x.biasedExponent) :
    x.significand = x.fraction + Nat.pow 2 52 :=
  if_neg (by rw [beq_iff_eq]; omega)

lemma significand_lt (x : Binary64) : x.significand < Nat.pow 2 53 := by
  have hfraction := fraction_lt x
  have hdouble : Nat.pow 2 53 = 2 * Nat.pow 2 52 := rfl
  rcases Nat.eq_zero_or_pos x.biasedExponent with h | h
  · rw [significand_of_zero h]
    omega
  · rw [significand_of_pos h]
    omega

/-- The least positive number is two to the power of minus this. -/
def leastScale : Nat := 1074

lemma scale_eq (x : Binary64) : x.scale = (x.biasedExponent - 1 : Nat) - leastScale := by
  unfold scale leastScale
  split
  · rename_i h
    rw [beq_iff_eq.mp h]
    rfl
  · rename_i h
    rw [beq_iff_eq] at h
    omega

/-! ### Numbers that are integers -/

/-- What a number that is an integer is made of. -/
lemma of_toInt (h : x.toInt? = some n) :
    x.isFinite = true ∧
      n.natAbs * Nat.pow 2 (-x.scale).toNat = x.significand * Nat.pow 2 x.scale.toNat ∧
      (n ≠ 0 → x.isNegative = decide (n < 0)) := by
  generalize hnum : x.significand * Nat.pow 2 x.scale.toNat = num
  generalize hden : Nat.pow 2 (-x.scale).toNat = den
  have hunfold : (if (x.isFinite && num % den == 0) = true then
      some (if x.isNegative = true then -((num / den : Nat) : Int) else ((num / den : Nat) : Int))
      else none) = some n := by
    rw [← hnum, ← hden]
    exact h
  by_cases hwhole : (x.isFinite && num % den == 0) = true
  · rw [if_pos hwhole] at hunfold
    have hvalue := Option.some.inj hunfold
    rw [Bool.and_eq_true, beq_iff_eq] at hwhole
    have hmul := Nat.div_mul_cancel (Nat.dvd_of_mod_eq_zero hwhole.2)
    generalize num / den = whole at hvalue hmul
    refine ⟨hwhole.1, ?_, fun hn => ?_⟩
    · rw [← hmul]
      congr 1
      split at hvalue <;> omega
    · cases hsign : x.isNegative
      · rw [hsign, if_neg (by decide)] at hvalue
        exact (decide_eq_false (by omega)).symm
      · rw [hsign, if_pos rfl] at hvalue
        exact (decide_eq_true (by omega)).symm
  · rw [if_neg hwhole] at hunfold
    cases hunfold

lemma two_pow_add (a b : Nat) : Nat.pow 2 (a + b) = Nat.pow 2 a * Nat.pow 2 b := Nat.pow_add 2 a b

lemma two_pow_pos (a : Nat) : 0 < Nat.pow 2 a := Nat.two_pow_pos a

/-- The magnitude of an integral number, in units of the least positive one. -/
lemma significand_of_toInt (h : x.toInt? = some n) :
    x.significand * Nat.pow 2 (x.biasedExponent - 1) = n.natAbs * Nat.pow 2 leastScale := by
  have hscale := scale_eq x
  have hmul := (of_toInt h).2.1
  generalize hu : x.scale.toNat = u at hmul
  generalize hv : (-x.scale).toNat = v at hmul
  have hsum : u + leastScale = x.biasedExponent - 1 + v := by omega
  apply Nat.eq_of_mul_eq_mul_right (two_pow_pos v)
  calc x.significand * Nat.pow 2 (x.biasedExponent - 1) * Nat.pow 2 v
      = x.significand * Nat.pow 2 (u + leastScale) := by rw [hsum, two_pow_add, Nat.mul_assoc]
    _ = n.natAbs * Nat.pow 2 v * Nat.pow 2 leastScale := by rw [hmul, two_pow_add, Nat.mul_assoc]
    _ = n.natAbs * Nat.pow 2 leastScale * Nat.pow 2 v := Nat.mul_right_comm ..

lemma significand_inj_of_le (hle : x.biasedExponent ≤ y.biasedExponent)
    (h : x.significand * Nat.pow 2 (x.biasedExponent - 1) =
      y.significand * Nat.pow 2 (y.biasedExponent - 1)) :
    x.biasedExponent = y.biasedExponent ∧ x.fraction = y.fraction := by
  obtain ⟨d, hd⟩ : ∃ d, y.biasedExponent - 1 = x.biasedExponent - 1 + d :=
    ⟨y.biasedExponent - 1 - (x.biasedExponent - 1), by omega⟩
  have hshift : x.significand = y.significand * Nat.pow 2 d := by
    apply Nat.eq_of_mul_eq_mul_right (two_pow_pos (x.biasedExponent - 1))
    rw [h, hd, two_pow_add]
    ac_rfl
  have hx := significand_lt x
  have hfx := fraction_lt x
  have hfy := fraction_lt y
  rcases Nat.eq_zero_or_pos d with rfl | hpos
  · have hsame : x.significand = y.significand := hshift.trans (Nat.mul_one _)
    rcases Nat.eq_zero_or_pos x.biasedExponent with hzero | hnormal
    · rcases Nat.eq_zero_or_pos y.biasedExponent with hzero' | hnormal'
      · rw [significand_of_zero hzero, significand_of_zero hzero'] at hsame
        exact ⟨hzero.trans hzero'.symm, hsame⟩
      · rw [significand_of_zero hzero, significand_of_pos hnormal'] at hsame
        omega
    · rw [significand_of_pos hnormal, significand_of_pos (by omega)] at hsame
      omega
  · -- The number of the greater exponent has its leading bit, which the other one cannot reach.
    have hlead : Nat.pow 2 52 ≤ y.significand := by
      rw [significand_of_pos (by omega)]
      omega
    have htwo : Nat.pow 2 1 ≤ Nat.pow 2 d := Nat.pow_le_pow_right (by decide) hpos
    have hreach := Nat.mul_le_mul hlead htwo
    have hdouble : Nat.pow 2 52 * Nat.pow 2 1 = Nat.pow 2 53 := rfl
    omega

/-- A magnitude has one significand and one exponent. -/
lemma significand_inj
    (h : x.significand * Nat.pow 2 (x.biasedExponent - 1) =
      y.significand * Nat.pow 2 (y.biasedExponent - 1)) :
    x.biasedExponent = y.biasedExponent ∧ x.fraction = y.fraction := by
  rcases Nat.le_total x.biasedExponent y.biasedExponent with hle | hle
  · exact significand_inj_of_le hle h
  · obtain ⟨hexponent, hfraction⟩ := significand_inj_of_le hle h.symm
    exact ⟨hexponent.symm, hfraction.symm⟩

lemma bits_ext (hsign : x.isNegative = y.isNegative)
    (hexponent : x.biasedExponent = y.biasedExponent) (hfraction : x.fraction = y.fraction) :
    x.bits = y.bits := by
  have hx := x.bits.toNat_lt
  have hy := y.bits.toNat_lt
  have hsigns : x.bits.toNat / 2 ^ 63 = 1 ↔ y.bits.toNat / 2 ^ 63 = 1 := by
    have hflags : (x.bits.toNat / 2 ^ 63 == 1) = (y.bits.toNat / 2 ^ 63 == 1) := hsign
    rw [Bool.eq_iff_iff, beq_iff_eq, beq_iff_eq] at hflags
    exact hflags
  have hexponents : x.bits.toNat / 2 ^ 52 % 2 ^ 11 = y.bits.toNat / 2 ^ 52 % 2 ^ 11 := hexponent
  have hfractions : x.bits.toNat % 2 ^ 52 = y.bits.toNat % 2 ^ 52 := hfraction
  apply UInt64.toNat_inj.mp
  omega

lemma isZero_of_significand (h : x.significand = 0) : x.isZero = true := by
  rcases Nat.eq_zero_or_pos x.biasedExponent with hzero | hnormal
  · rw [significand_of_zero hzero] at h
    simp [isZero, hzero, h]
  · rw [significand_of_pos hnormal] at h
    have hpos : 0 < x.fraction + Nat.pow 2 52 := Nat.add_pos_right _ (two_pow_pos 52)
    exact absurd h (Nat.ne_of_gt hpos)

lemma isZero_of_toInt (h : x.toInt? = some 0) : x.isZero = true := by
  have hmagnitude := (of_toInt h).2.1
  rw [Int.natAbs_zero, Nat.zero_mul, eq_comm, Nat.mul_eq_zero] at hmagnitude
  exact isZero_of_significand (hmagnitude.resolve_right (Nat.ne_of_gt (two_pow_pos _)))

/-- Two numbers that are the same integer are the same number. -/
lemma sameNumber_of_toInt (hx : x.toInt? = some n) (hy : y.toInt? = some n) :
    x.sameNumber y = true := by
  by_cases hn : n = 0
  · subst hn
    simp [sameNumber, isZero_of_toInt hx, isZero_of_toInt hy]
  · have hmagnitude := (significand_of_toInt hx).trans (significand_of_toInt hy).symm
    obtain ⟨hexponent, hfraction⟩ := significand_inj hmagnitude
    have hsign := ((of_toInt hx).2.2 hn).trans ((of_toInt hy).2.2 hn).symm
    simp [sameNumber, bits_ext hsign hexponent hfraction]

lemma toInt_of_isZero (h : x.isZero = true) : x.toInt? = some 0 := by
  rw [isZero, Bool.and_eq_true, beq_iff_eq, beq_iff_eq] at h
  have hsignificand : x.significand = 0 := (significand_of_zero h.1).trans h.2
  have hfinite : x.isFinite = true := by simp [isFinite, h.1]
  simp [toInt?, ratio, hsignificand, hfinite]

lemma sameNumber_iff :
    x.sameNumber y = true ↔ x.bits = y.bits ∨ x.isZero = true ∧ y.isZero = true := by
  rw [sameNumber, Bool.or_eq_true, Bool.and_eq_true, beq_iff_eq]

/-- Numbers that are the same are the same integer, if any. -/
lemma toInt_of_sameNumber (h : x.sameNumber y = true) : x.toInt? = y.toInt? := by
  rcases sameNumber_iff.mp h with hbits | ⟨hzero, hzero'⟩
  · exact congrArg toInt? (congrArg Binary64.mk hbits)
  · rw [toInt_of_isZero hzero, toInt_of_isZero hzero']

/-! ### Sameness -/

lemma sameNumber_refl (x : Binary64) : x.sameNumber x = true := sameNumber_iff.mpr (.inl rfl)

lemma sameNumber_symm (h : x.sameNumber y = true) : y.sameNumber x = true := by
  apply sameNumber_iff.mpr
  rcases sameNumber_iff.mp h with hbits | ⟨hzero, hzero'⟩
  · exact .inl hbits.symm
  · exact .inr ⟨hzero', hzero⟩

lemma sameNumber_trans (h : x.sameNumber y = true) (h' : y.sameNumber z = true) :
    x.sameNumber z = true := by
  have hzeros : ∀ {u v : Binary64}, u.bits = v.bits → u.isZero = v.isZero :=
    fun hbits => congrArg isZero (congrArg Binary64.mk hbits)
  apply sameNumber_iff.mpr
  rcases sameNumber_iff.mp h with hbits | ⟨hzero, hzero'⟩
  · rcases sameNumber_iff.mp h' with hbits' | ⟨hzero, hzero'⟩
    · exact .inl (hbits.trans hbits')
    · exact .inr ⟨(hzeros hbits).trans hzero, hzero'⟩
  · rcases sameNumber_iff.mp h' with hbits' | ⟨-, hzero''⟩
    · exact .inr ⟨hzero, (hzeros hbits').symm.trans hzero'⟩
    · exact .inr ⟨hzero, hzero''⟩

open Data

lemma numberSame_refl (a : Number) : a.same a = true := by
  cases a with
  | int m => exact beq_self_eq_true m
  | float x => exact sameNumber_refl x

lemma numberSame_symm {a b : Number} (h : a.same b = true) : b.same a = true := by
  cases a with
  | int m =>
    cases b with
    | int n =>
      rw [Number.same, beq_iff_eq] at h ⊢
      exact h.symm
    | float y => exact h
  | float x =>
    cases b with
    | int n => exact h
    | float y => exact sameNumber_symm h

lemma numberSame_trans {a b c : Number} (h : a.same b = true) (h' : b.same c = true) :
    a.same c = true := by
  cases a <;> cases b <;> cases c <;> simp only [Number.same, beq_iff_eq] at h h' ⊢
  case int.int.int => exact h.trans h'
  case int.int.float => exact h ▸ h'
  case int.float.int => exact Option.some.inj (h.symm.trans h')
  case int.float.float => exact (toInt_of_sameNumber h').symm.trans h
  case float.int.int => exact h' ▸ h
  case float.int.float => exact sameNumber_of_toInt h h'
  case float.float.int => exact (toInt_of_sameNumber h).trans h'
  case float.float.float => exact sameNumber_trans h h'

end TestImpact.Proofs
