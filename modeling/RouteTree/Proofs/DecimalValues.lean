import RouteTree.Number.Decimal
import RouteTree.Proofs.NearestBinary

namespace RouteTree

theorem digitsValue_eq (digits : Text) : digitsValue digits = Nat.ofDigitChars 10 digits 0 :=
  Nat.ofDigitChars_eq_foldl.symm

theorem digitsValue_append (digits more : Text) :
    digitsValue (digits ++ more) = digitsValue digits * 10 ^ more.length + digitsValue more := by
  rw [digitsValue_eq, Nat.ofDigitChars_append, Nat.ofDigitChars_eq_ofDigitChars_zero,
    ← digitsValue_eq, ← digitsValue_eq, Nat.mul_comm]

theorem digitsValue_toDigits (n : Nat) : digitsValue (Nat.toDigits 10 n) = n := by
  rw [digitsValue_eq, Nat.ofDigitChars_ten_toDigits]

theorem digitsValue_zeros (k : Nat) : digitsValue (List.replicate k '0') = 0 := by
  rw [digitsValue_eq, Nat.ofDigitChars_replicate_zero, Nat.mul_zero]

theorem digitsValue_zeros_append (k : Nat) (digits : Text) :
    digitsValue (List.replicate k '0' ++ digits) = digitsValue digits := by
  rw [digitsValue_append, digitsValue_zeros, Nat.zero_mul, Nat.zero_add]

theorem digitsValue_append_zeros (digits : Text) (k : Nat) :
    digitsValue (digits ++ List.replicate k '0') = digitsValue digits * 10 ^ k := by
  rw [digitsValue_append, digitsValue_zeros, List.length_replicate, Nat.add_zero]

theorem lt_ten_pow_length (n : Nat) : n < 10 ^ (Nat.toDigits 10 n).length :=
  (Nat.length_toDigits_le_iff (by decide) Nat.length_toDigits_pos).mp (Nat.le_refl _)

theorem ten_pow_length_le {n : Nat} (hn : n ≠ 0) : 10 ^ ((Nat.toDigits 10 n).length - 1) ≤ n := by
  have hpos : 0 < (Nat.toDigits 10 n).length := Nat.length_toDigits_pos
  rcases Nat.eq_zero_or_pos ((Nat.toDigits 10 n).length - 1) with hzero | hlong
  · rw [hzero]
    exact Nat.pos_of_ne_zero hn
  · rw [← Nat.not_lt, ← Nat.length_toDigits_le_iff (by decide) hlong]
    omega

namespace Decimal

theorem two_pow_le_ten_pow (n : Nat) : 2 ^ (3 * n) ≤ 10 ^ n := by
  rw [Nat.pow_mul]
  exact Nat.pow_le_pow_left (by decide) n

theorem two_mul_two_pow_le (k n : Nat) (h : k + 1 ≤ 3 * n) : 2 * 2 ^ k ≤ 10 ^ n := by
  rw [← Nat.pow_succ']
  exact Nat.le_trans (Nat.pow_le_pow_right (by decide) h) (two_pow_le_ten_pow n)

theorem ratio_of_neg {d : Decimal} (h : d.exponent < 0) :
    d.ratio = (d.coefficient, 10 ^ d.exponent.natAbs) := if_pos h

theorem ratio_of_nonneg {d : Decimal} (h : 0 ≤ d.exponent) :
    d.ratio = (d.coefficient * 10 ^ d.exponent.natAbs, 1) := if_neg (Int.not_lt.mpr h)

theorem ratio_snd_pos (d : Decimal) : 0 < d.ratio.2 := by
  unfold ratio
  split
  · exact Rounding.ten_pow_pos _
  · exact Nat.zero_lt_one

theorem ratio_fst_of_coefficient {d : Decimal} (h : d.coefficient = 0) : d.ratio.1 = 0 := by
  unfold ratio
  split
  · exact h
  · rw [h, Nat.zero_mul]

/-- The number of digits before the point, or less by the zeros that follow it. -/
def size (d : Decimal) : Int := (Nat.toDigits 10 d.coefficient).length + d.exponent

theorem nearest?_of_size_small {d : Decimal} {n : Nat} (hn : 1075 ≤ 3 * n) (h : d.size < -n) :
    Magnitude.nearest? d.ratio.1 d.ratio.2 = some .zero := by
  unfold size at h
  have hneg : d.exponent < 0 := by omega
  have hcoefficient := Nat.le_of_lt (lt_ten_pow_length d.coefficient)
  have hexponent : (Nat.toDigits 10 d.coefficient).length + n ≤ d.exponent.natAbs := by omega
  have hunits : 2 * unitsPerOne ≤ 10 ^ n := by
    rw [unitsPerOne]
    exact two_mul_two_pow_le 1074 n hn
  rw [ratio_of_neg hneg]
  apply Magnitude.nearest?_eq_zero (Rounding.ten_pow_pos _)
  calc 2 * (d.coefficient * unitsPerOne)
      = d.coefficient * (2 * unitsPerOne) := Nat.mul_left_comm _ _ _
    _ ≤ 10 ^ (Nat.toDigits 10 d.coefficient).length * 10 ^ n := Nat.mul_le_mul hcoefficient hunits
    _ = 10 ^ ((Nat.toDigits 10 d.coefficient).length + n) := (Nat.pow_add _ _ _).symm
    _ ≤ 10 ^ d.exponent.natAbs := Nat.pow_le_pow_right (by decide) hexponent

theorem nearest?_of_size_large {d : Decimal} {n : Nat} (hn : 1024 ≤ 3 * n)
    (hne : d.coefficient ≠ 0) (h : n < d.size) :
    Magnitude.nearest? d.ratio.1 d.ratio.2 = none := by
  unfold size at h
  have hcoefficient := ten_pow_length_le hne
  have hone : 1 ≤ (Nat.toDigits 10 d.coefficient).length := Nat.length_toDigits_pos
  have hratio : d.ratio.2 * 10 ^ n ≤ d.ratio.1 := by
    rcases Int.lt_or_le d.exponent 0 with hneg | hnonneg
    · rw [ratio_of_neg hneg, ← Nat.pow_add]
      exact Nat.le_trans (Nat.pow_le_pow_right (by decide) (by omega)) hcoefficient
    · rw [ratio_of_nonneg hnonneg, Nat.one_mul]
      refine Nat.le_trans ?_ (Nat.mul_le_mul_right _ hcoefficient)
      rw [← Nat.pow_add]
      exact Nat.pow_le_pow_right (by decide) (by omega)
  exact Magnitude.nearest?_eq_none hn d.ratio_snd_pos
    (Nat.le_trans (Nat.mul_le_mul_left _ (two_pow_le_ten_pow n)) hratio)

/-- Far outside the range the ratio is not computed, but its rounding would be the same. -/
theorem toBinary64_eq (d : Decimal) :
    d.toBinary64 = Binary64.ofRatio d.negative d.ratio.1 d.ratio.2 := by
  have hzero := Magnitude.nearest?_zero Nat.zero_lt_one
  unfold toBinary64 round
  dsimp only
  rw [← size]
  split
  · rename_i hsmall
    unfold Binary64.ofRatio
    rw [hzero]
    rcases hsmall with hcoefficient | hsize
    · rw [ratio_fst_of_coefficient hcoefficient, Magnitude.nearest?_zero d.ratio_snd_pos]
    · rw [nearest?_of_size_small (n := 400) (by decide) hsize]
  · rename_i hsmall
    rw [not_or] at hsmall
    split
    · rename_i hlarge
      rw [Binary64.ofRatio, nearest?_of_size_large (n := 400) (by decide) hsmall.1 hlarge]
      rfl
    · rfl

theorem toBinary64_neg (negative : Bool) (coefficient n : Nat) :
    toBinary64 ⟨negative, coefficient, -n⟩ = Binary64.ofRatio negative coefficient (10 ^ n) := by
  rw [toBinary64_eq]
  rcases Nat.eq_zero_or_pos n with rfl | hpos
  · rw [ratio_of_nonneg (Int.le_refl 0)]
    exact congrArg (Binary64.ofRatio negative · 1) (Nat.mul_one coefficient)
  · rw [ratio_of_neg (Int.neg_neg_of_pos (Int.natCast_pos.mpr hpos))]
    exact congrArg (Binary64.ofRatio negative coefficient <| 10 ^ ·) (by simp)

theorem toBinary64_int (n : Int) :
    toBinary64 ⟨decide (n < 0), n.natAbs, 0⟩ = Binary64.ofInt n :=
  toBinary64_neg _ _ 0

theorem toBinary64_shift (negative : Bool) (coefficient : Nat) (exponent : Int) (k : Nat) :
    toBinary64 ⟨negative, coefficient * 10 ^ k, exponent - k⟩ =
      toBinary64 ⟨negative, coefficient, exponent⟩ := by
  rw [toBinary64_eq, toBinary64_eq]
  refine congrArg (Binary64.ofMagnitude? negative) ?_
  apply Magnitude.nearest?_congr (ratio_snd_pos _) (ratio_snd_pos _)
  rcases Int.lt_or_le exponent 0 with hneg | hnonneg
  · have hshifted : (exponent - k).natAbs = k + exponent.natAbs := by omega
    rw [ratio_of_neg (d := ⟨negative, coefficient, exponent⟩) hneg, ratio_of_neg (by dsimp; omega)]
    simp only [hshifted, Nat.pow_add, Nat.mul_assoc]
  · rw [ratio_of_nonneg (d := ⟨negative, coefficient, exponent⟩) hnonneg]
    rcases Int.lt_or_le (exponent - k) 0 with hneg | hshifted
    · have hk : k = exponent.natAbs + (exponent - k).natAbs := by omega
      rw [ratio_of_neg hneg]
      dsimp only
      rw [Nat.mul_one, Nat.mul_assoc, ← Nat.pow_add, ← hk]
    · have hexponent : exponent.natAbs = k + (exponent - k).natAbs := by omega
      rw [ratio_of_nonneg hshifted]
      dsimp only
      rw [Nat.mul_one, Nat.mul_one, hexponent, Nat.pow_add, Nat.mul_assoc]

theorem toBinary64_of_roundsHere {m : Magnitude} {value : Nat} (h : m.roundsHere value = true)
    (negative : Bool) : toBinary64 ⟨negative, value, -(1074 : Nat)⟩ = .finite negative m := by
  rw [toBinary64_neg, Binary64.ofRatio, Magnitude.nearest?_of_roundsHere h]
  rfl

end Decimal

end RouteTree
