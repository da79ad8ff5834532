namespace RouteTree

-- Powers are computed by the power function of the type, not by the one of a monoid.
attribute [scoped instance (high), default_instance (high)] instPowNat

namespace Rounding

/-- The whole number nearest to `num / den`, a half going to the even neighbour. -/
def halfEven (num den : Nat) : Nat :=
  let quotient := num / den
  let twice := 2 * (num % den)
  if twice < den then quotient
  else if den < twice then quotient + 1
  else quotient + quotient % 2

/-- A mantissa of at most `precision` bits and a power of two, together nearest to `num / den`. -/
def toPrecision (precision num den : Nat) : Nat × Nat :=
  let power := (num / den).log2 + 1 - precision
  let mantissa := halfEven num (den * 2 ^ power)
  if mantissa < 2 ^ precision then (mantissa, power) else (2 ^ (precision - 1), power + 1)

theorem le_halfEven (num den : Nat) : num / den ≤ halfEven num den := by
  simp only [halfEven]
  split
  · exact Nat.le_refl _
  · split <;> omega

theorem halfEven_le (num den : Nat) : halfEven num den ≤ num / den + 1 := by
  simp only [halfEven]
  split
  · omega
  · split <;> omega

theorem toPrecision_lt {precision : Nat} (h : 0 < precision) (num den : Nat) :
    (toPrecision precision num den).1 < 2 ^ precision := by
  simp only [toPrecision]
  split
  · assumption
  · exact Nat.pow_lt_pow_right (by omega) (by omega)

end Rounding

end RouteTree
