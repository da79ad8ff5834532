import RouteTree.Number.Shortest

namespace RouteTree

/-! What is rounded to a magnitude is told by its distance alone. -/

namespace Rounding

/-- No farther than a half from a whole number, and nearer to an odd one. -/
structure Near (num den k : Nat) : Prop where
  lower : 2 * (k * den) ≤ 2 * num + den
  upper : 2 * num ≤ 2 * (k * den) + den
  odd : k % 2 = 1 → 2 * (k * den) < 2 * num + den ∧ 2 * num < 2 * (k * den) + den

theorem Near.halfEven_eq {num den k : Nat} (h : Near num den k) (hden : 0 < den) :
    halfEven num den = k := by
  obtain ⟨hlower, hupper, hodd⟩ := h
  have hsplit : num / den * den + num % den = num := by
    rw [Nat.mul_comm]
    exact Nat.div_add_mod num den
  have hmod := Nat.mod_lt num hden
  have hquotient : k = num / den ∨ k = num / den + 1 := by
    rcases Nat.lt_or_ge k (num / den) with hlt | hge
    · have hstep := Nat.mul_le_mul_right den hlt
      rw [Nat.succ_mul] at hstep
      omega
    · rcases Nat.lt_or_ge (num / den + 1) k with hgt | hle
      · have hstep := Nat.mul_le_mul_right den hgt
        rw [Nat.succ_mul, Nat.succ_mul] at hstep
        omega
      · omega
  simp only [halfEven]
  rcases hquotient with rfl | rfl
  · split
    · rfl
    · split
      · omega
      · have heven : num / den % 2 ≠ 1 := fun h => by
          have := hodd h
          omega
        omega
  · rw [Nat.succ_mul (num / den) den] at hlower hupper hodd
    split
    · omega
    · split
      · rfl
      · have heven : (num / den + 1) % 2 ≠ 1 := fun h => by
          have := hodd h
          omega
        omega

theorem halfEven_mul_left {c : Nat} (hc : 0 < c) (num den : Nat) :
    halfEven (c * num) (c * den) = halfEven num den := by
  have hmod : 2 * (c * num % (c * den)) = c * (2 * (num % den)) := by
    rw [Nat.mul_mod_mul_left, Nat.mul_left_comm]
  simp only [halfEven, hmod, Nat.mul_div_mul_left _ _ hc, Nat.mul_lt_mul_left hc]

theorem toPrecision_mul_left {c : Nat} (hc : 0 < c) (precision num den : Nat) :
    toPrecision precision (c * num) (c * den) = toPrecision precision num den := by
  simp only [toPrecision, Nat.mul_div_mul_left _ _ hc, Nat.mul_assoc, halfEven_mul_left hc]

theorem power_eq {precision power n : Nat} (hprecision : 0 < precision)
    (hlt : n < 2 ^ (precision + power)) (hle : power = 0 ∨ 2 ^ (precision - 1 + power) ≤ n) :
    n.log2 + 1 - precision = power := by
  rcases Nat.eq_zero_or_pos n with rfl | hpos
  · have hpower : power = 0 := hle.resolve_right (by simp)
    rw [Nat.log2_zero]
    omega
  · have hne := Nat.ne_of_gt hpos
    have hbelow := (Nat.log2_lt hne).mpr hlt
    rcases hle with rfl | hle
    · omega
    · have habove := (Nat.le_log2 hne).mpr hle
      omega

theorem ten_pow (n : Nat) : 10 ^ n = 2 ^ n * 5 ^ n := Nat.mul_pow 2 5 n

theorem ten_pow_pos (n : Nat) : 0 < 10 ^ n := Nat.pow_pos (by decide)

theorem toPrecision_ten_pow (precision num n : Nat) :
    toPrecision precision (num * 2 ^ n) (10 ^ n) = toPrecision precision num (5 ^ n) := by
  rw [Nat.mul_comm, ten_pow, toPrecision_mul_left (Nat.two_pow_pos n)]

theorem two_pow_eq {precision : Nat} (hprecision : 0 < precision) :
    2 ^ precision = 2 * 2 ^ (precision - 1) := by
  rw [← Nat.pow_succ']
  congr 1
  omega

theorem toPrecision_carry {precision num den power : Nat} (hprecision : 0 < precision)
    (hden : 0 < den) (hlt : num < 2 ^ precision * (den * 2 ^ power))
    (hnear : 2 * (2 ^ precision * (den * 2 ^ power)) ≤ 2 * num + den * 2 ^ power) :
    toPrecision precision num den = (2 ^ (precision - 1), power + 1) := by
  have hdouble := two_pow_eq hprecision
  have hunit : 0 < den * 2 ^ power := Nat.mul_pos hden (Nat.two_pow_pos power)
  have hone : den * 2 ^ power ≤ 2 ^ (precision - 1) * (den * 2 ^ power) :=
    Nat.le_mul_of_pos_left _ (Nat.two_pow_pos _)
  have hlog : (num / den).log2 + 1 - precision = power := by
    refine power_eq hprecision ?_ (.inr ?_)
    · rwa [Nat.div_lt_iff_lt_mul hden, Nat.pow_add, Nat.mul_assoc, Nat.mul_comm (2 ^ power)]
    · rw [Nat.le_div_iff_mul_le hden, Nat.pow_add, Nat.mul_assoc, Nat.mul_comm (2 ^ power)]
      rw [hdouble, Nat.mul_assoc] at hnear
      omega
  have hcarry : Near num (den * 2 ^ power) (2 ^ precision) := ⟨hnear, by omega, by omega⟩
  simp only [toPrecision, hlog]
  rw [hcarry.halfEven_eq hunit, if_neg (Nat.lt_irrefl _)]

/-- The power is that of the ratio, unless a smaller ratio is rounded up to the least mantissa. -/
theorem toPrecision_eq {precision num den mantissa power : Nat} (hprecision : 0 < precision)
    (hden : 0 < den) (hlt : mantissa < 2 ^ precision)
    (hnormal : 2 ^ (precision - 1) ≤ mantissa ∨ power = 0)
    (hnear : Near num (den * 2 ^ power) mantissa)
    (hleast : mantissa = 2 ^ (precision - 1) → 0 < power →
      4 * (mantissa * (den * 2 ^ power)) ≤ 4 * num + den * 2 ^ power) :
    toPrecision precision num den = (mantissa, power) := by
  by_cases hcase : power = 0 ∨ 2 ^ (precision - 1 + power) ≤ num / den
  · have hunit : 0 < den * 2 ^ power := Nat.mul_pos hden (Nat.two_pow_pos power)
    have hquotient : num / den < 2 ^ (precision + power) := by
      have hupper := hnear.upper
      have hstep := Nat.mul_le_mul_right (den * 2 ^ power) hlt
      rw [Nat.succ_mul] at hstep
      rw [Nat.div_lt_iff_lt_mul hden, Nat.pow_add, Nat.mul_assoc, Nat.mul_comm (2 ^ power)]
      omega
    simp only [toPrecision, power_eq hprecision hquotient hcase]
    rw [hnear.halfEven_eq hunit, if_pos hlt]
  · rw [not_or] at hcase
    obtain ⟨hpower, hquotient⟩ := hcase
    obtain ⟨below, rfl⟩ := Nat.exists_eq_succ_of_ne_zero hpower
    have hhalf : den * 2 ^ (below + 1) = 2 * (den * 2 ^ below) := by
      rw [Nat.pow_succ']
      exact Nat.mul_left_comm den 2 _
    have hsmall : num < 2 ^ (precision - 1) * (2 * (den * 2 ^ below)) := by
      rw [Nat.not_le, Nat.div_lt_iff_lt_mul hden] at hquotient
      rwa [← hhalf, Nat.mul_comm den, ← Nat.mul_assoc, ← Nat.pow_add]
    rw [hhalf] at hnear hleast
    -- A ratio that small is near to no larger mantissa.
    have hmantissa : mantissa = 2 ^ (precision - 1) := by
      refine Nat.le_antisymm (Nat.not_lt.mp fun habove => ?_) (hnormal.resolve_right hpower)
      have hstep := Nat.mul_le_mul_right (2 * (den * 2 ^ below)) habove
      rw [Nat.succ_mul] at hstep
      have := hnear.lower
      omega
    have hgap := hleast hmantissa (Nat.succ_pos below)
    have htop : 2 ^ precision * (den * 2 ^ below) =
        2 ^ (precision - 1) * (2 * (den * 2 ^ below)) := by
      rw [two_pow_eq hprecision, Nat.mul_assoc, Nat.mul_left_comm]
    rw [hmantissa] at hgap ⊢
    exact toPrecision_carry hprecision hden (by omega) (by omega)

theorem le_toPrecision {precision num den power : Nat} (hprecision : 0 < precision)
    (h : 2 ^ (precision - 1 + power) ≤ num / den) :
    2 ^ (precision - 1) ≤ (toPrecision precision num den).1 ∧
      power ≤ (toPrecision precision num den).2 := by
  have hne : num / den ≠ 0 := fun hzero => by
    rw [hzero] at h
    exact absurd h (by simp)
  have hlog := (Nat.le_log2 hne).mpr h
  have hsplit : precision - 1 + ((num / den).log2 + 1 - precision) = (num / den).log2 := by omega
  have hmantissa : 2 ^ (precision - 1) ≤
      halfEven num (den * 2 ^ ((num / den).log2 + 1 - precision)) := by
    refine Nat.le_trans ?_ (le_halfEven _ _)
    rw [← Nat.div_div_eq_div_mul, Nat.le_div_iff_mul_le (Nat.two_pow_pos _), ← Nat.pow_add, hsplit]
    exact Nat.log2_self_le hne
  simp only [toPrecision]
  split
  · exact ⟨hmantissa, by omega⟩
  · exact ⟨Nat.le_refl _, by omega⟩

end Rounding

namespace Magnitude

theorem mantissa_lt (m : Magnitude) : m.mantissa < 2 ^ 53 := by
  have := m.fraction.isLt
  unfold mantissa
  split <;> omega

theorem mantissa_normal (m : Magnitude) : 2 ^ 52 ≤ m.mantissa ∨ m.scale = 0 := by
  unfold mantissa scale
  split <;> omega

theorem ofParts?_eq (m : Magnitude) (h : m.mantissa < 2 ^ 53) :
    ofParts? (m.mantissa, m.scale) h = some m := by
  obtain ⟨⟨exponent, hexponent⟩, ⟨fraction, hfraction⟩⟩ := m
  unfold ofParts? mantissa scale
  by_cases hzero : exponent = 0
  · subst hzero
    simp [hfraction]
  · have hscale : exponent - 1 + 1 = exponent := by omega
    have hfull : ¬ 2 ^ 52 + fraction < 2 ^ 52 := by omega
    simp only [if_neg hzero, dif_neg hfull, hscale, dif_pos hexponent, Nat.add_sub_cancel_left]

theorem nearest?_eq_of_parts {num den : Nat} {m : Magnitude}
    (h : Rounding.toPrecision 53 (num * unitsPerOne) den = (m.mantissa, m.scale)) :
    nearest? num den = some m := by
  simp only [nearest?, h]
  exact ofParts?_eq m _

theorem nearest?_mul_left {c : Nat} (hc : 0 < c) (num den : Nat) :
    nearest? (c * num) (c * den) = nearest? num den := by
  simp only [nearest?, Nat.mul_assoc, Rounding.toPrecision_mul_left hc]

theorem decimalUnits_eq (m : Magnitude) : m.decimalUnits = m.mantissa * m.decimalGap := by
  rw [decimalUnits, units, decimalGap, Nat.mul_assoc]

theorem decimalGap_eq (m : Magnitude) : m.decimalGap = 5 ^ 1074 * 2 ^ m.scale := by
  rw [decimalGap, Nat.mul_comm]

theorem five_pow_pos (n : Nat) : 0 < 5 ^ n := Nat.pow_pos (by decide)

theorem decimalGap_pos (m : Magnitude) : 0 < m.decimalGap := by
  rw [decimalGap]
  exact Nat.mul_pos (Nat.two_pow_pos _) (five_pow_pos 1074)

theorem near_of_roundsHere {m : Magnitude} {value : Nat} (h : m.roundsHere value = true) :
    Rounding.Near value m.decimalGap m.mantissa := by
  have hunits := m.decimalUnits_eq
  have hfrom : 4 * m.decimalUnits - 2 * m.decimalGap ≤ m.roundsFrom := by
    unfold roundsFrom
    split <;> omega
  unfold roundsHere roundsTo at h
  split at h
  · rw [Bool.and_eq_true, decide_eq_true_iff, decide_eq_true_iff] at h
    exact ⟨by omega, by omega, by omega⟩
  · rw [Bool.and_eq_true, decide_eq_true_iff, decide_eq_true_iff] at h
    exact ⟨by omega, by omega, by omega⟩

/-- A number in the range of a magnitude is rounded to it. -/
theorem nearest?_of_roundsHere {m : Magnitude} {value : Nat} (h : m.roundsHere value = true) :
    nearest? value (10 ^ 1074) = some m := by
  have hnear := near_of_roundsHere h
  -- Below a power of two the magnitudes lie closer, and the range ends after half the distance.
  have hleast : m.mantissa = 2 ^ 52 → 0 < m.scale →
      4 * (m.mantissa * m.decimalGap) ≤ 4 * value + m.decimalGap := by
    intro hmantissa hscale
    have hpower : m.fraction.val = 0 ∧ 1 < m.exponent.val := by
      unfold scale at hscale
      unfold mantissa at hmantissa
      split at hmantissa <;> omega
    have hunits := m.decimalUnits_eq
    have heven : m.mantissa % 2 = 0 := by
      rw [hmantissa]
    unfold roundsHere roundsFrom at h
    rw [if_pos heven, if_pos hpower, Bool.and_eq_true, decide_eq_true_iff] at h
    omega
  apply nearest?_eq_of_parts
  rw [unitsPerOne, Rounding.toPrecision_ten_pow 53 value 1074]
  rw [decimalGap_eq] at hnear hleast
  exact Rounding.toPrecision_eq (by decide) (five_pow_pos 1074) m.mantissa_lt
    m.mantissa_normal hnear hleast

theorem roundsHere_decimalUnits (m : Magnitude) : m.roundsHere m.decimalUnits = true := by
  have hgap := m.decimalGap_pos
  have hunits := m.decimalUnits_eq
  unfold roundsHere roundsFrom roundsTo
  split
  · rw [Bool.and_eq_true, decide_eq_true_iff, decide_eq_true_iff]
    split <;> omega
  · have hpos : 0 < m.decimalUnits := by
      rw [hunits]
      exact Nat.mul_pos (by omega) hgap
    rw [Bool.and_eq_true, decide_eq_true_iff, decide_eq_true_iff]
    split <;> omega

theorem nearest?_ten_pow_right (num n : Nat) :
    nearest? (num * 5 ^ n) (10 ^ n) = nearest? num (2 ^ n) := by
  rw [Nat.mul_comm, Rounding.ten_pow, Nat.mul_comm (2 ^ n), nearest?_mul_left (five_pow_pos n)]

theorem nearest?_units (m : Magnitude) : nearest? m.units unitsPerOne = some m := by
  have hexact := nearest?_of_roundsHere m.roundsHere_decimalUnits
  rwa [decimalUnits, nearest?_ten_pow_right m.units 1074] at hexact

theorem unitsPerOne_pos : 0 < unitsPerOne := by
  rw [unitsPerOne]
  exact Nat.two_pow_pos 1074

theorem zero_isWhole : zero.isWhole = true := by
  have hunits : zero.units = 0 := rfl
  rw [isWhole, hunits, Nat.zero_mod]
  rfl

theorem zero_truncate : zero.truncate = 0 := by
  have hunits : zero.units = 0 := rfl
  rw [truncate, hunits, Nat.zero_div]

theorem unitsPerOne_mul_truncate {m : Magnitude} (h : m.isWhole = true) :
    unitsPerOne * m.truncate = m.units :=
  Nat.mul_div_cancel' (Nat.dvd_of_mod_eq_zero (eq_of_beq h))

theorem nearest?_truncate (m : Magnitude) (h : m.isWhole = true) :
    nearest? m.truncate 1 = some m := by
  have hexact := m.nearest?_units
  rw [← unitsPerOne_mul_truncate h] at hexact
  rwa [← nearest?_mul_left unitsPerOne_pos, Nat.mul_one]

theorem ofParts?_eq_none {parts : Nat × Nat} (h : parts.1 < 2 ^ 53) (hmantissa : 2 ^ 52 ≤ parts.1)
    (hscale : 2046 ≤ parts.2) : ofParts? parts h = none := by
  rw [ofParts?, dif_neg (Nat.not_lt.mpr hmantissa), dif_neg (by omega)]

theorem nearest?_congr {num den num' den' : Nat} (hden : 0 < den) (hden' : 0 < den')
    (h : num * den' = num' * den) : nearest? num den = nearest? num' den' := by
  rw [← nearest?_mul_left hden', ← nearest?_mul_left hden num', Nat.mul_comm den', h,
    Nat.mul_comm den num', Nat.mul_comm den den']

theorem nearest?_eq_zero {num den : Nat} (hden : 0 < den) (h : 2 * (num * unitsPerOne) ≤ den) :
    nearest? num den = some zero := by
  have hnear : Rounding.Near (num * unitsPerOne) (den * 2 ^ 0) 0 := by
    rw [Nat.pow_zero, Nat.mul_one]
    exact ⟨by omega, by omega, by omega⟩
  exact nearest?_eq_of_parts (Rounding.toPrecision_eq (by decide) hden (by decide) (.inr rfl) hnear
    (fun _ hpower => absurd hpower (Nat.lt_irrefl 0)))

theorem nearest?_zero {den : Nat} (hden : 0 < den) : nearest? 0 den = some zero :=
  nearest?_eq_zero hden (by simp)

theorem truncate_pos {m : Magnitude} (h : m.isWhole = true) (hm : m ≠ zero) : 0 < m.truncate := by
  apply Nat.pos_of_ne_zero
  intro hzero
  have hnearest := m.nearest?_truncate h
  rw [hzero, nearest?_zero Nat.zero_lt_one] at hnearest
  exact hm (Option.some_inj.mp hnearest).symm

theorem nearest?_eq_none {num den power : Nat} (hpower : 1024 ≤ power) (hden : 0 < den)
    (h : den * 2 ^ power ≤ num) : nearest? num den = none := by
  have hsplit : 53 - 1 + (power - 52 + 1074) = power + 1074 := by omega
  have hlarge : 2 ^ (53 - 1 + (power - 52 + 1074)) ≤ num * unitsPerOne / den := by
    rw [Nat.le_div_iff_mul_le hden, hsplit, Nat.pow_add, Nat.mul_right_comm, Nat.mul_comm _ den,
      ← unitsPerOne]
    exact Nat.mul_le_mul_right unitsPerOne h
  obtain ⟨hmantissa, hscale⟩ := Rounding.le_toPrecision (by decide) hlarge
  exact ofParts?_eq_none _ hmantissa (by omega)

end Magnitude

end RouteTree
