import RouteTree.Proofs.NearestBinary

namespace RouteTree

/-! Rounding keeps the order, and what is rounded to a magnitude lies in its range. -/

namespace Rounding

theorem near_halfEven {den : Nat} (hden : 0 < den) (num : Nat) :
    Near num den (halfEven num den) := by
  have hsplit : num / den * den + num % den = num := by
    rw [Nat.mul_comm]
    exact Nat.div_add_mod num den
  have hmod := Nat.mod_lt num hden
  have hnext : (num / den + 1) * den = num / den * den + den := Nat.succ_mul _ _
  simp only [halfEven]
  split
  · exact ⟨by omega, by omega, by omega⟩
  · split
    · exact ⟨by omega, by omega, by omega⟩
    · rcases Nat.mod_two_eq_zero_or_one (num / den) with heven | hodd
      · rw [heven, Nat.add_zero]
        exact ⟨by omega, by omega, by omega⟩
      · rw [hodd]
        exact ⟨by omega, by omega, by omega⟩

theorem halfEven_mono {num num' : Nat} (h : num ≤ num') (den : Nat) :
    halfEven num den ≤ halfEven num' den := by
  have hquotient : num / den ≤ num' / den := Nat.div_le_div_right h
  rcases Nat.lt_or_eq_of_le hquotient with hlt | heq
  · calc halfEven num den
        ≤ num / den + 1 := halfEven_le num den
      _ ≤ num' / den := hlt
      _ ≤ halfEven num' den := le_halfEven num' den
  · have hmod : num % den ≤ num' % den := by
      have hsplit := Nat.div_add_mod num den
      have hsplit' := Nat.div_add_mod num' den
      rw [heq] at hsplit
      omega
    simp only [halfEven, heq]
    repeat' split
    all_goals omega

variable {precision den : Nat}

/-- The power of two that a ratio is rounded with, before a carry. -/
def power (precision num den : Nat) : Nat := (num / den).log2 + 1 - precision

theorem toPrecision_of_lt {num : Nat}
    (h : halfEven num (den * 2 ^ power precision num den) < 2 ^ precision) :
    toPrecision precision num den =
      (halfEven num (den * 2 ^ power precision num den), power precision num den) := if_pos h

theorem toPrecision_of_le {num : Nat}
    (h : 2 ^ precision ≤ halfEven num (den * 2 ^ power precision num den)) :
    toPrecision precision num den = (2 ^ (precision - 1), power precision num den + 1) :=
  if_neg (Nat.not_lt.mpr h)

theorem div_lt_two_pow (precision num den : Nat) :
    num / (den * 2 ^ power precision num den) < 2 ^ precision := by
  have hbits : (num / den).log2 + 1 ≤ precision + power precision num den := by
    unfold power
    omega
  rw [← Nat.div_div_eq_div_mul, Nat.div_lt_iff_lt_mul (Nat.two_pow_pos _), ← Nat.pow_add]
  exact Nat.lt_of_lt_of_le Nat.lt_log2_self (Nat.pow_le_pow_right (by decide) hbits)

theorem halfEven_le_two_pow (precision num den : Nat) :
    halfEven num (den * 2 ^ power precision num den) ≤ 2 ^ precision :=
  Nat.le_trans (halfEven_le _ _) (div_lt_two_pow precision num den)

theorem two_pow_le_div (hprecision : 0 < precision) {num : Nat}
    (h : 0 < power precision num den) :
    2 ^ (precision - 1) ≤ num / (den * 2 ^ power precision num den) := by
  have hne : num / den ≠ 0 := by
    intro hzero
    unfold power at h
    rw [hzero, Nat.log2_zero] at h
    omega
  have hbits : precision - 1 + power precision num den ≤ (num / den).log2 := by
    unfold power at h ⊢
    omega
  rw [← Nat.div_div_eq_div_mul, Nat.le_div_iff_mul_le (Nat.two_pow_pos _), ← Nat.pow_add]
  exact Nat.le_trans (Nat.pow_le_pow_right (by decide) hbits) (Nat.log2_self_le hne)

theorem power_mono {num num' : Nat} (h : num ≤ num') :
    power precision num den ≤ power precision num' den := by
  have hquotient : num / den ≤ num' / den := Nat.div_le_div_right h
  have hlog : (num / den).log2 ≤ (num' / den).log2 := by
    rcases Nat.eq_zero_or_pos (num / den) with hzero | hpos
    · rw [hzero, Nat.log2_zero]
      exact Nat.zero_le _
    · rw [Nat.le_log2 (Nat.ne_of_gt (Nat.lt_of_lt_of_le hpos hquotient))]
      exact Nat.le_trans (Nat.log2_self_le (Nat.ne_of_gt hpos)) hquotient
  exact Nat.sub_le_sub_right (Nat.succ_le_succ hlog) precision

theorem toPrecision_value (hprecision : 0 < precision) (num : Nat) :
    (toPrecision precision num den).1 * 2 ^ (toPrecision precision num den).2 =
      halfEven num (den * 2 ^ power precision num den) * 2 ^ power precision num den := by
  rcases Nat.lt_or_ge (halfEven num (den * 2 ^ power precision num den)) (2 ^ precision) with
    hlt | hge
  · rw [toPrecision_of_lt hlt]
  · rw [toPrecision_of_le hge, Nat.le_antisymm (halfEven_le_two_pow precision num den) hge,
      two_pow_eq hprecision, Nat.pow_succ', Nat.mul_left_comm, Nat.mul_assoc]

theorem toPrecision_mono (hprecision : 0 < precision) {num num' : Nat} (h : num ≤ num') :
    (toPrecision precision num den).1 * 2 ^ (toPrecision precision num den).2 ≤
      (toPrecision precision num' den).1 * 2 ^ (toPrecision precision num' den).2 := by
  rw [toPrecision_value hprecision, toPrecision_value hprecision]
  have hpowers : power precision num den ≤ power precision num' den := power_mono h
  rcases Nat.lt_or_eq_of_le hpowers with hlt | heq
  · -- Between the two ratios lies a power of two that both are rounded towards.
    have hpower : 0 < power precision num' den := by omega
    calc halfEven num (den * 2 ^ power precision num den) * 2 ^ power precision num den
        ≤ 2 ^ precision * 2 ^ power precision num den :=
          Nat.mul_le_mul_right _ (halfEven_le_two_pow precision num den)
      _ = 2 ^ (precision + power precision num den) := (Nat.pow_add _ _ _).symm
      _ ≤ 2 ^ (precision - 1 + power precision num' den) :=
          Nat.pow_le_pow_right (by decide) (by omega)
      _ = 2 ^ (precision - 1) * 2 ^ power precision num' den := Nat.pow_add _ _ _
      _ ≤ halfEven num' (den * 2 ^ power precision num' den) * 2 ^ power precision num' den :=
          Nat.mul_le_mul_right _ (Nat.le_trans (two_pow_le_div hprecision hpower) (le_halfEven _ _))
  · rw [heq]
    exact Nat.mul_le_mul_right _ (halfEven_mono h _)

theorem toPrecision_normal (hprecision : 0 < precision) (num den : Nat) :
    2 ^ (precision - 1) ≤ (toPrecision precision num den).1 ∨
      (toPrecision precision num den).2 = 0 := by
  rcases Nat.lt_or_ge (halfEven num (den * 2 ^ power precision num den)) (2 ^ precision) with
    hlt | hge
  · rw [toPrecision_of_lt hlt]
    rcases Nat.eq_zero_or_pos (power precision num den) with hzero | hpos
    · exact .inr hzero
    · exact .inl (Nat.le_trans (two_pow_le_div hprecision hpos) (le_halfEven _ _))
  · rw [toPrecision_of_le hge]
    exact .inl (Nat.le_refl _)

theorem mul_two_pow_lt {bits mantissa mantissa' scale scale' : Nat} (h : 2 ^ bits ≤ mantissa)
    (h' : mantissa' < 2 ^ (bits + 1)) (hscale : scale' < scale) :
    mantissa' * 2 ^ scale' < mantissa * 2 ^ scale := by
  calc mantissa' * 2 ^ scale'
      < 2 ^ (bits + 1) * 2 ^ scale' := Nat.mul_lt_mul_of_pos_right h' (Nat.two_pow_pos _)
    _ = 2 ^ bits * 2 ^ (scale' + 1) := by rw [Nat.pow_succ, Nat.pow_succ', Nat.mul_assoc]
    _ ≤ mantissa * 2 ^ scale := Nat.mul_le_mul h (Nat.pow_le_pow_right (by decide) hscale)

/-- At the least mantissa the ratio is at most a quarter below, the half of the gap there. -/
theorem near_toPrecision (hprecision : 0 < precision) (hden : 0 < den) {num mantissa scale : Nat}
    (h : toPrecision precision num den = (mantissa, scale)) :
    Near num (den * 2 ^ scale) mantissa ∧
      (mantissa = 2 ^ (precision - 1) → 0 < scale →
        4 * (mantissa * (den * 2 ^ scale)) ≤ 4 * num + den * 2 ^ scale) := by
  have hunit : 0 < den * 2 ^ power precision num den := Nat.mul_pos hden (Nat.two_pow_pos _)
  have hnear := near_halfEven hunit num
  rcases Nat.lt_or_ge (halfEven num (den * 2 ^ power precision num den)) (2 ^ precision) with
    hlt | hge
  · rw [toPrecision_of_lt hlt, Prod.mk.injEq] at h
    obtain ⟨rfl, rfl⟩ := h
    refine ⟨hnear, ?_⟩
    intro hleast hpower
    have hbelow := (Nat.le_div_iff_mul_le hunit).mp (two_pow_le_div hprecision hpower)
    rw [hleast]
    omega
  · rw [toPrecision_of_le hge, Prod.mk.injEq] at h
    obtain ⟨rfl, rfl⟩ := h
    have hcarry := Nat.le_antisymm (halfEven_le_two_pow precision num den) hge
    have habove := (Nat.div_lt_iff_lt_mul hunit).mp (div_lt_two_pow precision num den)
    have hgap : den * 2 ^ (power precision num den + 1) =
        2 * (den * 2 ^ power precision num den) := by
      rw [Nat.pow_succ', Nat.mul_left_comm]
    have hdouble : 2 ^ (precision - 1) * (2 * (den * 2 ^ power precision num den)) =
        2 ^ precision * (den * 2 ^ power precision num den) := by
      rw [two_pow_eq hprecision, Nat.mul_left_comm, Nat.mul_assoc]
    rw [hcarry] at hnear
    have hlower := hnear.lower
    rw [hgap]
    refine ⟨⟨?_, ?_, ?_⟩, ?_⟩
    all_goals
      rw [hdouble]
      omega

end Rounding

namespace Magnitude

theorem eq_of_ofParts? {parts : Nat × Nat} {h : parts.1 < 2 ^ 53} {m : Magnitude}
    (hnormal : 2 ^ 52 ≤ parts.1 ∨ parts.2 = 0) (hm : ofParts? parts h = some m) :
    parts = (m.mantissa, m.scale) := by
  obtain ⟨mantissa, scale⟩ := parts
  unfold ofParts? at hm
  split at hm
  · rename_i hsmall
    cases hm
    obtain rfl : scale = 0 := hnormal.resolve_left (Nat.not_le.mpr hsmall)
    rfl
  · rename_i hfull
    split at hm
    · cases hm
      have hfull : 2 ^ 52 ≤ mantissa := Nat.not_lt.mp hfull
      simp only [Magnitude.mantissa, Magnitude.scale, Nat.add_one_ne_zero, if_false,
        Nat.add_sub_cancel, Prod.mk.injEq, and_true]
      omega
    · cases hm

variable {m m' : Magnitude} {num num' den : Nat}

theorem nearest?_eq_some :
    nearest? num den = some m ↔
      Rounding.toPrecision 53 (num * unitsPerOne) den = (m.mantissa, m.scale) :=
  ⟨eq_of_ofParts? (@Rounding.toPrecision_normal 53 (by decide) _ den), nearest?_eq_of_parts⟩

theorem units_inj (h : m.units = m'.units) : m = m' := by
  have hself := m.nearest?_units
  rw [h, m'.nearest?_units] at hself
  exact (Option.some_inj.mp hself).symm

theorem units_mono (h : num ≤ num') (hm : nearest? num den = some m)
    (hm' : nearest? num' den = some m') : m.units ≤ m'.units := by
  have hvalue := @Rounding.toPrecision_mono 53 den (by decide) _ _
    (Nat.mul_le_mul_right unitsPerOne h)
  rwa [nearest?_eq_some.mp hm, nearest?_eq_some.mp hm'] at hvalue

theorem exists_nearest? (h : num ≤ num') (hm' : nearest? num' den = some m') :
    ∃ m, nearest? num den = some m := by
  have hvalue := @Rounding.toPrecision_mono 53 den (by decide) _ _
    (Nat.mul_le_mul_right unitsPerOne h)
  rw [nearest?_eq_some.mp hm'] at hvalue
  rw [← Option.isSome_iff_exists, nearest?, ofParts?]
  split
  · rfl
  · rename_i hfull
    split
    · rfl
    · -- With so large a scale the value is larger than that of every magnitude.
      rename_i hscale
      rw [Nat.not_lt] at hfull hscale
      have hlt : m'.scale < (Rounding.toPrecision 53 (num * unitsPerOne) den).2 := by
        have := m'.exponent.isLt
        unfold scale
        omega
      exact absurd (Rounding.mul_two_pow_lt hfull m'.mantissa_lt hlt) (Nat.not_lt.mpr hvalue)

theorem nearest?_between {num'' : Nat} (h : num ≤ num') (h' : num' ≤ num'')
    (hm : nearest? num den = some m) (hm'' : nearest? num'' den = some m) :
    nearest? num' den = some m := by
  obtain ⟨m', hm'⟩ := exists_nearest? h' hm''
  rw [hm', units_inj (Nat.le_antisymm (units_mono h' hm' hm'') (units_mono h hm hm'))]

theorem roundsHere_of_nearest? {value : Nat} (h : nearest? value (10 ^ 1074) = some m) :
    m.roundsHere value = true := by
  have hparts : Rounding.toPrecision 53 value (5 ^ 1074) = (m.mantissa, m.scale) := by
    rw [← Rounding.toPrecision_ten_pow 53 value 1074, ← unitsPerOne]
    exact nearest?_eq_some.mp h
  obtain ⟨hnear, hleast⟩ := Rounding.near_toPrecision (by decide) (five_pow_pos 1074) hparts
  rw [← m.decimalGap_eq] at hnear hleast
  obtain ⟨hlower, hupper, hodd⟩ := hnear
  rw [← decimalUnits_eq] at hlower hupper hodd hleast
  unfold roundsHere roundsTo
  split
  · rw [Bool.and_eq_true, decide_eq_true_iff, decide_eq_true_iff]
    refine ⟨?_, by omega⟩
    unfold roundsFrom
    split
    · rename_i hpower
      have hmantissa : m.mantissa = 2 ^ (53 - 1) := by
        rw [mantissa, if_neg (by omega), hpower.1]
      have hscale : 0 < m.scale := Nat.sub_pos_of_lt hpower.2
      have hbelow := hleast hmantissa hscale
      omega
    · omega
  · rename_i hparity
    have hodd' := Nat.mod_two_ne_zero.mp hparity
    obtain ⟨hlower, hupper⟩ := hodd hodd'
    have hone : m.decimalGap ≤ m.decimalUnits := by
      rw [decimalUnits_eq]
      exact Nat.le_mul_of_pos_left _ (by omega)
    rw [Bool.and_eq_true, decide_eq_true_iff, decide_eq_true_iff]
    refine ⟨?_, by omega⟩
    unfold roundsFrom
    split
    · rename_i hpower
      -- The mantissa of a power of two is even.
      have hmantissa : m.mantissa = 2 ^ 52 := by
        rw [mantissa, if_neg (by omega), hpower.1]
      rw [hmantissa] at hparity
      exact absurd rfl hparity
    · omega

end Magnitude

end RouteTree
