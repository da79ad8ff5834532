import RouteTree.Proofs.RoundingOrder
import RouteTree.Proofs.ShortestDigits

namespace RouteTree

/-! No numeral has fewer digits than the shortest one of a magnitude: it would lie on a coarser
grid, and a grid without a hit has no number in the range. -/

theorem digitValue_lt {c : Char} (h : isDigit c = true) : digitValue c < 10 := by
  rw [isDigit, Bool.and_eq_true, decide_eq_true_iff, decide_eq_true_iff] at h
  have hle : c.toNat ≤ '9'.toNat := h.2
  have hnine : '9'.toNat = 57 := rfl
  have hzero : '0'.toNat = 48 := rfl
  unfold digitValue
  omega

theorem digitValue_pos {c : Char} (h : isDigit c = true) (hne : c ≠ '0') : 0 < digitValue c := by
  rw [isDigit, Bool.and_eq_true, decide_eq_true_iff, decide_eq_true_iff] at h
  have hle : '0'.toNat ≤ c.toNat := h.1
  have hnat : c.toNat ≠ '0'.toNat := fun heq => hne (Char.toNat_inj.mp heq)
  unfold digitValue
  omega

theorem digitsValue_cons (d : Char) (rest : Text) :
    digitsValue (d :: rest) = digitValue d * 10 ^ rest.length + digitsValue rest := by
  have hone : digitsValue [d] = digitValue d := by
    simp [digitsValue]
  rw [← hone, ← digitsValue_append]
  rfl

theorem digitsValue_lt {digits : Text} (h : digits.all isDigit = true) :
    digitsValue digits < 10 ^ digits.length := by
  induction digits with
  | nil => exact Nat.zero_lt_one
  | cons d rest ih =>
      rw [List.all_cons, Bool.and_eq_true] at h
      have hrest := ih h.2
      have hfirst := Nat.mul_le_mul_right (10 ^ rest.length) (Nat.le_of_lt_succ (digitValue_lt h.1))
      rw [digitsValue_cons, List.length_cons, Nat.pow_succ]
      omega

namespace Decimal

theorem toBinary64_eq_ofRatio (negative : Bool) (coefficient : Nat) {exponent : Int} {n k : Nat}
    (h : exponent + n = k) :
    toBinary64 ⟨negative, coefficient, exponent⟩ =
      Binary64.ofRatio negative (coefficient * 10 ^ k) (10 ^ n) := by
  have hexponent : exponent - k = -n := by omega
  rw [← toBinary64_shift negative coefficient exponent k, hexponent, toBinary64_neg]

end Decimal

theorem Binary64.ofRatio_eq_finite {negative sign : Bool} {num den : Nat} {m : Magnitude}
    (h : ofRatio negative num den = .finite sign m) : Magnitude.nearest? num den = some m := by
  unfold ofRatio at h
  cases hnearest : Magnitude.nearest? num den with
  | none =>
      rw [hnearest] at h
      cases h
  | some other =>
      rw [hnearest] at h
      cases h
      rfl

namespace Scientific

variable {s : Scientific}

theorem nearest?_of_reads {negative sign : Bool} {m : Magnitude}
    (h : (s.decimal negative).toBinary64 = .finite sign m) {n k : Nat}
    (hk : s.exponent - s.digits.length + 1 + n = k) :
    Magnitude.nearest? (digitsValue s.digits * 10 ^ k) (10 ^ n) = some m := by
  apply Binary64.ofRatio_eq_finite
  rw [← Decimal.toBinary64_eq_ofRatio negative (digitsValue s.digits) hk]
  exact h

theorem Leads.ten_pow_le (h : s.Leads) : 10 ^ (s.digits.length - 1) ≤ digitsValue s.digits := by
  obtain ⟨d, rest, hdigits, hne⟩ := h.first
  have hall := h.digits
  rw [hdigits, List.all_cons, Bool.and_eq_true] at hall
  have hfirst := Nat.mul_le_mul_right (10 ^ rest.length) (digitValue_pos hall.1 hne)
  rw [hdigits, digitsValue_cons, List.length_cons, Nat.add_sub_cancel]
  omega

theorem Leads.length_pos (h : s.Leads) : 0 < s.digits.length := List.length_pos_iff.mpr h.ne_nil

theorem Leads.exists_bounds (h : s.Leads) {n : Nat}
    (hn : s.exponent.natAbs + s.digits.length ≤ n) :
    ∃ k e : Nat, s.exponent - s.digits.length + 1 + n = k ∧ s.exponent + n = e ∧
      10 ^ e ≤ digitsValue s.digits * 10 ^ k ∧ digitsValue s.digits * 10 ^ k < 10 ^ (e + 1) := by
  have hpos := h.length_pos
  obtain ⟨k, hk⟩ : ∃ k : Nat, s.exponent - s.digits.length + 1 + n = k :=
    Int.eq_ofNat_of_zero_le (by omega)
  obtain ⟨e, he⟩ : ∃ e : Nat, s.exponent + n = e := Int.eq_ofNat_of_zero_le (by omega)
  have hlower : s.digits.length - 1 + k = e := by omega
  have hupper : s.digits.length + k = e + 1 := by omega
  refine ⟨k, e, hk, he, ?_, ?_⟩
  · rw [← hlower, Nat.pow_add]
    exact Nat.mul_le_mul_right _ h.ten_pow_le
  · rw [← hupper, Nat.pow_add]
    exact Nat.mul_lt_mul_of_pos_right (digitsValue_lt h.digits) (Rounding.ten_pow_pos k)

end Scientific

namespace Magnitude

variable {m : Magnitude} {tie : Tie}

theorem roundsHere_convex {low value high : Nat} (hlow : m.roundsHere low = true)
    (hhigh : m.roundsHere high = true) (h : low ≤ value) (h' : value ≤ high) :
    m.roundsHere value = true := by
  unfold roundsHere at hlow hhigh ⊢
  split at hlow
  · rename_i heven
    rw [if_pos heven, Bool.and_eq_true, decide_eq_true_iff, decide_eq_true_iff] at hhigh
    rw [Bool.and_eq_true, decide_eq_true_iff, decide_eq_true_iff] at hlow
    rw [if_pos heven, Bool.and_eq_true, decide_eq_true_iff, decide_eq_true_iff]
    omega
  · rename_i hodd
    rw [if_neg hodd, Bool.and_eq_true, decide_eq_true_iff, decide_eq_true_iff] at hhigh
    rw [Bool.and_eq_true, decide_eq_true_iff, decide_eq_true_iff] at hlow
    rw [if_neg hodd, Bool.and_eq_true, decide_eq_true_iff, decide_eq_true_iff]
    omega

theorem onGrid?_eq_none {grid : Nat} (h : m.onGrid? tie grid = none) :
    m.roundsHere (m.decimalUnits / grid * grid) = false ∧
      m.roundsHere ((m.decimalUnits / grid + 1) * grid) = false := by
  unfold onGrid? at h
  dsimp only at h
  split at h
  · repeat' split at h
    all_goals cases h
  · cases h
  · cases h
  · rename_i hlower hupper
    exact ⟨hlower, hupper⟩

/-- If the neighbours on a grid are out of the range, all numbers on the grid are. -/
theorem not_roundsHere_of_onGrid? {grid : Nat} (hgrid : 0 < grid)
    (h : m.onGrid? tie grid = none) (k : Nat) : ¬ m.roundsHere (k * grid) = true := by
  intro hk
  obtain ⟨hlower, hupper⟩ := onGrid?_eq_none h
  have hself := m.roundsHere_decimalUnits
  have hbelow : m.decimalUnits / grid * grid ≤ m.decimalUnits := Nat.div_mul_le_self _ _
  have habove : m.decimalUnits ≤ (m.decimalUnits / grid + 1) * grid :=
    Nat.le_of_lt ((Nat.div_lt_iff_lt_mul hgrid).mp (Nat.lt_succ_self _))
  rcases Nat.lt_or_ge (m.decimalUnits / grid) k with hlt | hge
  · rw [roundsHere_convex hself hk habove (Nat.mul_le_mul_right grid hlt)] at hupper
    cases hupper
  · rw [roundsHere_convex hk hself (Nat.mul_le_mul_right grid hge) hbelow] at hlower
    cases hlower

theorem firstOnGrids_snd_le (m : Magnitude) (tie : Tie) (p : Nat) :
    (m.firstOnGrids tie p).2 ≤ p := by
  induction p with
  | zero => exact Nat.le_refl 0
  | succ p ih =>
      rw [firstOnGrids]
      split
      · exact Nat.le_refl _
      · exact Nat.le_succ_of_le ih

theorem firstOnGrids_fst_le (m : Magnitude) (tie : Tie) (p : Nat) :
    (m.firstOnGrids tie p).1 ≤ m.decimalUnits / 10 ^ (m.firstOnGrids tie p).2 + 1 := by
  induction p with
  | zero =>
      rw [firstOnGrids, Nat.pow_zero, Nat.div_one]
      exact Nat.le_succ _
  | succ p ih =>
      rw [firstOnGrids]
      split
      · rename_i multiplier hgrid
        dsimp only
        rcases (onGrid?_eq_some hgrid).1 with heq | heq <;> omega
      · exact ih

theorem onGrid?_above {p q : Nat} (h : (m.firstOnGrids tie p).2 < q) (hq : q ≤ p) :
    m.onGrid? tie (10 ^ q) = none := by
  induction p with
  | zero => omega
  | succ p ih =>
      rw [firstOnGrids] at h
      split at h
      · exact absurd h (Nat.not_lt.mpr hq)
      · rename_i hnone
        rcases Nat.lt_or_eq_of_le hq with hlt | rfl
        · exact ih h (Nat.le_of_lt_succ hlt)
        · exact hnone

/-- The power of ten that the search starts from. -/
def firstPower (m : Magnitude) : Nat := (Nat.toDigits 10 m.decimalUnits).length - 1

theorem not_roundsHere_above (h : (m.firstOnGrids tie m.firstPower).2 < m.firstPower) {q : Nat}
    (hq : (m.firstOnGrids tie m.firstPower).2 < q) (k : Nat) :
    ¬ m.roundsHere (k * 10 ^ q) = true := by
  rcases Nat.le_total q m.firstPower with hle | hge
  · exact not_roundsHere_of_onGrid? (Rounding.ten_pow_pos q) (onGrid?_above hq hle) k
  · -- A grid above the first one is part of it.
    have hsplit : k * 10 ^ q = k * 10 ^ (q - m.firstPower) * 10 ^ m.firstPower := by
      rw [Nat.mul_assoc, ← Nat.pow_add, Nat.sub_add_cancel hge]
    rw [hsplit]
    exact not_roundsHere_of_onGrid? (Rounding.ten_pow_pos _)
      (onGrid?_above h (Nat.le_refl _)) _

theorem length_shortest_le_toDigits (tie : Tie) (m : Magnitude) :
    (m.shortest tie).digits.length ≤
      (Nat.toDigits 10 (m.firstOnGrids tie m.firstPower).1).length := by
  have hlength := (List.dropWhile_sublist (· == '0')
    (l := (Nat.toDigits 10 (m.firstOnGrids tie m.firstPower).1).reverse)).length_le
  rw [List.length_reverse] at hlength
  rw [shortest, List.length_reverse]
  exact hlength

theorem length_shortest_of_first (h : (m.firstOnGrids tie m.firstPower).2 = m.firstPower) :
    (m.shortest tie).digits.length ≤ 1 := by
  have hsmall : ∀ n ≤ 10, ((Nat.toDigits 10 n).reverse.dropWhile (· == '0')).reverse.length ≤ 1 := by
    decide
  apply hsmall
  have hmultiplier := m.firstOnGrids_fst_le tie m.firstPower
  have hpos : 0 < (Nat.toDigits 10 m.decimalUnits).length := Nat.length_toDigits_pos
  have hquotient : m.decimalUnits / 10 ^ m.firstPower < 10 := by
    have hsplit : m.firstPower.succ = (Nat.toDigits 10 m.decimalUnits).length :=
      Nat.sub_add_cancel hpos
    rw [Nat.div_lt_iff_lt_mul (Rounding.ten_pow_pos _), ← Nat.pow_succ', hsplit]
    exact lt_ten_pow_length m.decimalUnits
  rw [h] at hmultiplier
  exact Nat.le_trans hmultiplier hquotient

theorem nearest?_shift (value k n : Nat) :
    nearest? (value * 10 ^ k) (10 ^ (n + k)) = nearest? value (10 ^ n) := by
  rw [Nat.pow_add, Nat.mul_comm value, Nat.mul_comm (10 ^ n),
    nearest?_mul_left (Rounding.ten_pow_pos k)]

section

variable {p : Nat} (hcoarser : ∀ q, p < q → ∀ k, ¬ m.roundsHere (k * 10 ^ q) = true)

include hcoarser

theorem nearest?_ne_of_coarser {value k shift : Nat} (hk : p + shift < k) :
    nearest? (value * 10 ^ k) (10 ^ (1074 + shift)) ≠ some m := by
  intro h
  have hsplit : value * 10 ^ k = value * 10 ^ (k - shift) * 10 ^ shift := by
    rw [Nat.mul_assoc, ← Nat.pow_add, Nat.sub_add_cancel (by omega)]
  rw [hsplit, nearest?_shift] at h
  exact hcoarser (k - shift) (by omega) value (roundsHere_of_nearest? h)

/-- Between a number with too few digits and the hit there is a power of ten on a coarser grid. -/
theorem nearest?_ne_of_fewer {value length multiplier k shift : Nat} (hlength : 0 < length)
    (hvalue : value < 10 ^ length) (hmultiplier : 10 ^ length ≤ multiplier)
    (hmultiple : m.roundsHere (multiplier * 10 ^ p) = true) (hk : k ≤ p + shift) :
    nearest? (value * 10 ^ k) (10 ^ (1074 + shift)) ≠ some m := by
  intro h
  have hbelow : value * 10 ^ k ≤ 10 ^ (length + p) * 10 ^ shift := by
    rw [Nat.pow_add, Nat.mul_assoc, ← Nat.pow_add]
    exact Nat.mul_le_mul (Nat.le_of_lt hvalue) (Nat.pow_le_pow_right (by decide) hk)
  have habove : 10 ^ (length + p) * 10 ^ shift ≤ multiplier * 10 ^ p * 10 ^ shift := by
    rw [Nat.pow_add]
    exact Nat.mul_le_mul_right _ (Nat.mul_le_mul_right _ hmultiplier)
  have hhit : nearest? (multiplier * 10 ^ p * 10 ^ shift) (10 ^ (1074 + shift)) = some m := by
    rw [nearest?_shift]
    exact nearest?_of_roundsHere hmultiple
  have hpower := nearest?_between hbelow habove h hhit
  rw [nearest?_shift] at hpower
  have hrange := roundsHere_of_nearest? hpower
  rw [← Nat.one_mul (10 ^ _)] at hrange
  exact hcoarser (length + p) (by omega) 1 hrange

end

/-- No numeral with fewer digits than the shortest one is read as the magnitude. -/
theorem length_shortest_le (tie : Tie) {s : Scientific} (hs : s.Leads) {negative sign : Bool}
    (h : (s.decimal negative).toBinary64 = .finite sign m) :
    (m.shortest tie).digits.length ≤ s.digits.length := by
  apply Nat.le_of_not_lt
  intro hlong
  have hlength := hs.length_pos
  have hmultiple := m.roundsHere_firstOnGrids tie m.firstPower
  have hle := m.firstOnGrids_snd_le tie m.firstPower
  have htoDigits := m.length_shortest_le_toDigits tie
  have hlt : (m.firstOnGrids tie m.firstPower).2 < m.firstPower := by
    refine Nat.lt_of_le_of_ne hle fun heq => ?_
    have := length_shortest_of_first heq
    omega
  have hcoarser : ∀ q, (m.firstOnGrids tie m.firstPower).2 < q → ∀ k,
      ¬ m.roundsHere (k * 10 ^ q) = true := fun _ => not_roundsHere_above hlt
  generalize m.firstOnGrids tie m.firstPower = hit at *
  obtain ⟨multiplier, p⟩ := hit
  dsimp only at *
  have hmultiplier : 10 ^ s.digits.length ≤ multiplier := by
    rw [← Nat.not_lt, ← Nat.length_toDigits_le_iff (by decide) hlength]
    omega
  -- Both numbers are counted in one unit, which is fine enough for the numeral.
  obtain ⟨shift, hshift⟩ : ∃ shift : Nat,
      0 ≤ s.exponent - s.digits.length + 1 + (1074 + shift : Nat) :=
    ⟨s.exponent.natAbs + s.digits.length, by omega⟩
  obtain ⟨k, hk⟩ := Int.eq_ofNat_of_zero_le hshift
  have hvalue := s.nearest?_of_reads h hk
  rcases Nat.lt_or_ge (p + shift) k with hfine | hcoarse
  · exact nearest?_ne_of_coarser hcoarser hfine hvalue
  · exact nearest?_ne_of_fewer hcoarser hlength (digitsValue_lt hs.digits) hmultiplier hmultiple
      hcoarse hvalue

end Magnitude

/-- A numeral that is read as the number, when no other with fewer digits is. -/
structure Scientific.Shortest (s : Scientific) (negative : Bool) (x : Binary64) : Prop where
  leads : s.Leads
  reads : (s.decimal negative).toBinary64 = x
  fewest : ∀ t : Scientific, t.Leads → (t.decimal negative).toBinary64 = x →
    s.digits.length ≤ t.digits.length

theorem Magnitude.shortest_shortest (tie : Tie) {m : Magnitude} (hm : m ≠ zero) (negative : Bool) :
    (m.shortest tie).Shortest negative (.finite negative m) :=
  ⟨m.shortest_leads tie hm, m.shortest_toBinary64 tie negative,
    fun _ ht hreads => m.length_shortest_le tie ht hreads⟩

end RouteTree
