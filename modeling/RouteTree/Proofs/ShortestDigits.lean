import RouteTree.Number.Shortest
import RouteTree.Proofs.DecimalValues

namespace RouteTree

theorem all_isDigit_toDigits (n : Nat) : (Nat.toDigits 10 n).all isDigit = true :=
  List.all_eq_true.mpr fun _ h => Nat.isDigit_of_mem_toDigits (by decide) (by decide) h

theorem head?_toDigits_ne_zero {n : Nat} (hn : n ≠ 0) : (Nat.toDigits 10 n).head? ≠ some '0' := by
  have hdigit : ∀ n < 10, n ≠ 0 → [n.digitChar].head? ≠ some '0' := by decide
  induction n using Nat.strongRecOn with
  | ind n ih =>
      by_cases hsmall : n < 10
      · rw [Nat.toDigits_of_lt_base hsmall]
        exact hdigit n hsmall hn
      · have hle : 10 ≤ n := Nat.not_lt.mp hsmall
        have hquotient := ih (n / 10) (Nat.div_lt_self (by omega) (by decide)) (by omega)
        obtain ⟨d, rest, hdigits⟩ := List.exists_cons_of_ne_nil (@Nat.toDigits_ne_nil (n / 10) 10)
        rw [Nat.toDigits_of_base_le (by decide) hle, hdigits]
        rwa [hdigits] at hquotient

namespace Scientific

/-- The digits of a numeral, the first of which counts. -/
structure Leads (s : Scientific) : Prop where
  digits : s.digits.all isDigit = true
  first : ∃ d rest, s.digits = d :: rest ∧ d ≠ '0'

theorem Leads.ne_nil {s : Scientific} (h : s.Leads) : s.digits ≠ [] := by
  obtain ⟨d, rest, hdigits, -⟩ := h.first
  rw [hdigits]
  exact List.cons_ne_nil d rest

def decimal (negative : Bool) (s : Scientific) : Decimal :=
  ⟨negative, digitsValue s.digits, s.exponent - s.digits.length + 1⟩

end Scientific

namespace Magnitude

variable {m : Magnitude} {tie : Tie}

theorem onGrid?_eq_some {grid multiplier : Nat} (h : m.onGrid? tie grid = some multiplier) :
    (multiplier = m.decimalUnits / grid ∨ multiplier = m.decimalUnits / grid + 1) ∧
      m.roundsHere (multiplier * grid) = true := by
  unfold onGrid? at h
  dsimp only at h
  split at h
  · rename_i hlower hupper
    have hmultiplier : multiplier = m.decimalUnits / grid ∨
        multiplier = m.decimalUnits / grid + 1 := by
      repeat' split at h
      all_goals
        rw [Option.some_inj] at h
        omega
    refine ⟨hmultiplier, ?_⟩
    rcases hmultiplier with rfl | rfl
    · exact hlower
    · exact hupper
  · rename_i hlower _
    cases h
    exact ⟨.inl rfl, hlower⟩
  · rename_i _ hupper
    cases h
    exact ⟨.inr rfl, hupper⟩
  · cases h

theorem roundsHere_firstOnGrids (m : Magnitude) (tie : Tie) (p : Nat) :
    m.roundsHere ((m.firstOnGrids tie p).1 * 10 ^ (m.firstOnGrids tie p).2) = true := by
  induction p with
  | zero =>
      rw [firstOnGrids, Nat.pow_zero, Nat.mul_one]
      exact m.roundsHere_decimalUnits
  | succ p ih =>
      rw [firstOnGrids]
      split
      · rename_i multiplier hgrid
        exact (onGrid?_eq_some hgrid).2
      · exact ih

theorem exists_append_zeros (digits : Text) :
    ∃ k, digits = (digits.reverse.dropWhile (· == '0')).reverse ++ List.replicate k '0' := by
  have hzeros : digits.reverse.takeWhile (· == '0') =
      List.replicate (digits.reverse.takeWhile (· == '0')).length '0' := by
    apply List.eq_replicate_of_mem
    intro c hc
    exact eq_of_beq (List.all_eq_true.mp List.all_takeWhile c hc)
  refine ⟨(digits.reverse.takeWhile (· == '0')).length, ?_⟩
  calc digits
      = (digits.reverse.takeWhile (· == '0') ++ digits.reverse.dropWhile (· == '0')).reverse := by
        rw [List.takeWhile_append_dropWhile, List.reverse_reverse]
    _ = _ := by rw [List.reverse_append, hzeros, List.reverse_replicate, List.length_replicate]

theorem exists_multiplier (tie : Tie) (m : Magnitude) :
    ∃ multiplier zeros p : Nat,
      Nat.toDigits 10 multiplier = (m.shortest tie).digits ++ List.replicate zeros '0' ∧
        m.roundsHere (multiplier * 10 ^ p) = true ∧
        (m.shortest tie).exponent = (m.shortest tie).digits.length + zeros + p - 1 - 1074 := by
  have hhere := m.roundsHere_firstOnGrids tie ((Nat.toDigits 10 m.decimalUnits).length - 1)
  obtain ⟨zeros, hdigits⟩ := exists_append_zeros (Nat.toDigits 10
    (m.firstOnGrids tie ((Nat.toDigits 10 m.decimalUnits).length - 1)).1)
  have hlength := congrArg List.length hdigits
  rw [List.length_append, List.length_replicate] at hlength
  refine ⟨_, zeros, _, hdigits, hhere, ?_⟩
  simp only [shortest]
  omega

theorem shortest_toBinary64 (tie : Tie) (m : Magnitude) (negative : Bool) :
    ((m.shortest tie).decimal negative).toBinary64 = .finite negative m := by
  obtain ⟨multiplier, zeros, p, hdigits, hhere, hexponent⟩ := m.exists_multiplier tie
  have hvalue := congrArg digitsValue hdigits
  rw [digitsValue_toDigits, digitsValue_append_zeros] at hvalue
  rw [hvalue, Nat.mul_assoc, ← Nat.pow_add] at hhere
  -- The zeros that were dropped and the power of the grid are moved into the coefficient again.
  have hshift : (m.shortest tie).exponent - (m.shortest tie).digits.length + 1 - (zeros + p : Nat) =
      -(1074 : Nat) := by
    omega
  rw [Scientific.decimal, ← Decimal.toBinary64_shift negative _ _ (zeros + p), hshift]
  exact Decimal.toBinary64_of_roundsHere hhere negative

theorem roundsHere_zero (h : m.roundsHere 0 = true) : m = zero := by
  have hzero := nearest?_zero (Rounding.ten_pow_pos 1074)
  exact Option.some_inj.mp ((nearest?_of_roundsHere h).symm.trans hzero)

theorem shortest_leads (tie : Tie) (hm : m ≠ zero) : (m.shortest tie).Leads := by
  obtain ⟨multiplier, zeros, p, hdigits, hhere, -⟩ := m.exists_multiplier tie
  have hne : multiplier ≠ 0 := by
    rintro rfl
    rw [Nat.zero_mul] at hhere
    exact hm (roundsHere_zero hhere)
  have hall := all_isDigit_toDigits multiplier
  have hhead := head?_toDigits_ne_zero hne
  rw [hdigits] at hall hhead
  rw [List.all_append, Bool.and_eq_true] at hall
  refine ⟨hall.1, ?_⟩
  cases hshortest : (m.shortest tie).digits with
  | nil =>
      have hvalue := congrArg digitsValue hdigits
      rw [hshortest, digitsValue_toDigits, List.nil_append, digitsValue_zeros] at hvalue
      exact absurd hvalue hne
  | cons d rest =>
      rw [hshortest, List.cons_append, List.head?_cons, ne_eq, Option.some_inj] at hhead
      exact ⟨d, rest, rfl, hhead⟩

end Magnitude

end RouteTree
