import RouteTree.Proofs.FewestDigits
import RouteTree.Proofs.Numerals

namespace RouteTree

/-! The notation is chosen by a comparison with two binary numbers, which comes to the exponent of
the shortest digits: it changes at the magnitude that the power of ten is rounded to. -/

namespace Magnitude

variable {m bound : Magnitude}

theorem le_exponent_iff {tie : Tie} {exponent : Int}
    (hbound : Decimal.toBinary64 ⟨false, 1, exponent⟩ = .finite false bound)
    (hself : (bound.shortest tie).exponent = exponent) (hm : m ≠ zero) :
    exponent ≤ (m.shortest tie).exponent ↔ bound.units ≤ m.units := by
  by_cases heq : m = bound
  · rw [heq, hself]
    exact iff_of_true (Int.le_refl _) (Nat.le_refl _)
  · have hreads := m.shortest_toBinary64 tie false
    have hleads := m.shortest_leads tie hm
    generalize m.shortest tie = s at hreads hleads ⊢
    -- Both are counted in one unit, in which they are powers of ten or lie between two of them.
    obtain ⟨n, hn⟩ : ∃ n : Nat, s.exponent.natAbs + s.digits.length + exponent.natAbs = n :=
      ⟨_, rfl⟩
    obtain ⟨k, e, hk, he, hlower, hupper⟩ := hleads.exists_bounds (n := n) (by omega)
    obtain ⟨b, hb⟩ : ∃ b : Nat, exponent + n = b := Int.eq_ofNat_of_zero_le (by omega)
    have hvalue := s.nearest?_of_reads hreads hk
    rw [Decimal.toBinary64_eq_ofRatio false 1 hb, Nat.one_mul] at hbound
    have hpower := Binary64.ofRatio_eq_finite hbound
    constructor
    · intro hle
      have hpowers : 10 ^ b ≤ 10 ^ e := Nat.pow_le_pow_right (by decide) (by omega)
      exact units_mono (Nat.le_trans hpowers hlower) hpower hvalue
    · intro hunits
      apply Int.not_lt.mp
      intro hlt
      have hpowers : 10 ^ (e + 1) ≤ 10 ^ b := Nat.pow_le_pow_right (by decide) (by omega)
      have hreverse := units_mono (Nat.le_trans (Nat.le_of_lt hupper) hpowers) hvalue hpower
      exact heq (units_inj (Nat.le_antisymm hreverse hunits))

theorem positionalFrom_le_iff (hm : m ≠ zero) :
    Binary64.positionalFrom.units ≤ m.units ↔ -6 ≤ (m.shortest .up).exponent := by
  refine (le_exponent_iff ?_ (by decide +kernel) hm).symm
  have hratio := Decimal.toBinary64_neg false 1 6
  rwa [Binary64.ofRatio, Binary64.nearest?_millionth] at hratio

theorem lt_positionalBelow_iff (hm : m ≠ zero) :
    m.units < Binary64.positionalBelow.units ↔ (m.shortest .up).exponent < 21 := by
  rw [← Nat.not_le, ← Int.not_le]
  refine not_congr (le_exponent_iff ?_ (by decide +kernel) hm).symm
  have hratio : Decimal.toBinary64 ⟨false, 1, 21⟩ = Binary64.ofRatio false (1 * 10 ^ 21) (10 ^ 0) :=
    Decimal.toBinary64_eq_ofRatio false 1 rfl
  rwa [Nat.one_mul, Nat.pow_zero, Binary64.ofRatio, Binary64.nearest?_ten_pow] at hratio

theorem getLast?_shortest (m : Magnitude) (tie : Tie) :
    (m.shortest tie).digits.getLast? ≠ some '0' := by
  have htrimmed : ∀ digits : Text,
      (digits.reverse.dropWhile (· == '0')).reverse.getLast? ≠ some '0' := by
    intro digits hlast
    have hzero := List.head?_dropWhile_not (· == '0') digits.reverse
    rw [List.getLast?_reverse] at hlast
    rw [hlast] at hzero
    cases hzero
  exact htrimmed _

end Magnitude

theorem Binary64.text_of_ne_zero {m : Magnitude} (hm : m ≠ .zero) (negative : Bool) :
    (finite negative m).text =
      if -6 ≤ (m.shortest .up).exponent ∧ (m.shortest .up).exponent ≤ 20 then
        signed negative ((m.shortest .up).positional [])
      else signed negative (m.shortest .up).exponential := by
  have hiff : positionalFrom.units ≤ m.units ∧ m.units < positionalBelow.units ↔
      -6 ≤ (m.shortest .up).exponent ∧ (m.shortest .up).exponent ≤ 20 := by
    rw [Magnitude.positionalFrom_le_iff hm, Magnitude.lt_positionalBelow_iff hm]
    omega
  simp only [text, if_neg hm, hiff]

theorem toLower_of_isDigit {c : Char} (h : isDigit c = true) : c.toLower = c := by
  rw [isDigit, Bool.and_eq_true, decide_eq_true_iff, decide_eq_true_iff] at h
  unfold Char.toLower
  rw [dif_neg]
  intro hupper
  have hleast : 'A'.val ≤ c.val := hupper.1
  have hgreatest : c.val ≤ '9'.val := h.2
  exact absurd (UInt32.le_trans hleast hgreatest) (by decide)

theorem map_toLower_ne {c : Char} (h : isDigit c = true) (rest : Text) {word : Text}
    (hword : word.head?.map isDigit = some false) : (c :: rest).map Char.toLower ≠ word := by
  rintro rfl
  rw [List.map_cons, List.head?_cons, toLower_of_isDigit h, Option.map_some, h] at hword
  cases hword

namespace Decimal

variable {negative : Bool} {t whole fraction rest : Text}

theorem readUnsigned?_of_point {tail : Text} (hne : whole ≠ [])
    (hwhole : spanDigits t = (whole, '.' :: tail))
    (hfraction : spanDigits tail = (fraction, rest)) :
    readUnsigned? negative t =
      (readExponent? rest).map fun exponent =>
        ⟨negative, digitsValue (whole ++ fraction), exponent - fraction.length⟩ := by
  simp [readUnsigned?, hwhole, hfraction, hne]

theorem readUnsigned?_of_whole (hne : whole ≠ []) (hwhole : spanDigits t = (whole, rest))
    (hrest : rest.head? ≠ some '.') :
    readUnsigned? negative t =
      (readExponent? rest).map fun exponent => ⟨negative, digitsValue whole, exponent⟩ := by
  cases rest with
  | nil => simp [readUnsigned?, hwhole, hne]
  | cons c rest =>
      have hc : c ≠ '.' := fun h => hrest (congrArg some h)
      simp [readUnsigned?, hwhole, hne, hc]

end Decimal

theorem spanSign_signed (negative : Bool) {t : Text}
    (ht : ∀ c, t.head? = some c → isDigit c = true) :
    spanSign (signed negative t) = (negative, t) := by
  cases negative with
  | true => rfl
  | false =>
      cases t with
      | nil => rfl
      | cons c t =>
          have hminus : c ≠ '-' := by
            rintro rfl
            cases ht _ rfl
          have hplus : c ≠ '+' := by
            rintro rfl
            cases ht _ rfl
          simp [signed, spanSign, hminus, hplus]

namespace Json.Numeral

variable {n : Numeral}

theorem readExponent?_exponentText (h : n.WellFormed) :
    Decimal.readExponent? (exponentText n.exponent) =
      some (n.decimal.exponent + n.fraction.length) := by
  have hdigits := h.exponent
  obtain ⟨negative, whole, fraction, exponent⟩ := n
  cases exponent with
  | none =>
      simp only [exponentText, Decimal.readExponent?, decimal, Option.some_inj]
      omega
  | some e =>
      obtain ⟨below, digits⟩ := e
      obtain ⟨hall, hne⟩ := hdigits _ rfl
      cases below <;>
        simp [exponentText, Decimal.readExponent?, spanSign, hall, hne, decimal]

theorem readUnsigned?_text (h : n.WellFormed) :
    Decimal.readUnsigned? n.negative
        (n.whole ++ (fractionText n.fraction ++ exponentText n.exponent)) = some n.decimal := by
  have hends : EndsNumeral [] := nofun
  have hwhole : spanDigits (n.whole ++ (fractionText n.fraction ++ exponentText n.exponent)) =
      (n.whole, fractionText n.fraction ++ exponentText n.exponent) := by
    apply spanDigits_append h.whole
    have hhead := @head?_fractionText n.fraction n.exponent [] hends
    rwa [List.append_nil] at hhead
  have hfraction : spanDigits (n.fraction ++ exponentText n.exponent) =
      (n.fraction, exponentText n.exponent) := by
    apply spanDigits_append h.fraction
    intro c hc
    rw [← List.append_nil (exponentText n.exponent)] at hc
    exact (head?_exponentText hends c hc).1
  have hexponent := readExponent?_exponentText h
  have hvalue : n.decimal = ⟨n.negative, digitsValue (n.whole ++ n.fraction), n.decimal.exponent⟩ :=
    rfl
  cases hdigits : n.fraction with
  | nil =>
      have hmark : (exponentText n.exponent).head? ≠ some '.' := by
        cases n.exponent with
        | none => exact nofun
        | some e => exact nofun
      rw [hdigits, fractionText, List.nil_append] at hwhole
      rw [fractionText, List.nil_append,
        Decimal.readUnsigned?_of_whole h.nonempty hwhole hmark, hexponent, hvalue, hdigits]
      simp
  | cons d rest =>
      rw [hdigits] at hwhole hfraction
      rw [Decimal.readUnsigned?_of_point h.nonempty hwhole hfraction, hexponent, hvalue, hdigits]
      simp

theorem readNumber?_text (h : n.WellFormed) (round : Decimal → Binary64) :
    readNumber? round n.text = some (round n.decimal) := by
  have hunsigned := readUnsigned?_text h
  obtain ⟨c, rest, hdigits⟩ := List.exists_cons_of_ne_nil h.nonempty
  have hall := h.whole
  rw [hdigits, List.all_cons, Bool.and_eq_true] at hall
  rw [hdigits, List.cons_append] at hunsigned
  have hsign : spanSign n.text =
      (n.negative, c :: (rest ++ (fractionText n.fraction ++ exponentText n.exponent))) := by
    rw [text, hdigits, List.cons_append]
    apply spanSign_signed
    intro first hfirst
    cases hfirst
    exact hall.1
  have hword : ∀ word : Text, word.head?.map isDigit = some false →
      (c :: (rest ++ (fractionText n.fraction ++ exponentText n.exponent))).map Char.toLower ≠
        word := fun _ => map_toLower_ne hall.1 _
  rw [readNumber?, hsign]
  dsimp only
  rw [if_neg (not_or.mpr ⟨hword _ rfl, hword _ rfl⟩), if_neg (hword _ rfl), hunsigned]
  rfl

/-- The digits of the numeral are those of `s` between zeros. -/
def Shows (n : Numeral) (s : Scientific) : Prop :=
  ∃ before after, n.whole ++ n.fraction =
    List.replicate before '0' ++ s.digits ++ List.replicate after '0'

/-- In positional notation, with a fraction only if the number has one. -/
def plain (negative : Bool) (s : Scientific) : Numeral :=
  if 0 ≤ s.exponent ∧ s.digits.length ≤ s.exponent.toNat + 1 then
    ⟨negative, s.digits ++ List.replicate (s.exponent.toNat + 1 - s.digits.length) '0', [], none⟩
  else positional negative s

variable (negative : Bool) {s : Scientific}

theorem positional_of_fraction (h : ¬ (0 ≤ s.exponent ∧ s.digits.length ≤ s.exponent.toNat + 1))
    (whole other : Text) : s.positional whole = s.positional other := by
  unfold Scientific.positional
  split
  · rfl
  · rename_i hexponent
    dsimp only
    split
    · rename_i hlength
      exact absurd ⟨Int.not_lt.mp hexponent, hlength⟩ h
    · rfl

theorem plain_spells (h : s.Leads) :
    (plain negative s).Spells (signed negative (s.positional []))
      (s.decimal negative).toBinary64 := by
  unfold plain
  split
  · rename_i hwhole
    have hspells := spells_zeros_after negative h hwhole.1 hwhole.2 0
    rw [Scientific.positional, if_neg (Int.not_lt.mpr hwhole.1)]
    dsimp only
    rw [if_pos hwhole.2]
    exact hspells
  · rename_i hfraction
    rw [positional_of_fraction hfraction [] ".0".toList]
    exact positional_spells negative h

theorem plain_cases (s : Scientific) :
    (∃ after, plain negative s =
      ⟨negative, s.digits ++ List.replicate after '0', [], none⟩) ∨
    (∃ before, plain negative s =
      ⟨negative, ['0'], List.replicate before '0' ++ s.digits, none⟩) ∨
    ∃ size, plain negative s = ⟨negative, s.digits.take size, s.digits.drop size, none⟩ := by
  unfold plain
  split
  · exact .inl ⟨_, rfl⟩
  · rename_i hfraction
    unfold positional
    split
    · exact .inr (.inl ⟨_, rfl⟩)
    · rename_i hexponent
      dsimp only
      split
      · rename_i hlength
        exact absurd ⟨Int.not_lt.mp hexponent, hlength⟩ hfraction
      · exact .inr (.inr ⟨_, rfl⟩)

theorem plain_shows (s : Scientific) : (plain negative s).Shows s := by
  rcases plain_cases negative s with ⟨after, h⟩ | ⟨before, h⟩ | ⟨size, h⟩
  · exact ⟨0, after, by simp [h]⟩
  · exact ⟨before + 1, 0, by simp [h, List.replicate_succ]⟩
  · exact ⟨0, 0, by simp [h]⟩

theorem plain_exponent (s : Scientific) : (plain negative s).exponent = none := by
  rcases plain_cases negative s with ⟨after, h⟩ | ⟨before, h⟩ | ⟨size, h⟩ <;> rw [h]

theorem exponential_shows (s : Scientific) : (exponential negative s).Shows s :=
  ⟨0, 0, by
    simp only [exponential, List.replicate_zero, List.nil_append, List.append_nil,
      List.take_append_drop]⟩

theorem length_whole_exponential (h : s.Leads) : (exponential negative s).whole.length = 1 := by
  have hpos := h.length_pos
  simp [exponential]
  omega

theorem getLast?_drop {digits : Text} (h : digits.getLast? ≠ some '0') (k : Nat) :
    (digits.drop k).getLast? ≠ some '0' := by
  rw [List.getLast?_drop]
  split
  · exact nofun
  · exact h

theorem getLast?_plain (hne : s.digits ≠ []) (h : s.digits.getLast? ≠ some '0') :
    (plain negative s).fraction.getLast? ≠ some '0' := by
  rcases plain_cases negative s with ⟨after, hplain⟩ | ⟨before, hplain⟩ | ⟨size, hplain⟩
  · rw [hplain]
    exact nofun
  · rwa [hplain, List.getLast?_append, Option.or_of_isSome (List.getLast?_isSome.mpr hne)]
  · rw [hplain]
    exact getLast?_drop h size

theorem getLast?_exponential (h : s.digits.getLast? ≠ some '0') :
    (exponential negative s).fraction.getLast? ≠ some '0' :=
  getLast?_drop h 1

def ofNumber (negative : Bool) (m : Magnitude) : Numeral :=
  if m = .zero then ⟨false, ['0'], [], none⟩
  else if -6 ≤ (m.shortest .up).exponent ∧ (m.shortest .up).exponent ≤ 20 then
    plain negative (m.shortest .up)
  else exponential negative (m.shortest .up)

theorem ofNumber_spells (negative : Bool) (m : Magnitude) :
    (ofNumber negative m).Spells (Binary64.finite negative m).text
      (if m = .zero then .zero else .finite negative m) := by
  unfold ofNumber
  split
  · rename_i hzero
    refine ⟨⟨rfl, List.cons_ne_nil _ _, .inl rfl, rfl, nofun⟩, ?_, ?_⟩
    · rw [Binary64.text, if_pos hzero]
      rfl
    · have hdecimal : (⟨false, ['0'], [], none⟩ : Numeral).decimal = ⟨false, 0, -(0 : Nat)⟩ := rfl
      rw [hdecimal, Decimal.toBinary64_neg, Binary64.ofRatio,
        Magnitude.nearest?_zero (Rounding.ten_pow_pos 0)]
      rfl
  · rename_i hne
    have hleads := m.shortest_leads .up hne
    rw [Binary64.text_of_ne_zero hne, ← m.shortest_toBinary64 .up negative]
    split
    · exact plain_spells negative hleads
    · exact exponential_spells negative hleads

end Json.Numeral

namespace Binary64

/-- A number without the sign of a zero. -/
def unsignedZero : Binary64 → Binary64
  | .finite negative m => if m = .zero then .zero else .finite negative m
  | x => x

theorem readNumber?_text (x : Binary64) :
    readNumber? Decimal.toBinary64 x.text = some x.unsignedZero := by
  cases x with
  | nan => rfl
  | infinite negative => cases negative <;> rfl
  | finite negative m =>
      have hspells := Json.Numeral.ofNumber_spells negative m
      rw [← hspells.text, Json.Numeral.readNumber?_text hspells.wellFormed, hspells.value]
      rfl

theorem finite_ne_zero {m : Magnitude} (hm : m ≠ .zero) (negative : Bool) :
    finite negative m ≠ zero := fun h => hm (finite.inj h).2

theorem unsignedZero_eq_iff {x y : Binary64} (hx : x.isFinite = true) (hy : y.isFinite = true) :
    x.unsignedZero = y.unsignedZero ↔ x.equal y = true := by
  cases x with
  | nan => cases hx
  | infinite s => cases hx
  | finite s m =>
      cases y with
      | nan => cases hy
      | infinite t => cases hy
      | finite t n =>
          rw [unsignedZero, unsignedZero, equal, Bool.and_eq_true, Bool.or_eq_true, beq_iff_eq,
            beq_iff_eq, beq_iff_eq]
          by_cases hm : m = .zero
          · rw [if_pos hm]
            by_cases hn : n = .zero
            · rw [if_pos hn]
              exact iff_of_true rfl ⟨hm.trans hn.symm, .inr hm⟩
            · rw [if_neg hn]
              exact iff_of_false (finite_ne_zero hn t).symm fun h => hn (h.1.symm.trans hm)
          · rw [if_neg hm]
            by_cases hn : n = .zero
            · rw [if_pos hn]
              exact iff_of_false (finite_ne_zero hm s) fun h => hm (h.1.trans hn)
            · rw [if_neg hn, finite.injEq, or_iff_left hm, and_comm]

theorem unsignedZero_text {x : Binary64} (hx : x.isFinite = true) :
    x.unsignedZero.text = x.text := by
  cases x with
  | nan => cases hx
  | infinite s => cases hx
  | finite s m =>
      by_cases hm : m = .zero
      · rw [unsignedZero, if_pos hm, text, if_pos hm]
        rfl
      · rw [unsignedZero, if_neg hm]

theorem unsignedZero_of_text_eq {x y : Binary64} (h : x.text = y.text) :
    x.unsignedZero = y.unsignedZero := by
  have hx := readNumber?_text x
  rw [h, readNumber?_text y] at hx
  exact (Option.some_inj.mp hx).symm

theorem text_eq_iff {x y : Binary64} (hx : x.isFinite = true) (hy : y.isFinite = true) :
    x.text = y.text ↔ x.equal y = true := by
  rw [← unsignedZero_eq_iff hx hy]
  refine ⟨unsignedZero_of_text_eq, fun h => ?_⟩
  rw [← unsignedZero_text hx, h, unsignedZero_text hy]

theorem text_ne_of_isFinite {x y : Binary64} (hx : x.isFinite = true) (hy : y.isFinite = false) :
    x.text ≠ y.text := by
  intro htext
  have hunsigned := unsignedZero_of_text_eq htext
  cases x with
  | nan => cases hx
  | infinite s => cases hx
  | finite s m =>
      cases y with
      | finite t n => cases hy
      | _ =>
          rw [unsignedZero] at hunsigned
          split at hunsigned <;> cases hunsigned

end Binary64

namespace Value

/-- The text of a number is a numeral with the shortest digits, in positional notation if their
exponent is between -6 and 20, that is read back as the number. -/
theorem number_text :
    (∀ (negative : Bool) (m : Magnitude), m ≠ .zero →
      ∃ (s : Scientific) (n : Json.Numeral), s.Shortest negative (.finite negative m) ∧ n.Shows s ∧
        n.Spells (number (.finite negative m)).text (.finite negative m) ∧
        n.fraction.getLast? ≠ some '0' ∧
        (if -6 ≤ s.exponent ∧ s.exponent ≤ 20 then n.exponent = none
          else n.whole.length = 1 ∧
            n.exponent = some (decide (s.exponent < 0), Nat.toDigits 10 s.exponent.natAbs)) ∧
        readNumber? Decimal.toBinary64 (number (.finite negative m)).text =
          some (.finite negative m)) ∧
    (∀ x y : Binary64, x.isFinite = true → y.isFinite = true →
      ((number x).text = (number y).text ↔ x.equal y = true)) ∧
    ∀ x : Binary64, x.isFinite = true →
      (number x).text ∉ ["NaN".toList, "Infinity".toList, "-Infinity".toList] := by
  refine ⟨fun negative m hm => ?_, fun x y => Binary64.text_eq_iff, fun x hx => ?_⟩
  · have hspells := Json.Numeral.ofNumber_spells negative m
    rw [if_neg hm] at hspells
    have hread := Binary64.readNumber?_text (.finite negative m)
    rw [Binary64.unsignedZero, if_neg hm] at hread
    have hlast := m.getLast?_shortest .up
    have hshortest := Magnitude.shortest_shortest .up hm negative
    refine ⟨m.shortest .up, _, hshortest, ?_, hspells, ?_, ?_, hread⟩
    all_goals
      rw [Json.Numeral.ofNumber, if_neg hm]
      split
    · exact Json.Numeral.plain_shows negative _
    · exact Json.Numeral.exponential_shows negative _
    · exact Json.Numeral.getLast?_plain negative hshortest.leads.ne_nil hlast
    · exact Json.Numeral.getLast?_exponential negative hlast
    · exact Json.Numeral.plain_exponent negative _
    · exact ⟨Json.Numeral.length_whole_exponential negative hshortest.leads, rfl⟩
  · rw [List.mem_cons, List.mem_cons, List.mem_singleton, not_or, not_or]
    exact ⟨Binary64.text_ne_of_isFinite (y := .nan) hx rfl,
      Binary64.text_ne_of_isFinite (y := .infinite false) hx rfl,
      Binary64.text_ne_of_isFinite (y := .infinite true) hx rfl⟩

theorem number_text_positionalBelow :
    (number (.finite true Binary64.positionalBelow)).text = "-1e+21".toList ∧
      (∃ (s : Scientific) (n : Json.Numeral),
        s.Shortest true (.finite true Binary64.positionalBelow) ∧ n.Shows s ∧
          n.Spells "-1e+21".toList (.finite true Binary64.positionalBelow)) ∧
      (number (.finite true .zero)).text = (number (.finite false .zero)).text ∧
      (number (.finite true .zero)).text ≠ "NaN".toList := by
  have htext : (number (.finite true Binary64.positionalBelow)).text = "-1e+21".toList := by
    decide +kernel
  obtain ⟨s, n, hshortest, hshows, hspells, -⟩ :=
    number_text.1 true Binary64.positionalBelow (by decide +kernel)
  rw [htext] at hspells
  refine ⟨htext, ⟨s, n, hshortest, hshows, hspells⟩, ?_, ?_⟩
  · exact (number_text.2.1 (.finite true .zero) (.finite false .zero) rfl rfl).mpr (by decide)
  · intro hnan
    have hwords := number_text.2.2 (.finite true .zero) rfl
    rw [hnan] at hwords
    exact hwords List.mem_cons_self

end Value

end RouteTree
