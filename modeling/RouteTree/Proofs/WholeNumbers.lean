import RouteTree.Proofs.NumberText
import RouteTree.Proofs.StructuralText

namespace RouteTree

/-! A number that stands alone has no more significant digits than places before the point. Among
other values only the numbers below `2 ^ 53` are written as whole ones. -/

namespace Scientific

def ofNat (n : Nat) : Scientific := ⟨Nat.toDigits 10 n, (Nat.toDigits 10 n).length - 1⟩

theorem leads_ofNat {n : Nat} (h : n ≠ 0) : (ofNat n).Leads := by
  have hhead := head?_toDigits_ne_zero h
  obtain ⟨d, rest, hdigits⟩ := List.exists_cons_of_ne_nil (@Nat.toDigits_ne_nil n 10)
  refine ⟨all_isDigit_toDigits n, d, rest, hdigits, ?_⟩
  rintro rfl
  rw [hdigits] at hhead
  exact hhead rfl

theorem ofNat_decimal (negative : Bool) (n : Nat) :
    (ofNat n).decimal negative = ⟨negative, n, -(0 : Nat)⟩ := by
  simp only [ofNat, decimal, digitsValue_toDigits, Decimal.mk.injEq, true_and]
  omega

end Scientific

namespace Magnitude

variable {m bound : Magnitude} {tie : Tie}

theorem le_exponent_iff_truncate {exponent : Nat}
    (hunits : bound.units = unitsPerOne * 10 ^ exponent)
    (hself : (bound.shortest tie).exponent = exponent) (h : m.isWhole = true) (hm : m ≠ zero) :
    (exponent : Int) ≤ (m.shortest tie).exponent ↔ 10 ^ exponent ≤ m.truncate := by
  have hnearest : nearest? (10 ^ exponent) 1 = some bound := by
    rw [← nearest?_mul_left unitsPerOne_pos, ← hunits, Nat.mul_one]
    exact bound.nearest?_units
  have hbound : Decimal.toBinary64 ⟨false, 1, exponent⟩ = .finite false bound := by
    rw [Decimal.toBinary64_eq_ofRatio false 1 (Int.add_zero _), Nat.one_mul, Nat.pow_zero,
      Binary64.ofRatio, hnearest]
    rfl
  rw [le_exponent_iff hbound hself hm, hunits, ← unitsPerOne_mul_truncate h]
  exact Nat.mul_le_mul_left_iff unitsPerOne_pos

theorem exponent_nonneg (tie : Tie) (h : m.isWhole = true) (hm : m ≠ zero) :
    0 ≤ (m.shortest tie).exponent := by
  have hself : ((⟨1023, 0⟩ : Magnitude).shortest tie).exponent = (0 : Nat) := by
    cases tie <;> decide +kernel
  exact (le_exponent_iff_truncate (by decide +kernel) hself h hm).mpr (truncate_pos h hm)

theorem sixteen_le_exponent_iff (h : m.isWhole = true) (hm : m ≠ zero) :
    16 ≤ (m.shortest .even).exponent ↔ 10 ^ 16 ≤ m.truncate :=
  @le_exponent_iff_truncate m ⟨1076, 0x1C37937E08000⟩ .even 16 (by decide +kernel)
    (by decide +kernel) h hm

theorem truncate_lt_iff (h : m.isWhole = true) (hm : m ≠ zero) :
    m.truncate < 10 ^ 21 ↔ (m.shortest .up).exponent < 21 := by
  rw [← Nat.not_le, ← Int.not_le]
  exact not_congr (@le_exponent_iff_truncate m Binary64.positionalBelow .up 21 (by decide +kernel)
    (by decide +kernel) h hm).symm

/-- A power of ten between two numerals for a number is a numeral for it, too. -/
theorem ten_pow_reads {s t : Scientific} (hs : s.Leads) (ht : t.Leads)
    (hsreads : (s.decimal false).toBinary64 = .finite false m)
    (htreads : (t.decimal false).toBinary64 = .finite false m) (h : s.exponent < t.exponent) :
    ((⟨['1'], t.exponent⟩ : Scientific).decimal false).toBinary64 = .finite false m := by
  obtain ⟨n, hn⟩ : ∃ n : Nat, s.exponent.natAbs + s.digits.length +
      (t.exponent.natAbs + t.digits.length) = n := ⟨_, rfl⟩
  obtain ⟨k, e, hk, he, -, hupper⟩ := hs.exists_bounds (n := n) (by omega)
  obtain ⟨k', e', hk', he', hlower, -⟩ := ht.exists_bounds (n := n) (by omega)
  have hpowers : 10 ^ (e + 1) ≤ 10 ^ e' := Nat.pow_le_pow_right (by decide) (by omega)
  have hpower := nearest?_between (Nat.le_trans (Nat.le_of_lt hupper) hpowers) hlower
    (s.nearest?_of_reads hsreads hk) (t.nearest?_of_reads htreads hk')
  have hdecimal : (⟨['1'], t.exponent⟩ : Scientific).decimal false = ⟨false, 1, t.exponent⟩ := by
    simp [Scientific.decimal, digitsValue, digitValue]
  rw [hdecimal, Decimal.toBinary64_eq_ofRatio false 1 he', Nat.one_mul, Binary64.ofRatio, hpower]
  rfl

theorem length_shortest_le_exponent (tie : Tie) (h : m.isWhole = true) (hm : m ≠ zero) :
    ((m.shortest tie).digits.length : Int) ≤ (m.shortest tie).exponent + 1 := by
  have hnonneg := exponent_nonneg tie h hm
  have hleads := Scientific.leads_ofNat (Nat.ne_of_gt (truncate_pos h hm))
  have hreads : ((Scientific.ofNat m.truncate).decimal false).toBinary64 = .finite false m := by
    rw [Scientific.ofNat_decimal, Decimal.toBinary64_neg, Nat.pow_zero, Binary64.ofRatio,
      m.nearest?_truncate h]
    rfl
  have hlength := m.length_shortest_le tie hleads hreads
  have hexponent : (Scientific.ofNat m.truncate).exponent =
      (Scientific.ofNat m.truncate).digits.length - 1 := rfl
  rcases Int.lt_or_le (m.shortest tie).exponent (Scientific.ofNat m.truncate).exponent with
    hlt | hge
  · have hpower := ten_pow_reads (m.shortest_leads tie hm) hleads
      (m.shortest_toBinary64 tie false) hreads hlt
    have hone := m.length_shortest_le tie ⟨rfl, '1', [], rfl, by decide⟩ hpower
    rw [List.length_singleton] at hone
    omega
  · omega

end Magnitude

namespace Json.Numeral

variable {n : Numeral} {m : Magnitude}

theorem point_notMem_text (h : n.WellFormed) : '.' ∉ n.text ↔ n.fraction = [] := by
  have hdigits : ∀ digits : Text, digits.all isDigit = true → '.' ∉ digits :=
    fun digits hall hmem => absurd (List.all_eq_true.mp hall _ hmem) (by decide)
  have hsign : ∀ t : Text, '.' ∉ signed n.negative t ↔ '.' ∉ t := by
    intro t
    cases n.negative <;> simp [signed]
  have hexponent : '.' ∉ exponentText n.exponent := by
    have hall := h.exponent
    cases hexp : n.exponent with
    | none => exact List.not_mem_nil
    | some e =>
        obtain ⟨negative, digits⟩ := e
        have hrest := hdigits digits (hall _ hexp).1
        cases negative <;> simpa [exponentText] using hrest
  rw [text, hsign, List.mem_append, List.mem_append, not_or, not_or]
  cases hfraction : n.fraction with
  | nil => exact iff_of_true ⟨hdigits _ h.whole, List.not_mem_nil, hexponent⟩ rfl
  | cons d rest =>
      refine iff_of_false ?_ (List.cons_ne_nil _ _)
      exact fun hnot => hnot.2.1 List.mem_cons_self

theorem positional_fraction_ne_nil (negative : Bool) {s : Scientific} (h : s.digits ≠ []) :
    (positional negative s).fraction ≠ [] := by
  unfold positional
  split
  · exact List.append_ne_nil_of_right_ne_nil _ h
  · dsimp only
    split
    · exact List.cons_ne_nil _ _
    · rename_i hlength
      rw [ne_eq, List.drop_eq_nil_iff]
      exact hlength

theorem fraction_eq_nil_iff (negative : Bool) {s : Scientific} (h : s.Leads)
    (hexponent : 0 ≤ s.exponent) :
    (if -5 ≤ s.exponent ∧ s.exponent < 16 then positional negative s
      else exponential negative s).fraction = [] ↔ 16 ≤ s.exponent ∧ s.digits.length = 1 := by
  have hpos := h.length_pos
  split
  · rename_i hrange
    exact iff_of_false (positional_fraction_ne_nil negative h.ne_nil) (by omega)
  · rw [exponential, List.drop_eq_nil_iff]
    omega

theorem ofBinary_of_ne_zero (negative : Bool) (hm : m ≠ .zero) :
    ofBinary negative m =
      if -5 ≤ (m.shortest .even).exponent ∧ (m.shortest .even).exponent < 16 then
        positional negative (m.shortest .even)
      else exponential negative (m.shortest .even) := if_neg hm

theorem ofBinary_fraction_eq_nil_iff (negative : Bool) (h : m.isWhole = true) (hm : m ≠ .zero) :
    (ofBinary negative m).fraction = [] ↔
      10 ^ 16 ≤ m.truncate ∧ (m.shortest .even).digits.length = 1 := by
  rw [← Magnitude.sixteen_le_exponent_iff h hm, ofBinary_of_ne_zero negative hm]
  exact fraction_eq_nil_iff negative (m.shortest_leads .even hm)
    (Magnitude.exponent_nonneg .even h hm)

def ofFinite (negative : Bool) (m : Magnitude) : Numeral :=
  if m.isWhole && decide (m.truncate < 2 ^ 53) then
    ofWhole (if negative then -(m.truncate : Int) else m.truncate)
  else ofBinary negative m

theorem ofFinite_wellFormed (negative : Bool) (m : Magnitude) :
    (ofFinite negative m).WellFormed := by
  unfold ofFinite
  split
  · exact (ofWhole_spells _).wellFormed
  · exact (ofBinary_spells negative m).wellFormed

theorem ofFinite_fraction_eq_nil_iff (negative : Bool) (h : m.isWhole = true) :
    (ofFinite negative m).fraction = [] ↔
      m.truncate < 2 ^ 53 ∨ 10 ^ 16 ≤ m.truncate ∧
        ∃ s : Scientific, s.Leads ∧ s.digits.length = 1 ∧
          (s.decimal negative).toBinary64 = .finite negative m := by
  unfold ofFinite
  rw [h, Bool.true_and]
  split
  · rename_i hsmall
    exact iff_of_true rfl (.inl (of_decide_eq_true hsmall))
  · rename_i hlarge
    rw [decide_eq_true_eq] at hlarge
    have hm : m ≠ .zero := by
      rintro rfl
      rw [Magnitude.zero_truncate] at hlarge
      exact hlarge (Nat.two_pow_pos 53)
    have hleads := m.shortest_leads .even hm
    rw [ofBinary_fraction_eq_nil_iff negative h hm, or_iff_right hlarge]
    refine and_congr_right fun _ => ⟨fun hone => ?_, fun hone => ?_⟩
    · exact ⟨_, hleads, hone, m.shortest_toBinary64 .even negative⟩
    · obtain ⟨s, hs, hlength, hreads⟩ := hone
      exact Nat.le_antisymm (hlength ▸ m.length_shortest_le .even hs hreads) hleads.length_pos

theorem ofNumber_fraction_eq_nil (negative : Bool) (h : m.isWhole = true)
    (htruncate : m.truncate < 10 ^ 21) : (ofNumber negative m).fraction = [] := by
  unfold ofNumber
  split
  · rfl
  · rename_i hm
    have hnonneg := Magnitude.exponent_nonneg .up h hm
    have hbelow := (Magnitude.truncate_lt_iff h hm).mp htruncate
    have hlength := Magnitude.length_shortest_le_exponent .up h hm
    rw [if_pos (by omega), plain, if_pos (by omega)]

end Json.Numeral

namespace Json.Written

mutual
/-- The numerals in a value, in order. -/
def numerals : Written → List Numeral
  | .number n => [n]
  | .array items => itemsNumerals items
  | .object members => membersNumerals members
  | _ => []

def itemsNumerals : List Written → List Numeral
  | [] => []
  | item :: rest => item.numerals ++ itemsNumerals rest

def membersNumerals : List (List StringPart × Written) → List Numeral
  | [] => []
  | (_, value) :: rest => value.numerals ++ membersNumerals rest
end

end Json.Written

namespace Value

mutual
def numbers : Value → List (Bool × Magnitude)
  | .number (.finite negative m) => [(negative, m)]
  | .array items => itemsNumbers items
  | .object members => membersNumbers members
  | _ => []

def itemsNumbers : List Value → List (Bool × Magnitude)
  | [] => []
  | item :: rest => item.numbers ++ itemsNumbers rest

def membersNumbers : List (Text × Value) → List (Bool × Magnitude)
  | [] => []
  | (_, value) :: rest => value.numbers ++ membersNumbers rest
end

theorem numberJson_written (negative : Bool) (m : Magnitude) :
    (numberJson (.finite negative m)).written = .number (.ofFinite negative m) := by
  rw [numberJson, Json.Numeral.ofFinite]
  split <;> rfl

mutual
theorem numerals_toJson (v : Value) :
    v.toJson.written.numerals = v.numbers.map fun x => .ofFinite x.1 x.2 := by
  cases v with
  | number x =>
      cases x with
      | finite negative m =>
          rw [toJson, numberJson_written]
          rfl
      | _ => rfl
  | array items => exact numerals_itemsToJson items
  | object members => exact numerals_membersToJson members
  | _ => rfl

theorem numerals_itemsToJson (items : List Value) :
    Json.Written.itemsNumerals (Json.itemsWritten (itemsToJson items)) =
      (itemsNumbers items).map fun x => .ofFinite x.1 x.2 := by
  cases items with
  | nil => rfl
  | cons item rest =>
      rw [itemsToJson, Json.itemsWritten, Json.Written.itemsNumerals, itemsNumbers, List.map_append,
        numerals_toJson item, numerals_itemsToJson rest]

theorem numerals_membersToJson (members : List (Text × Value)) :
    Json.Written.membersNumerals (Json.membersWritten (membersToJson members)) =
      (membersNumbers members).map fun x => .ofFinite x.1 x.2 := by
  cases members with
  | nil => rfl
  | cons member rest =>
      obtain ⟨key, value⟩ := member
      have hrest := numerals_membersToJson rest
      by_cases hvalue : value = .undefined
      · subst hvalue
        exact hrest
      · rw [membersToJson_cons hvalue, Json.membersWritten, Json.Written.membersNumerals,
          membersNumbers, List.map_append, numerals_toJson value, hrest]
end

/-- The numeral of a whole number has no point just when the number is below `2 ^ 53`, or at least
`10 ^ 16` with one significant digit; alone the number has no point below `10 ^ 21`. -/
theorem whole_numerals (v : Value) (hstructural : v.IsStructural) :
    (∃ w, Json.Written.ofText? v.text = some w ∧
      w.numerals = v.numbers.map fun x => .ofFinite x.1 x.2) ∧
    ∀ (negative : Bool) (m : Magnitude), (negative, m) ∈ v.numbers → m.isWhole = true →
      ('.' ∉ (Json.Numeral.ofFinite negative m).text ↔
        m.truncate < 2 ^ 53 ∨ 10 ^ 16 ≤ m.truncate ∧
          ∃ s : Scientific, s.Leads ∧ s.digits.length = 1 ∧
            (s.decimal negative).toBinary64 = .finite negative m) ∧
      (m.truncate < 10 ^ 21 → '.' ∉ (number (.finite negative m)).text) := by
  constructor
  · have hread := Json.ofText?_text v.toJson
    rw [← text_of_isStructural hstructural] at hread
    exact ⟨_, hread, v.numerals_toJson⟩
  · intro negative m _ hwhole
    constructor
    · rw [Json.Numeral.point_notMem_text (Json.Numeral.ofFinite_wellFormed negative m)]
      exact Json.Numeral.ofFinite_fraction_eq_nil_iff negative hwhole
    · intro hbelow
      have hspells := Json.Numeral.ofNumber_spells negative m
      have hfraction := Json.Numeral.ofNumber_fraction_eq_nil negative hwhole hbelow
      have hpoint := (Json.Numeral.point_notMem_text hspells.wellFormed).mpr hfraction
      rwa [hspells.text] at hpoint

def wholesAround : Value :=
  .object
    [("n".toList,
      .array
        [.number (.finite true ⟨⟨1075, by decide⟩, ⟨0xFFFFFFFFFFFFF, by decide⟩⟩),
          .number (.finite false ⟨⟨1076, by decide⟩, ⟨0, by decide⟩⟩),
          .number (.finite false ⟨⟨1076, by decide⟩, ⟨0x1C37937E08000, by decide⟩⟩)])]

theorem whole_numerals_around :
    wholesAround.text = "\x7b\"n\":[-9007199254740991,9007199254740992.0,1e+16]\x7d".toList ∧
      (∃ w, Json.Written.ofText? wholesAround.text = some w ∧
        w.numerals =
          [⟨true, "9007199254740991".toList, [], none⟩,
            ⟨false, "9007199254740992".toList, ['0'], none⟩,
            ⟨false, ['1'], [], some (false, "16".toList)⟩]) ∧
      (∃ s : Scientific, s.Leads ∧ s.digits.length = 1 ∧
        (s.decimal false).toBinary64 = .finite false ⟨1076, 0x1C37937E08000⟩) ∧
      '.' ∉ (number (.finite false ⟨1076, 0⟩)).text := by
  refine ⟨by decide +kernel, ?_, ?_, ?_⟩
  · obtain ⟨w, hw, hnumerals⟩ := (whole_numerals wholesAround trivial).1
    exact ⟨w, hw, hnumerals.trans (by decide +kernel)⟩
  · have hone := ((whole_numerals wholesAround trivial).2 false ⟨1076, 0x1C37937E08000⟩
      (by decide +kernel) (by decide +kernel)).1.mp (by decide +kernel)
    exact (hone.resolve_left (by decide +kernel)).2
  · exact ((whole_numerals wholesAround trivial).2 false ⟨1076, 0⟩ (by decide +kernel)
      (by decide +kernel)).2 (by decide +kernel)

/-- At `2 ^ 53` a number has no point alone, but one in an array. -/
theorem point_of_whole_number :
    let m : Magnitude := ⟨1076, 0⟩
    (m.isWhole = true ∧ m.truncate = 2 ^ 53) ∧
      (number (.finite false m)).text = "9007199254740992".toList ∧
      (array [.number (.finite false m)]).text = "[9007199254740992.0]".toList ∧
      ¬ ∀ v : Value, v.IsStructural → (∀ x ∈ v.numbers, x.2.isWhole = true) →
        ∀ w, Json.Written.ofText? v.text = some w → ∀ n ∈ w.numerals, '.' ∉ n.text := by
  intro m
  refine ⟨by decide +kernel, by decide +kernel, by decide +kernel, fun h => ?_⟩
  have hnumbers : ∀ x ∈ (array [.number (.finite false m)]).numbers, x.2.isWhole = true := by
    decide +kernel
  have hpoint := h (.array [.number (.finite false m)]) trivial hnumbers _ (Json.ofText?_text _)
    ⟨false, "9007199254740992".toList, ['0'], none⟩ (by decide +kernel)
  exact hpoint (by decide)

end Value

end RouteTree
