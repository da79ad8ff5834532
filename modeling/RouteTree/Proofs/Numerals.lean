import RouteTree.Json.Written
import RouteTree.Value
import RouteTree.Proofs.ShortestDigits

namespace RouteTree.Json

/-! The numerals of JSON numbers, and what they are read as. -/

namespace Numeral

def fractionText : Text → Text
  | [] => []
  | fraction => '.' :: fraction

def exponentText : Option (Bool × Text) → Text
  | none => []
  | some (negative, digits) => 'e' :: (if negative then '-' else '+') :: digits

def text (n : Numeral) : Text :=
  signed n.negative (n.whole ++ (fractionText n.fraction ++ exponentText n.exponent))

structure WellFormed (n : Numeral) : Prop where
  whole : n.whole.all isDigit = true
  nonempty : n.whole ≠ []
  leads : n.whole = ['0'] ∨ n.whole.head? ≠ some '0'
  fraction : n.fraction.all isDigit = true
  exponent : ∀ e ∈ n.exponent, e.2.all isDigit = true ∧ e.2 ≠ []

end Numeral

/-- What follows a numeral without going on with it. -/
def EndsNumeral (rest : Text) : Prop :=
  ∀ c, rest.head? = some c → isDigit c = false ∧ c ≠ '.' ∧ c ≠ 'e' ∧ c ≠ 'E'

theorem spanDigits_append {digits rest : Text} (hdigits : digits.all isDigit = true)
    (hrest : ∀ c, rest.head? = some c → isDigit c = false) :
    spanDigits (digits ++ rest) = (digits, rest) := by
  have hall := List.all_eq_true.mp hdigits
  have hnone : rest.takeWhile isDigit = [] ∧ rest.dropWhile isDigit = rest := by
    cases rest with
    | nil => exact ⟨rfl, rfl⟩
    | cons c rest => simp [hrest c rfl]
  rw [spanDigits, List.takeWhile_append_of_pos hall, List.dropWhile_append_of_pos hall, hnone.1,
    hnone.2, List.append_nil]

theorem readExponent?_text {exponent : Option (Bool × Text)} {rest : Text}
    (hexponent : ∀ e ∈ exponent, e.2.all isDigit = true ∧ e.2 ≠ []) (hrest : EndsNumeral rest) :
    readExponent? (Numeral.exponentText exponent ++ rest) = some (exponent, rest) := by
  cases exponent with
  | none =>
      cases rest with
      | nil => rfl
      | cons c rest =>
          have hc := hrest c rfl
          simp [Numeral.exponentText, readExponent?, hc.2.2.1, hc.2.2.2]
  | some e =>
      obtain ⟨negative, digits⟩ := e
      obtain ⟨hdigits, hne⟩ := hexponent _ rfl
      have hspan := spanDigits_append hdigits fun c hc => (hrest c hc).1
      cases digits with
      | nil => exact absurd rfl hne
      | cons d digits =>
          rw [List.cons_append] at hspan
          cases negative <;> simp [Numeral.exponentText, readExponent?, spanSign, hspan]

theorem readFraction?_text {fraction : Text} {rest : Text} (hfraction : fraction.all isDigit = true)
    (hrest : ∀ c, rest.head? = some c → isDigit c = false ∧ c ≠ '.') :
    readFraction? (Numeral.fractionText fraction ++ rest) = some (fraction, rest) := by
  cases fraction with
  | nil =>
      rw [Numeral.fractionText, List.nil_append, readFraction?.eq_def]
      split
      · exact absurd rfl (hrest _ rfl).2
      · rfl
  | cons d fraction =>
      have hspan := spanDigits_append hfraction fun c hc => (hrest c hc).1
      rw [List.cons_append] at hspan
      simp [Numeral.fractionText, readFraction?, hspan]

theorem readWhole?_append {whole rest : Text} (hwhole : whole.all isDigit = true)
    (hne : whole ≠ []) (hleads : whole = ['0'] ∨ whole.head? ≠ some '0')
    (hrest : ∀ c, rest.head? = some c → isDigit c = false) :
    readWhole? (whole ++ rest) = some (whole, rest) := by
  rw [readWhole?, spanDigits_append hwhole hrest]
  split
  · rename_i hnil
    cases hnil
    exact absurd rfl hne
  · rename_i hzero
    cases hzero
    rcases hleads with hone | hhead
    · cases hone
    · exact absurd rfl hhead
  · rfl

theorem readNumeral?_signed (negative : Bool) {t : Text} (ht : t.head? ≠ some '-') :
    readNumeral? (signed negative t) = (do
      let (whole, t) ← readWhole? t
      let (fraction, t) ← readFraction? t
      let (exponent, t) ← readExponent? t
      return (⟨negative, whole, fraction, exponent⟩, t)) := by
  cases negative with
  | true => rfl
  | false =>
      cases t with
      | nil => rfl
      | cons c t =>
          have hc : c ≠ '-' := fun h => ht (congrArg some h)
          simp only [signed, Bool.false_eq_true, if_false, readNumeral?]
          split
          · rename_i heq
            cases heq
            exact absurd rfl hc
          · rfl

theorem signed_append (negative : Bool) (t rest : Text) :
    signed negative t ++ rest = signed negative (t ++ rest) := by
  cases negative <;> rfl

theorem isDigit_of_head? {digits : Text} (hdigits : digits.all isDigit = true) {c : Char}
    (hc : digits.head? = some c) : isDigit c = true :=
  List.all_eq_true.mp hdigits c (List.mem_of_mem_head? hc)

theorem head?_exponentText {exponent : Option (Bool × Text)} {rest : Text}
    (hrest : EndsNumeral rest) (c : Char) (hc : (Numeral.exponentText exponent ++ rest).head? = some c) :
    isDigit c = false ∧ c ≠ '.' := by
  cases exponent with
  | none => exact ⟨(hrest c hc).1, (hrest c hc).2.1⟩
  | some e =>
      cases hc
      decide

theorem head?_fractionText {fraction : Text} {exponent : Option (Bool × Text)} {rest : Text}
    (hrest : EndsNumeral rest) (c : Char)
    (hc : (Numeral.fractionText fraction ++ (Numeral.exponentText exponent ++ rest)).head? =
      some c) : isDigit c = false := by
  cases fraction with
  | nil => exact (head?_exponentText hrest c hc).1
  | cons d fraction =>
      cases hc
      decide

theorem readNumeral?_text {n : Numeral} (h : n.WellFormed) {rest : Text}
    (hrest : EndsNumeral rest) : readNumeral? (n.text ++ rest) = some (n, rest) := by
  have hsign : (n.whole ++ (Numeral.fractionText n.fraction ++
      (Numeral.exponentText n.exponent ++ rest))).head? ≠ some '-' := by
    intro hhead
    rw [List.head?_append, Option.or_of_isSome (List.isSome_head?.mpr h.nonempty)] at hhead
    exact absurd (isDigit_of_head? h.whole hhead) (by decide)
  rw [Numeral.text, signed_append, List.append_assoc, List.append_assoc,
    readNumeral?_signed _ hsign,
    readWhole?_append h.whole h.nonempty h.leads (head?_fractionText hrest)]
  simp only [Option.bind_eq_bind, Option.bind_some,
    readFraction?_text h.fraction (head?_exponentText hrest), readExponent?_text h.exponent hrest]
  rfl

/-- A numeral with a text that is rounded to a number. -/
structure Numeral.Spells (n : Numeral) (text : Text) (x : Binary64) : Prop where
  wellFormed : n.WellFormed
  text : n.text = text
  value : n.decimal.toBinary64 = x

namespace Numeral

theorem fractionText_of_ne_nil {fraction : Text} (h : fraction ≠ []) :
    fractionText fraction = '.' :: fraction := by
  cases fraction with
  | nil => exact absurd rfl h
  | cons d rest => rfl

theorem all_isDigit_zeros (k : Nat) : (List.replicate k '0').all isDigit = true :=
  List.all_eq_true.mpr fun _ hc => by
    rw [List.eq_of_mem_replicate hc]
    rfl

def ofWhole (n : Int) : Numeral := ⟨decide (n < 0), Nat.toDigits 10 n.natAbs, [], none⟩

theorem ofWhole_spells (n : Int) : (ofWhole n).Spells (wholeText n) (Binary64.ofInt n) := by
  refine ⟨⟨all_isDigit_toDigits _, Nat.toDigits_ne_nil, ?_, rfl, nofun⟩, ?_, ?_⟩
  · by_cases hzero : n.natAbs = 0
    · left
      rw [ofWhole, hzero]
      rfl
    · exact .inr (head?_toDigits_ne_zero hzero)
  · simp [text, ofWhole, fractionText, exponentText, wholeText]
  · have hdecimal : (ofWhole n).decimal = ⟨decide (n < 0), n.natAbs, 0⟩ := by
      simp [decimal, ofWhole, digitsValue_toDigits]
    rw [hdecimal, Decimal.toBinary64_int]

/-- In positional notation, with a fraction in any case. -/
def positional (negative : Bool) (s : Scientific) : Numeral :=
  if s.exponent < 0 then
    ⟨negative, ['0'], List.replicate (-s.exponent - 1).toNat '0' ++ s.digits, none⟩
  else
    let size := s.exponent.toNat + 1
    if s.digits.length ≤ size then
      ⟨negative, s.digits ++ List.replicate (size - s.digits.length) '0', ['0'], none⟩
    else ⟨negative, s.digits.take size, s.digits.drop size, none⟩

def exponential (negative : Bool) (s : Scientific) : Numeral :=
  ⟨negative, s.digits.take 1, s.digits.drop 1,
    some (decide (s.exponent < 0), Nat.toDigits 10 s.exponent.natAbs)⟩

variable (negative : Bool) {s : Scientific}

theorem spells_zeros_before (h : s.Leads) (hexponent : s.exponent < 0) :
    (⟨negative, ['0'], List.replicate (-s.exponent - 1).toNat '0' ++ s.digits, none⟩ :
        Numeral).Spells
      (signed negative ('0' :: '.' :: (List.replicate (-s.exponent - 1).toNat '0' ++ s.digits)))
      (s.decimal negative).toBinary64 := by
  refine ⟨⟨rfl, List.cons_ne_nil _ _, .inl rfl, ?_, nofun⟩, ?_, congrArg Decimal.toBinary64 ?_⟩
  · rw [List.all_append, all_isDigit_zeros, h.digits]
    rfl
  · simp [text, exponentText, fractionText_of_ne_nil, h.ne_nil]
  · have hvalue := digitsValue_zeros_append ((-s.exponent - 1).toNat + 1) s.digits
    simp only [decimal, Scientific.decimal, List.length_append, List.length_replicate,
      Decimal.mk.injEq, true_and]
    exact ⟨hvalue, by omega⟩

theorem spells_zeros_after (h : s.Leads) (hexponent : 0 ≤ s.exponent)
    (hlength : s.digits.length ≤ s.exponent.toNat + 1) (zeros : Nat) :
    (⟨negative, s.digits ++ List.replicate (s.exponent.toNat + 1 - s.digits.length) '0',
        List.replicate zeros '0', none⟩ : Numeral).Spells
      (signed negative (s.digits ++
        List.replicate (s.exponent.toNat + 1 - s.digits.length) '0' ++
          fractionText (List.replicate zeros '0')))
      (s.decimal negative).toBinary64 := by
  obtain ⟨d, rest, hdigits, hd⟩ := h.first
  refine ⟨⟨?_, ?_, .inr ?_, all_isDigit_zeros zeros, nofun⟩, ?_, ?_⟩
  · rw [List.all_append, all_isDigit_zeros, h.digits]
    rfl
  · simp [h.ne_nil]
  · simp [hdigits, hd]
  · simp [text, exponentText]
  · -- The zeros after the point are more of the padding.
    have hvalue := digitsValue_append_zeros s.digits
      (s.exponent.toNat + 1 - s.digits.length + zeros)
    rw [Scientific.decimal, ← Decimal.toBinary64_shift negative _ _
      (s.exponent.toNat + 1 - s.digits.length + zeros)]
    apply congrArg Decimal.toBinary64
    rw [← List.replicate_append_replicate, ← List.append_assoc] at hvalue
    simp only [decimal, hvalue, Decimal.mk.injEq, true_and, List.length_replicate]
    omega

theorem spells_point_inside (h : s.Leads) (hexponent : 0 ≤ s.exponent)
    (hlength : s.exponent.toNat + 1 < s.digits.length) :
    (⟨negative, s.digits.take (s.exponent.toNat + 1), s.digits.drop (s.exponent.toNat + 1),
        none⟩ : Numeral).Spells
      (signed negative (s.digits.take (s.exponent.toNat + 1) ++
        '.' :: s.digits.drop (s.exponent.toNat + 1)))
      (s.decimal negative).toBinary64 := by
  obtain ⟨d, rest, hdigits, hd⟩ := h.first
  have hall := h.digits
  rw [← List.take_append_drop (s.exponent.toNat + 1) s.digits, List.all_append,
    Bool.and_eq_true] at hall
  refine ⟨⟨hall.1, ?_, .inr ?_, hall.2, nofun⟩, ?_, congrArg Decimal.toBinary64 ?_⟩
  · simp [hdigits]
  · simp [hdigits, hd]
  · have hdrop : s.digits.drop (s.exponent.toNat + 1) ≠ [] := by
      rw [ne_eq, List.drop_eq_nil_iff]
      omega
    simp [text, exponentText, fractionText_of_ne_nil hdrop]
  · simp only [decimal, Scientific.decimal, List.length_drop, List.take_append_drop,
      Decimal.mk.injEq, true_and]
    omega

theorem positional_spells (h : s.Leads) :
    (positional negative s).Spells (signed negative (s.positional ".0".toList))
      (s.decimal negative).toBinary64 := by
  unfold positional Scientific.positional
  split
  · rename_i hexponent
    exact spells_zeros_before negative h hexponent
  · rename_i hexponent
    have hnonneg := Int.not_lt.mp hexponent
    dsimp only
    split
    · rename_i hlength
      exact spells_zeros_after negative h hnonneg hlength 1
    · rename_i hlength
      exact spells_point_inside negative h hnonneg (Nat.not_le.mp hlength)

theorem exponential_spells (h : s.Leads) :
    (exponential negative s).Spells (signed negative s.exponential)
      (s.decimal negative).toBinary64 := by
  obtain ⟨d, rest, hdigits, hd⟩ := h.first
  have hall := h.digits
  rw [hdigits, List.all_cons, Bool.and_eq_true] at hall
  refine ⟨⟨?_, ?_, .inr ?_, ?_, ?_⟩, ?_, congrArg Decimal.toBinary64 ?_⟩
  · simp [exponential, hdigits, hall.1]
  · simp [exponential, hdigits]
  · simp [exponential, hdigits, hd]
  · rw [exponential, hdigits]
    exact hall.2
  · intro e he
    cases he
    exact ⟨all_isDigit_toDigits _, Nat.toDigits_ne_nil⟩
  · rw [exponential, Scientific.exponential, hdigits]
    cases rest <;> simp [text, exponentText, fractionText]
  · have hlength := congrArg List.length hdigits
    rw [List.length_cons] at hlength
    simp only [decimal, exponential, Scientific.decimal, List.take_append_drop, List.length_drop,
      digitsValue_toDigits, Decimal.mk.injEq, true_and, decide_eq_true_eq]
    split <;> omega

def ofBinary (negative : Bool) (m : Magnitude) : Numeral :=
  if m = .zero then ⟨negative, ['0'], ['0'], none⟩
  else
    let shortest := m.shortest .even
    if -5 ≤ shortest.exponent ∧ shortest.exponent < 16 then positional negative shortest
    else exponential negative shortest

theorem zero_spells (negative : Bool) :
    (⟨negative, ['0'], ['0'], none⟩ : Numeral).Spells (signed negative "0.0".toList)
      (.finite negative .zero) := by
  refine ⟨⟨rfl, List.cons_ne_nil _ _, .inl rfl, rfl, nofun⟩, rfl, ?_⟩
  have hdecimal : (⟨negative, ['0'], ['0'], none⟩ : Numeral).decimal = ⟨negative, 0, -(1 : Nat)⟩ :=
    rfl
  rw [hdecimal, Decimal.toBinary64_neg, Binary64.ofRatio, Magnitude.nearest?_zero (by decide)]
  rfl

theorem ofBinary_spells (negative : Bool) (m : Magnitude) :
    (ofBinary negative m).Spells (binaryText (.finite negative m)) (.finite negative m) := by
  unfold ofBinary binaryText
  split
  · rename_i hzero
    rw [hzero]
    exact zero_spells negative
  · rename_i hne
    have hleads := m.shortest_leads .even hne
    have hvalue := m.shortest_toBinary64 .even negative
    dsimp only
    split
    · rw [← hvalue]
      exact positional_spells negative hleads
    · rw [← hvalue]
      exact exponential_spells negative hleads

end Numeral

/-- Every numeral that is rounded to a finite number is read as that number. -/
def ReadsNearest (number? : Numeral → Option Number) : Prop :=
  ∀ n : Numeral, n.decimal.toBinary64.isFinite = true →
    ∃ x, number? n = some x ∧ Value.ofNumber x = n.decimal.toBinary64

/-- Reads a numeral with a single rounding. -/
def Numeral.nearestNumber? (n : Numeral) : Option Number :=
  n.numberOf? (Magnitude.nearest? n.decimal.ratio.1 n.decimal.ratio.2)

theorem gather_eq_digitsValue {digits : Text} {significand : Nat}
    (h : (gather significand digits).2 = 0) :
    (gather significand digits).1 =
      digits.foldl (fun value c => 10 * value + digitValue c) significand := by
  induction digits generalizing significand with
  | nil => rfl
  | cons d rest ih =>
      rw [gather] at h ⊢
      split
      · rename_i hfits
        rw [if_pos hfits] at h
        exact ih h
      · rename_i hfits
        rw [if_neg hfits] at h
        exact absurd h (Nat.succ_ne_zero _)

theorem decimal_of_isWhole {n : Numeral} (h : n.isWhole = true) :
    n.decimal = ⟨n.negative, digitsValue n.whole, 0⟩ := by
  obtain ⟨negative, whole, fraction, exponent⟩ := n
  simp only [Numeral.isWhole, Bool.and_eq_true, List.isEmpty_iff, Option.isNone_iff_eq_none] at h
  obtain ⟨rfl, rfl⟩ := h
  simp [Numeral.decimal]

theorem readsNearest_nearestNumber? : ReadsNearest Numeral.nearestNumber? := by
  intro n hfinite
  have hrounded := n.decimal.toBinary64_eq
  rw [Numeral.nearestNumber?]
  cases hnearest : Magnitude.nearest? n.decimal.ratio.1 n.decimal.ratio.2 with
  | none =>
      rw [Binary64.ofRatio, hnearest] at hrounded
      rw [hrounded] at hfinite
      cases hfinite
  | some m =>
      rw [Binary64.ofRatio, hnearest] at hrounded
      have hbinary : ∃ x, some (Number.binary (.finite n.negative m)) = some x ∧
          Value.ofNumber x = n.decimal.toBinary64 := ⟨_, rfl, hrounded.symm⟩
      rw [Numeral.numberOf?]
      dsimp only [Option.map_some]
      split
      · rename_i hwhole
        rw [Bool.and_eq_true, beq_iff_eq] at hwhole
        have hvalue : (gather 0 n.whole).1 = digitsValue n.whole := gather_eq_digitsValue hwhole.2
        have hdecimal := decimal_of_isWhole hwhole.1
        have hexact : ∀ k : Int, decide (k < 0) = n.negative → k.natAbs = (gather 0 n.whole).1 →
            ∃ x, some (Number.whole k) = some x ∧ Value.ofNumber x = n.decimal.toBinary64 := by
          intro k hsign habs
          refine ⟨_, rfl, ?_⟩
          rw [hdecimal, ← hsign, ← hvalue, ← habs, Decimal.toBinary64_int]
          rfl
        split
        · rename_i hsign
          rw [Bool.not_eq_true'] at hsign
          refine hexact _ ?_ (Int.natAbs_natCast _)
          rw [hsign]
          exact decide_eq_false (by omega)
        · rename_i hsign
          rw [Bool.not_eq_true', Bool.not_eq_false] at hsign
          split
          · rename_i hrange
            refine hexact _ ?_ (by omega)
            rw [hsign]
            exact decide_eq_true (by omega)
          · exact hbinary
      · exact hbinary

def missedNumeral : Numeral := ⟨false, "31".toList, "245270191439438".toList, none⟩

/-- The reader in use rounds more than once, and so misses the nearest number for some numerals. -/
theorem not_readsNearest_number? : ¬ ReadsNearest Numeral.number? := by
  intro h
  obtain ⟨x, hread, hx⟩ := h missedNumeral (by decide +kernel)
  have hmissed : missedNumeral.number?.map Value.ofNumber ≠
      some missedNumeral.decimal.toBinary64 := by
    decide +kernel
  exact hmissed (by rw [hread, Option.map_some, hx])

end RouteTree.Json
