import RouteTree.Proofs.Numerals

namespace RouteTree.Json

def StringPart.ofChar (c : Char) : StringPart :=
  if c.toNat < 32 ∧ c ∉ ['\x08', '\x0c', '\n', '\r', '\t'] then .unit c.toNat else .char c

theorem hexDigitsValue?_control :
    ∀ n < 32, Text.hexDigitsValue? ['0', '0', hexDigit (n / 16), hexDigit (n % 16)] = some n := by
  decide

theorem readParts?_closing (rest : Text) : readParts? ('"' :: rest) = some ([], rest) := by
  rw [readParts?.eq_def]
  rfl

theorem readParts?_unit (a b c d : Char) (rest : Text) :
    readParts? ('\\' :: 'u' :: a :: b :: c :: d :: rest) =
      (Text.hexDigitsValue? [a, b, c, d]).bind fun u =>
        (readParts? rest).map fun (parts, rest) => (.unit u :: parts, rest) := by
  rw [readParts?.eq_def]
  rfl

theorem readParts?_unescape {e c : Char} (h : unescape? e = some c) (rest : Text) :
    readParts? ('\\' :: e :: rest) =
      (readParts? rest).map fun (parts, rest) => (.char c :: parts, rest) := by
  have he : e ≠ 'u' := by
    rintro rfl
    cases h
  rw [readParts?.eq_def]
  simp [he, h]

theorem readParts?_char {c : Char} (hquote : c ≠ '"') (hbackslash : c ≠ '\\')
    (hcontrol : ¬c.toNat < 32) (rest : Text) :
    readParts? (c :: rest) =
      (readParts? rest).map fun (parts, rest) => (.char c :: parts, rest) := by
  rw [readParts?.eq_def]
  simp only [if_neg hquote, if_neg hbackslash, if_neg hcontrol]

theorem readParts?_escape (c : Char) (rest : Text) :
    readParts? (escape c ++ rest) =
      (readParts? rest).map fun (parts, rest) => (.ofChar c :: parts, rest) := by
  unfold escape
  by_cases hspecial : c ∈ ['"', '\\', '\x08', '\x0c', '\n', '\r', '\t']
  · simp only [List.mem_cons, List.not_mem_nil, or_false] at hspecial
    rcases hspecial with rfl | rfl | rfl | rfl | rfl | rfl | rfl <;> rfl
  · simp only [List.mem_cons, List.not_mem_nil, or_false, not_or] at hspecial
    obtain ⟨hquote, hbackslash, h8, hc, hn, hr, ht⟩ := hspecial
    simp only [if_neg hquote, if_neg hbackslash, if_neg h8, if_neg hc, if_neg hn, if_neg hr,
      if_neg ht]
    by_cases hcontrol : c.toNat < 32
    · have hunit := hexDigitsValue?_control c.toNat hcontrol
      have hpart : StringPart.ofChar c = .unit c.toNat :=
        if_pos ⟨hcontrol, by simp [h8, hc, hn, hr, ht]⟩
      rw [if_pos hcontrol, hpart]
      simp only [List.cons_append, List.nil_append, readParts?_unit, hunit, Option.bind_some]
    · have hpart : StringPart.ofChar c = .char c := if_neg fun h => hcontrol h.1
      rw [if_neg hcontrol, hpart, List.singleton_append,
        readParts?_char hquote hbackslash hcontrol]

theorem readParts?_quote (s rest : Text) :
    readParts? (s.flatMap escape ++ '"' :: rest) = some (s.map .ofChar, rest) := by
  induction s with
  | nil => exact readParts?_closing rest
  | cons c s ih =>
      rw [List.flatMap_cons, List.append_assoc, readParts?_escape, ih]
      rfl

theorem partsText?_map_ofChar (s : Text) : partsText? (s.map .ofChar) = some s := by
  induction s with
  | nil => rfl
  | cons c s ih =>
      rw [List.map_cons, StringPart.ofChar]
      split
      · rename_i hcontrol
        have hleading : isLeadingUnit c.toNat = false := by
          simp only [isLeadingUnit, Bool.and_eq_false_iff, decide_eq_false_iff_not]
          omega
        have htrailing : isTrailingUnit c.toNat = false := by
          simp only [isTrailingUnit, Bool.and_eq_false_iff, decide_eq_false_iff_not]
          omega
        rw [partsText?.eq_def]
        simp [hleading, htrailing, ih]
      · rw [partsText?, ih]
        rfl

def Number.written : Number → Written
  | .whole n => .number (.ofWhole n)
  | .binary (.finite negative m) => .number (.ofBinary negative m)
  | .binary _ => .null

mutual
def written : Json → Written
  | .null => .null
  | .bool b => .bool b
  | .number n => n.written
  | .string s => .string (s.map .ofChar)
  | .array items => .array (itemsWritten items)
  | .object members => .object (membersWritten members)

def itemsWritten : List Json → List Written
  | [] => []
  | item :: rest => item.written :: itemsWritten rest

def membersWritten : List (Text × Json) → List (List StringPart × Written)
  | [] => []
  | (key, value) :: rest => (key.map .ofChar, value.written) :: membersWritten rest
end

theorem Number.written_cases (x : Number) :
    (∃ n, x.written = .number n ∧ n.Spells x.text (Value.ofNumber x)) ∨
      x.written = .null ∧ x.text = "null".toList ∧ (Value.ofNumber x).isFinite = false := by
  cases x with
  | whole n => exact .inl ⟨.ofWhole n, rfl, Numeral.ofWhole_spells n⟩
  | binary x =>
      cases x with
      | finite negative m =>
          exact .inl ⟨.ofBinary negative m, rfl, Numeral.ofBinary_spells negative m⟩
      | nan => exact .inr ⟨rfl, rfl, rfl⟩
      | infinite negative => exact .inr ⟨rfl, rfl, rfl⟩

theorem Number.written_of_isFinite {x : Number} (h : (Value.ofNumber x).isFinite = true) :
    ∃ n, x.written = .number n ∧ n.Spells x.text (Value.ofNumber x) := by
  rcases x.written_cases with hnumeral | ⟨-, -, hinfinite⟩
  · exact hnumeral
  · rw [hinfinite] at h
    cases h

def StartsValue (t : Text) : Prop := ∃ c rest, t = c :: rest ∧ isBlank c = false ∧ c ≠ ']'

theorem Numeral.WellFormed.exists_cons {n : Numeral} (h : n.WellFormed) :
    ∃ c rest, n.text = c :: rest ∧ (c = '-' ∨ isDigit c = true) := by
  obtain ⟨d, digits, hwhole⟩ := List.exists_cons_of_ne_nil h.nonempty
  have hdigit : isDigit d = true := List.all_eq_true.mp h.whole d (by simp [hwhole])
  rw [Numeral.text, hwhole]
  cases n.negative with
  | true => exact ⟨'-', _, rfl, .inl rfl⟩
  | false => exact ⟨d, _, rfl, .inr hdigit⟩

theorem isBlank_of_numeral {c : Char} (hc : c = '-' ∨ isDigit c = true) : isBlank c = false := by
  cases hblank : isBlank c with
  | false => rfl
  | true =>
      simp only [isBlank, Bool.or_eq_true, beq_iff_eq, or_assoc] at hblank
      rcases hblank with rfl | rfl | rfl | rfl <;> exact absurd hc (by decide)

theorem startsValue_text (j : Json) : StartsValue j.text := by
  cases j with
  | null => exact ⟨'n', _, rfl, rfl, by decide⟩
  | bool b =>
      cases b with
      | true => exact ⟨'t', _, rfl, rfl, by decide⟩
      | false => exact ⟨'f', _, rfl, rfl, by decide⟩
  | number x =>
      rw [text]
      rcases x.written_cases with ⟨n, -, hspells⟩ | ⟨-, htext, -⟩
      · obtain ⟨c, rest, hcons, hc⟩ := hspells.wellFormed.exists_cons
        rw [← hspells.text]
        refine ⟨c, rest, hcons, isBlank_of_numeral hc, ?_⟩
        rintro rfl
        exact absurd hc (by decide)
      · rw [htext]
        exact ⟨'n', _, rfl, rfl, by decide⟩
  | string s => exact ⟨'"', _, rfl, rfl, by decide⟩
  | array items => exact ⟨'[', _, rfl, rfl, by decide⟩
  | object members => exact ⟨'\x7b', _, rfl, rfl, by decide⟩

theorem skipBlank_cons {c : Char} (h : isBlank c = false) (rest : Text) :
    skipBlank (c :: rest) = c :: rest := by
  rw [skipBlank, List.dropWhile_cons_of_neg (by simp [h])]

theorem readWritten?_of_head {c : Char} {t rest : Text} (hskip : skipBlank t = c :: rest)
    (hc : c = '-' ∨ isDigit c = true) (depth : Nat) :
    readWritten? (depth + 1) t =
      (readNumeral? (c :: rest)).map fun (n, rest) => (.number n, rest) := by
  rw [readWritten?, hskip]
  split
  case h_7 => rfl
  all_goals
    rename_i heq
    obtain rfl := (List.cons.inj heq).1
    exact absurd hc (by decide)

theorem readWritten?_numeral {n : Numeral} (h : n.WellFormed) (depth : Nat) {rest : Text}
    (hrest : EndsNumeral rest) :
    readWritten? (depth + 1) (n.text ++ rest) = some (.number n, rest) := by
  have hread := readNumeral?_text h hrest
  obtain ⟨c, digits, htext, hc⟩ := h.exists_cons
  rw [htext, List.cons_append] at hread ⊢
  rw [readWritten?_of_head (skipBlank_cons (isBlank_of_numeral hc) _) hc, hread]
  rfl

theorem readWritten?_quote (s : Text) (depth : Nat) (rest : Text) :
    readWritten? (depth + 1) (quote s ++ rest) = some (.string (s.map .ofChar), rest) := by
  have hread : readWritten? (depth + 1) ('"' :: (s.flatMap escape ++ '"' :: rest)) =
      (readParts? (s.flatMap escape ++ '"' :: rest)).map
        fun (parts, rest) => (.string parts, rest) := rfl
  rw [quote, List.cons_append, List.append_assoc, List.singleton_append, hread, readParts?_quote]
  rfl

def readArray? (read? : Text → Option (Written × Text)) (t : Text) : Option (Written × Text) :=
  match skipBlank t with
  | ']' :: rest => some (.array [], rest)
  | rest =>
      (readItems? read? (rest.length + 1) rest).map fun (items, rest) => (.array items, rest)

def readObject? (read? : Text → Option (Written × Text)) (t : Text) : Option (Written × Text) :=
  match skipBlank t with
  | '\x7d' :: rest => some (.object [], rest)
  | rest =>
      (readMembers? read? (rest.length + 1) rest).map
        fun (members, rest) => (.object members, rest)

theorem readWritten?_array {t : Text} (ht : StartsValue t) (depth : Nat) :
    readWritten? (depth + 1) ('[' :: t) =
      (readItems? (readWritten? depth) (t.length + 1) t).map
        fun (items, rest) => (.array items, rest) := by
  obtain ⟨c, rest, rfl, hblank, hc⟩ := ht
  have hread : readWritten? (depth + 1) ('[' :: c :: rest) =
      readArray? (readWritten? depth) (c :: rest) := rfl
  rw [hread, readArray?, skipBlank_cons hblank]
  split
  · rename_i heq
    exact absurd (List.cons.inj heq).1 hc
  · rfl

theorem readWritten?_object (t : Text) (depth : Nat) :
    readWritten? (depth + 1) ('\x7b' :: '"' :: t) =
      (readMembers? (readWritten? depth) (('"' :: t).length + 1) ('"' :: t)).map
        fun (members, rest) => (.object members, rest) := rfl

theorem endsNumeral_nil : EndsNumeral [] := nofun

theorem endsNumeral_cons {c : Char} (h : c = ',' ∨ c = ']' ∨ c = '\x7d') (rest : Text) :
    EndsNumeral (c :: rest) := by
  intro d hd
  cases hd
  rcases h with rfl | rfl | rfl <;> decide

theorem join_singleton_append (part rest : Text) :
    Text.join [','] [part] ++ rest = part ++ rest := by
  rw [Text.join, List.intercalate_singleton]

theorem join_cons_append (part next : Text) (parts : List Text) (rest : Text) :
    Text.join [','] (part :: next :: parts) ++ rest =
      part ++ ',' :: (Text.join [','] (next :: parts) ++ rest) := by
  simp [Text.join, List.intercalate_cons_cons]

theorem length_le_join (parts : List Text) (rest : Text) :
    parts.length ≤ (Text.join [','] parts ++ rest).length + 1 := by
  induction parts with
  | nil => exact Nat.zero_le _
  | cons part parts ih =>
      cases parts with
      | nil => simp
      | cons next parts =>
          rw [join_cons_append]
          simp only [List.length_append, List.length_cons] at ih ⊢
          omega

theorem startsValue_append {t : Text} (h : StartsValue t) (rest : Text) :
    StartsValue (t ++ rest) := by
  obtain ⟨c, t, rfl, hc⟩ := h
  exact ⟨c, t ++ rest, rfl, hc⟩

theorem startsValue_items (item : Json) (items : List Json) (rest : Text) :
    StartsValue (Text.join [','] (itemTexts (item :: items)) ++ rest) := by
  cases items with
  | nil =>
      rw [itemTexts, itemTexts, join_singleton_append]
      exact startsValue_append (startsValue_text item) rest
  | cons next items =>
      rw [itemTexts, itemTexts, join_cons_append]
      exact startsValue_append (startsValue_text item) _

theorem exists_quote_cons (key value : Text) (parts : List Text) (rest : Text) :
    ∃ t, Text.join [','] ((quote key ++ value) :: parts) ++ rest = '"' :: t := by
  cases parts with
  | nil =>
      rw [join_singleton_append]
      exact ⟨_, rfl⟩
  | cons next parts =>
      rw [join_cons_append]
      exact ⟨_, rfl⟩

theorem length_itemTexts (items : List Json) : (itemTexts items).length = items.length := by
  induction items with
  | nil => rfl
  | cons item items ih => rw [itemTexts, List.length_cons, List.length_cons, ih]

theorem length_memberTexts (members : List (Text × Json)) :
    (memberTexts members).length = members.length := by
  induction members with
  | nil => rfl
  | cons member members ih => rw [memberTexts, List.length_cons, List.length_cons, ih]

section

variable {read? : Text → Option (Written × Text)} {fuel : Nat} {t rest : Text} {value : Written}

theorem readItems?_last (h : read? t = some (value, ']' :: rest)) :
    readItems? read? (fuel + 1) t = some ([value], rest) := by
  rw [readItems?, h]
  rfl

theorem readItems?_next (h : read? t = some (value, ',' :: rest)) :
    readItems? read? (fuel + 1) t = (do
      let (items, rest) ← readItems? read? fuel rest
      return (value :: items, rest)) := by
  rw [readItems?, h]
  rfl

theorem readMembers?_key (key : Text) :
    readMembers? read? (fuel + 1) (quote key ++ ':' :: t) = (do
      let (value, t) ← read? t
      match skipBlank t with
      | ',' :: rest =>
          let (members, rest) ← readMembers? read? fuel rest
          return ((key.map .ofChar, value) :: members, rest)
      | '\x7d' :: rest => return ([(key.map .ofChar, value)], rest)
      | _ => none) := by
  have hquote : expect? '"' (quote key ++ ':' :: t) =
      some (key.flatMap escape ++ '"' :: ':' :: t) := by
    rw [quote, List.cons_append, List.append_assoc]
    rfl
  rw [readMembers?, hquote, Option.bind_eq_bind, Option.bind_some, readParts?_quote]
  rfl

theorem readMembers?_last {key t' : Text} (h : read? t = some (value, t'))
    (hskip : skipBlank t' = '\x7d' :: rest) :
    readMembers? read? (fuel + 1) (quote key ++ ':' :: t) =
      some ([(key.map .ofChar, value)], rest) := by
  rw [readMembers?_key, h, Option.bind_eq_bind, Option.bind_some]
  dsimp only
  rw [hskip]
  rfl

theorem readMembers?_next {key t' : Text} (h : read? t = some (value, t'))
    (hskip : skipBlank t' = ',' :: rest) :
    readMembers? read? (fuel + 1) (quote key ++ ':' :: t) = (do
      let (members, rest) ← readMembers? read? fuel rest
      return ((key.map .ofChar, value) :: members, rest)) := by
  rw [readMembers?_key, h, Option.bind_eq_bind, Option.bind_some]
  dsimp only
  rw [hskip]
  rfl

end

/-! The depth bounds the nesting, and the fuel the number of items or members that are left. -/

mutual
theorem readWritten?_text (j : Json) {depth : Nat} (hdepth : j.written.nesting < depth)
    {rest : Text} (hrest : EndsNumeral rest) :
    readWritten? depth (j.text ++ rest) = some (j.written, rest) := by
  obtain ⟨depth, rfl⟩ := Nat.exists_eq_succ_of_ne_zero (Nat.ne_of_gt (Nat.zero_lt_of_lt hdepth))
  cases j with
  | null => rfl
  | bool b => cases b <;> rfl
  | number x =>
      rw [text, written]
      rcases x.written_cases with ⟨n, hwritten, hspells⟩ | ⟨hwritten, htext, -⟩
      · rw [← hspells.text, hwritten]
        exact readWritten?_numeral hspells.wellFormed depth hrest
      · rw [htext, hwritten]
        rfl
  | string s => exact readWritten?_quote s depth rest
  | array items =>
      rw [text, List.cons_append, List.append_assoc, List.singleton_append]
      cases items with
      | nil => rfl
      | cons item items =>
          have hfuel := length_le_join (itemTexts (item :: items)) (']' :: rest)
          rw [length_itemTexts] at hfuel
          -- The first item cannot be taken for the end of the array.
          rw [readWritten?_array (startsValue_items item items _),
            readItems?_text (item :: items) (List.cons_ne_nil _ _) (Nat.lt_of_succ_lt_succ hdepth)
              hfuel]
          rfl
  | object members =>
      rw [text, List.cons_append, List.append_assoc, List.singleton_append]
      cases members with
      | nil => rfl
      | cons member members =>
          have hfuel := length_le_join (memberTexts (member :: members)) ('\x7d' :: rest)
          rw [length_memberTexts] at hfuel
          have hread := readMembers?_text (member :: members) (List.cons_ne_nil _ _)
            (Nat.lt_of_succ_lt_succ hdepth) hfuel rest
          obtain ⟨key, value⟩ := member
          obtain ⟨t, ht⟩ :=
            exists_quote_cons key (':' :: value.text) (memberTexts members) ('\x7d' :: rest)
          rw [memberTexts, ht] at hread ⊢
          rw [readWritten?_object, hread]
          rfl

theorem readItems?_text (items : List Json) (hne : items ≠ []) {depth fuel : Nat}
    (hdepth : Written.itemsNesting (itemsWritten items) < depth) (hfuel : items.length ≤ fuel)
    (rest : Text) :
    readItems? (readWritten? depth) fuel (Text.join [','] (itemTexts items) ++ ']' :: rest) =
      some (itemsWritten items, rest) := by
  cases items with
  | nil => exact absurd rfl hne
  | cons item items =>
      obtain ⟨fuel, rfl⟩ := Nat.exists_eq_add_of_le' (Nat.le_trans (Nat.le_add_left 1 _) hfuel)
      rw [itemsWritten, Written.itemsNesting, Nat.max_lt] at hdepth
      cases items with
      | nil =>
          rw [itemTexts, itemTexts, join_singleton_append]
          exact readItems?_last (readWritten?_text item hdepth.1 (endsNumeral_cons (by simp) rest))
      | cons next items =>
          have hrest := readItems?_text (next :: items) (List.cons_ne_nil _ _) hdepth.2
            (Nat.le_of_succ_le_succ hfuel) rest
          rw [itemTexts] at hrest
          rw [itemTexts, itemTexts, join_cons_append,
            readItems?_next (readWritten?_text item hdepth.1 (endsNumeral_cons (by simp) _)), hrest]
          rfl

theorem readMembers?_text (members : List (Text × Json)) (hne : members ≠ []) {depth fuel : Nat}
    (hdepth : Written.membersNesting (membersWritten members) < depth)
    (hfuel : members.length ≤ fuel) (rest : Text) :
    readMembers? (readWritten? depth) fuel
        (Text.join [','] (memberTexts members) ++ '\x7d' :: rest) =
      some (membersWritten members, rest) := by
  cases members with
  | nil => exact absurd rfl hne
  | cons member members =>
      obtain ⟨key, value⟩ := member
      obtain ⟨fuel, rfl⟩ := Nat.exists_eq_add_of_le' (Nat.le_trans (Nat.le_add_left 1 _) hfuel)
      rw [membersWritten, Written.membersNesting, Nat.max_lt] at hdepth
      cases members with
      | nil =>
          rw [memberTexts, memberTexts, join_singleton_append, List.append_assoc, List.cons_append,
            readMembers?_last
              (readWritten?_text value hdepth.1 (endsNumeral_cons (by simp) rest)) rfl]
          rfl
      | cons next members =>
          have hrest := readMembers?_text (next :: members) (List.cons_ne_nil _ _) hdepth.2
            (Nat.le_of_succ_le_succ hfuel) rest
          rw [memberTexts] at hrest
          rw [memberTexts, memberTexts, join_cons_append, List.append_assoc, List.cons_append,
            readMembers?_next
              (readWritten?_text value hdepth.1 (endsNumeral_cons (by simp) _)) rfl, hrest]
          rfl
end

theorem length_le_join_append (part : Text) (parts : List Text) :
    part.length ≤ (Text.join [','] (part :: parts)).length ∧
      (Text.join [','] parts).length ≤ (Text.join [','] (part :: parts)).length := by
  cases parts with
  | nil => simp [Text.join]
  | cons next parts =>
      have hlength := congrArg List.length (join_cons_append part next parts [])
      simp only [List.append_nil, List.length_append, List.length_cons] at hlength
      omega

mutual
theorem nesting_le_length (j : Json) : j.written.nesting ≤ j.text.length := by
  cases j with
  | null => exact Nat.zero_le _
  | bool b => exact Nat.zero_le _
  | number x =>
      rcases x.written_cases with ⟨n, hwritten, -⟩ | ⟨hwritten, -⟩ <;>
        rw [written, hwritten] <;> exact Nat.zero_le _
  | string s => exact Nat.zero_le _
  | array items =>
      have hitems := itemsNesting_le_length items
      rw [written, Written.nesting, text, List.length_cons, List.length_append]
      omega
  | object members =>
      have hmembers := membersNesting_le_length members
      rw [written, Written.nesting, text, List.length_cons, List.length_append]
      omega

theorem itemsNesting_le_length (items : List Json) :
    Written.itemsNesting (itemsWritten items) ≤ (Text.join [','] (itemTexts items)).length := by
  cases items with
  | nil => exact Nat.zero_le _
  | cons item items =>
      obtain ⟨hfirst, hrest⟩ := length_le_join_append item.text (itemTexts items)
      rw [itemsWritten, Written.itemsNesting, itemTexts]
      exact Nat.max_le.mpr ⟨Nat.le_trans (nesting_le_length item) hfirst,
        Nat.le_trans (itemsNesting_le_length items) hrest⟩

theorem membersNesting_le_length (members : List (Text × Json)) :
    Written.membersNesting (membersWritten members) ≤
      (Text.join [','] (memberTexts members)).length := by
  cases members with
  | nil => exact Nat.zero_le _
  | cons member members =>
      obtain ⟨key, value⟩ := member
      obtain ⟨hfirst, hrest⟩ :=
        length_le_join_append (quote key ++ ':' :: value.text) (memberTexts members)
      have hvalue := nesting_le_length value
      rw [List.length_append, List.length_cons] at hfirst
      rw [membersWritten, Written.membersNesting, memberTexts]
      exact Nat.max_le.mpr ⟨by omega, Nat.le_trans (membersNesting_le_length members) hrest⟩
end

/-- The whole text of a value is read, and what is written there is the value. -/
theorem ofText?_text (j : Json) : Written.ofText? j.text = some j.written := by
  have hread := readWritten?_text j (Nat.lt_succ_of_le (nesting_le_length j)) endsNumeral_nil
  rw [List.append_nil] at hread
  rw [Written.ofText?, hread]
  rfl

end RouteTree.Json
