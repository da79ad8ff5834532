import RouteTree.Proofs.JsonText

namespace RouteTree.Json

/-! What stands at the front of a text is read the same way when more follows. -/

section

variable {α β : Type} {more : Text} {result longer : Option (α × Text)}

/-- What is read from a text is read from the longer one too, and `more` is left over. -/
def Keeps (more : Text) (result longer : Option (α × Text)) : Prop :=
  ∀ ⦃a rest⦄, result = some (a, rest) → longer = some (a, rest ++ more)

theorem Keeps.none : Keeps more none longer := nofun

theorem Keeps.some (a : α) (rest : Text) :
    Keeps more (some (a, rest)) (some (a, rest ++ more)) := by
  intro b rest' h
  cases h
  rfl

theorem Keeps.bind {f g : α × Text → Option (β × Text)} (h : Keeps more result longer)
    (hnext : ∀ a rest, Keeps more (f (a, rest)) (g (a, rest ++ more))) :
    Keeps more (result.bind f) (longer.bind g) := by
  intro b rest hread
  obtain ⟨⟨a, rest'⟩, hfirst, hsecond⟩ := Option.bind_eq_some_iff.mp hread
  rw [h hfirst, Option.bind_some]
  exact hnext a rest' hsecond

theorem Keeps.map (h : Keeps more result longer) (f : α → β) :
    Keeps more (result.map fun (a, rest) => (f a, rest))
      (longer.map fun (a, rest) => (f a, rest)) := by
  rw [Option.map_eq_bind, Option.map_eq_bind]
  exact h.bind fun a rest => .some (f a) rest

/-- What one reader takes from a text, the other takes from every longer text. -/
def KeepsReading (read? longer? : Text → Option (α × Text)) : Prop :=
  ∀ t ⦃more⦄, EndsNumeral more → Keeps more (read? t) (longer? (t ++ more))

end

theorem skipBlank_append {c : Char} {t rest : Text} (h : skipBlank t = c :: rest) (more : Text) :
    skipBlank (t ++ more) = c :: (rest ++ more) := by
  rw [skipBlank] at h
  rw [skipBlank, List.dropWhile_append, h]
  rfl

theorem skipBlank_append_of_nil {blanks : Text} (h : skipBlank blanks = []) (more : Text) :
    skipBlank (blanks ++ more) = skipBlank more := by
  rw [skipBlank] at h
  rw [skipBlank, List.dropWhile_append, h]
  rfl

theorem expect?_append {c : Char} {t rest : Text} (h : expect? c t = some rest) (more : Text) :
    expect? c (t ++ more) = some (rest ++ more) := by
  rw [expect?] at h
  split at h
  · cases h
  · rename_i heq
    rw [expect?, skipBlank_append heq]
    split at h
    · cases h
      rename_i hc
      exact if_pos hc
    · cases h

theorem Keeps.bind_expect? {α : Type} {more : Text} {f g : Text → Option (α × Text)} (c : Char)
    (t : Text) (hnext : ∀ rest, Keeps more (f rest) (g (rest ++ more))) :
    Keeps more ((expect? c t).bind f) ((expect? c (t ++ more)).bind g) := by
  cases h : expect? c t with
  | none => exact .none
  | some rest =>
      rw [expect?_append h]
      exact hnext rest

theorem keepsReading_readParts? : KeepsReading readParts? readParts? := by
  intro t more _
  fun_induction readParts? t with
  | case1 => exact .none
  | case2 rest =>
      rw [List.cons_append, readParts?_closing]
      exact .some [] rest
  | case3 a b c d rest _ ih =>
      simp only [List.cons_append, readParts?_unit]
      cases Text.hexDigitsValue? [a, b, c, d] with
      | none => exact .none
      | some u => exact ih.map (.unit u :: ·)
  | case4 e rest _ _ ih =>
      cases hescape : unescape? e with
      | none => exact .none
      | some c =>
          rw [List.cons_append, List.cons_append, readParts?_unescape hescape]
          exact ih.map (.char c :: ·)
  | case5 => exact .none
  | case6 => exact .none
  | case7 c rest hquote hbackslash hcontrol ih =>
      rw [List.cons_append, readParts?_char hquote hbackslash hcontrol]
      exact ih.map (.char c :: ·)

theorem spanDigits_longer (t : Text) {more : Text} (hmore : EndsNumeral more) :
    spanDigits (t ++ more) = ((spanDigits t).1, (spanDigits t).2 ++ more) := by
  induction t with
  | nil => exact spanDigits_append rfl fun c hc => (hmore c hc).1
  | cons c t ih =>
      rw [spanDigits, Prod.mk.injEq] at ih
      by_cases hc : isDigit c = true
      · simp [spanDigits, hc, ih.1, ih.2]
      · simp [spanDigits, hc]

theorem keepsReading_readWhole? : KeepsReading readWhole? readWhole? := by
  intro t more hmore
  rw [readWhole?, readWhole?, spanDigits_longer t hmore]
  obtain ⟨digits, rest⟩ := spanDigits t
  split
  · exact .none
  · exact .none
  · rename_i pair hnil hzero
    split
    · rename_i heq
      cases heq
      exact absurd rfl (hnil _)
    · rename_i heq
      cases heq
      exact absurd rfl (hzero _ _ _)
    · exact .some _ _

theorem readFraction?_of_ne {c : Char} (hc : c ≠ '.') (t : Text) :
    readFraction? (c :: t) = some ([], c :: t) := by
  rw [readFraction?.eq_def]
  split
  · rename_i heq
    exact absurd (List.cons.inj heq).1 hc
  · rfl

theorem keepsReading_readFraction? : KeepsReading readFraction? readFraction? := by
  intro t more hmore
  cases t with
  | nil =>
      have hmore' : readFraction? more = some ([], more) :=
        @readFraction?_text [] more rfl fun c hc => ⟨(hmore c hc).1, (hmore c hc).2.1⟩
      rw [List.nil_append, hmore']
      exact .some [] []
  | cons c t =>
      by_cases hc : c = '.'
      · subst hc
        rw [List.cons_append, readFraction?, readFraction?, spanDigits_longer t hmore]
        obtain ⟨digits, rest⟩ := spanDigits t
        cases digits with
        | nil => exact .none
        | cons d digits => exact .some (d :: digits) rest
      · rw [List.cons_append, readFraction?_of_ne hc, readFraction?_of_ne hc]
        exact .some [] (c :: t)

theorem spanSign_longer {t : Text} (h : t ≠ []) (more : Text) :
    spanSign (t ++ more) = ((spanSign t).1, (spanSign t).2 ++ more) := by
  cases t with
  | nil => exact absurd rfl h
  | cons c t =>
      by_cases hminus : c = '-'
      · subst hminus
        rfl
      · by_cases hplus : c = '+'
        · subst hplus
          rfl
        · simp [spanSign, hminus, hplus]

theorem keepsReading_readExponent? : KeepsReading readExponent? readExponent? := by
  intro t more hmore
  cases t with
  | nil =>
      have hmore' : readExponent? more = some (none, more) :=
        @readExponent?_text none more nofun hmore
      rw [List.nil_append, hmore']
      exact .some none []
  | cons mark t =>
      simp only [List.cons_append, readExponent?]
      split
      · cases t with
        | nil => exact .none
        | cons c t =>
          rw [spanSign_longer (List.cons_ne_nil c t), spanDigits_longer _ hmore]
          obtain ⟨digits, rest⟩ := spanDigits (spanSign (c :: t)).2
          cases digits with
          | nil => exact .none
          | cons d digits => exact .some _ rest
      · exact .some none (mark :: t)

def readUnsigned? (negative : Bool) (t : Text) : Option (Numeral × Text) := do
  let (whole, t) ← readWhole? t
  let (fraction, t) ← readFraction? t
  let (exponent, t) ← readExponent? t
  return (⟨negative, whole, fraction, exponent⟩, t)

theorem readNumeral?_of_ne {c : Char} (hc : c ≠ '-') (t : Text) :
    readNumeral? (c :: t) = readUnsigned? false (c :: t) :=
  readNumeral?_signed false (by simpa using hc)

theorem keepsReading_readUnsigned? (negative : Bool) :
    KeepsReading (readUnsigned? negative) (readUnsigned? negative) := by
  intro t more hmore
  refine (keepsReading_readWhole? t hmore).bind fun whole t => ?_
  refine (keepsReading_readFraction? t hmore).bind fun fraction t => ?_
  refine (keepsReading_readExponent? t hmore).bind fun exponent t => ?_
  exact .some _ t

theorem readWhole?_head {t rest whole : Text} (h : readWhole? t = some (whole, rest)) :
    ∃ c t', t = c :: t' ∧ isDigit c = true := by
  cases t with
  | nil => cases h
  | cons c t =>
      refine ⟨c, t, rfl, ?_⟩
      cases hc : isDigit c with
      | true => rfl
      | false => simp [readWhole?, spanDigits, hc] at h

theorem keepsReading_readNumeral? : KeepsReading readNumeral? readNumeral? := by
  intro t more hmore
  cases t with
  | nil => exact .none
  | cons c t =>
      by_cases hc : c = '-'
      · subst hc
        exact keepsReading_readUnsigned? true t hmore
      · rw [List.cons_append, readNumeral?_of_ne hc, readNumeral?_of_ne hc]
        exact keepsReading_readUnsigned? false (c :: t) hmore

theorem readNumeral?_head {t rest : Text} {n : Numeral} (h : readNumeral? t = some (n, rest)) :
    ∃ c t', t = c :: t' ∧ (c = '-' ∨ isDigit c = true) := by
  cases t with
  | nil => cases h
  | cons c t =>
      refine ⟨c, t, rfl, ?_⟩
      by_cases hc : c = '-'
      · exact .inl hc
      · rw [readNumeral?_of_ne hc] at h
        obtain ⟨⟨whole, rest'⟩, hwhole, -⟩ := Option.bind_eq_some_iff.mp h
        obtain ⟨d, t', heq, hd⟩ := readWhole?_head hwhole
        cases heq
        exact .inr hd

section

variable {read? longer? : Text → Option (Written × Text)}

theorem keepsReading_readItems? (hread : KeepsReading read? longer?) {fuel fuel' : Nat}
    (hfuel : fuel ≤ fuel') : KeepsReading (readItems? read? fuel) (readItems? longer? fuel') := by
  induction fuel generalizing fuel' with
  | zero => exact fun _ _ _ => .none
  | succ fuel ih =>
      obtain ⟨fuel', rfl⟩ := Nat.exists_eq_add_of_le' (Nat.le_trans (Nat.le_add_left 1 _) hfuel)
      intro t more hmore
      rw [readItems?, readItems?]
      refine (hread t hmore).bind fun item t => ?_
      dsimp only
      split
      · rename_i rest hskip
        rw [skipBlank_append hskip]
        refine (ih (Nat.le_of_succ_le_succ hfuel) rest hmore).bind fun items rest => ?_
        exact .some _ rest
      · rename_i rest hskip
        rw [skipBlank_append hskip]
        exact .some _ rest
      · exact .none

theorem keepsReading_readMembers? (hread : KeepsReading read? longer?) {fuel fuel' : Nat}
    (hfuel : fuel ≤ fuel') :
    KeepsReading (readMembers? read? fuel) (readMembers? longer? fuel') := by
  induction fuel generalizing fuel' with
  | zero => exact fun _ _ _ => .none
  | succ fuel ih =>
      obtain ⟨fuel', rfl⟩ := Nat.exists_eq_add_of_le' (Nat.le_trans (Nat.le_add_left 1 _) hfuel)
      intro t more hmore
      rw [readMembers?, readMembers?]
      refine .bind_expect? '"' t fun t => ?_
      refine (keepsReading_readParts? t hmore).bind fun key t => ?_
      refine .bind_expect? ':' t fun t => ?_
      refine (hread t hmore).bind fun value t => ?_
      dsimp only
      split
      · rename_i rest hskip
        rw [skipBlank_append hskip]
        refine (ih (Nat.le_of_succ_le_succ hfuel) rest hmore).bind fun members rest => ?_
        exact .some _ rest
      · rename_i rest hskip
        rw [skipBlank_append hskip]
        exact .some _ rest
      · exact .none

theorem keepsReading_readArray? (hread : KeepsReading read? longer?) (hnil : read? [] = none) :
    KeepsReading (readArray? read?) (readArray? longer?) := by
  intro t more hmore
  rw [readArray?, readArray?]
  split
  · rename_i rest hskip
    rw [skipBlank_append hskip]
    exact .some _ rest
  · rename_i hopen
    cases hskip : skipBlank t with
    | nil => 
        simp only [readItems?, hnil]
        exact .none
    | cons c rest =>
        have hfuel : (c :: rest).length + 1 ≤ (c :: (rest ++ more)).length + 1 := by simp
        rw [skipBlank_append hskip]
        split
        · rename_i heq
          cases heq
          exact absurd hskip (hopen _)
        · exact (keepsReading_readItems? hread hfuel (c :: rest) hmore).map Written.array

theorem keepsReading_readObject? (hread : KeepsReading read? longer?) :
    KeepsReading (readObject? read?) (readObject? longer?) := by
  intro t more hmore
  rw [readObject?, readObject?]
  split
  · rename_i rest hskip
    rw [skipBlank_append hskip]
    exact .some _ rest
  · rename_i hopen
    cases hskip : skipBlank t with
    | nil => exact .none
    | cons c rest =>
        have hfuel : (c :: rest).length + 1 ≤ (c :: (rest ++ more)).length + 1 := by simp
        rw [skipBlank_append hskip]
        split
        · rename_i heq
          cases heq
          exact absurd hskip (hopen _)
        · exact (keepsReading_readMembers? hread hfuel (c :: rest) hmore).map Written.object

end

theorem readWritten?_nil (depth : Nat) : readWritten? depth [] = none := by
  cases depth <;> rfl

theorem keepsReading_readWritten? {depth depth' : Nat} (hdepth : depth ≤ depth') :
    KeepsReading (readWritten? depth) (readWritten? depth') := by
  induction depth generalizing depth' with
  | zero => exact fun _ _ _ => .none
  | succ depth ih =>
      obtain ⟨depth', rfl⟩ := Nat.exists_eq_add_of_le' (Nat.le_trans (Nat.le_add_left 1 _) hdepth)
      have hbelow := ih (Nat.le_of_succ_le_succ hdepth)
      intro t more hmore
      rw [readWritten?]
      split
      · rename_i rest hskip
        rw [readWritten?, skipBlank_append hskip]
        exact (keepsReading_readParts? rest hmore).map Written.string
      · rename_i rest hskip
        rw [readWritten?, skipBlank_append hskip]
        exact keepsReading_readArray? hbelow (readWritten?_nil depth) rest hmore
      · rename_i rest hskip
        rw [readWritten?, skipBlank_append hskip]
        exact keepsReading_readObject? hbelow rest hmore
      · rename_i rest hskip
        rw [readWritten?, skipBlank_append hskip]
        exact .some Written.null rest
      · rename_i rest hskip
        rw [readWritten?, skipBlank_append hskip]
        exact .some (Written.bool true) rest
      · rename_i rest hskip
        rw [readWritten?, skipBlank_append hskip]
        exact .some (Written.bool false) rest
      -- The other cases are told by the text; this one is left when it begins a numeral.
      · cases hnumeral : readNumeral? (skipBlank t) with
        | none => exact .none
        | some result =>
            obtain ⟨c, rest, hskip, hc⟩ := readNumeral?_head hnumeral
            rw [readWritten?_of_head (skipBlank_append hskip more) hc, ← hnumeral, hskip]
            exact (keepsReading_readNumeral? (c :: rest) hmore).map Written.number

theorem readWritten?_of_ofText? {t more : Text} {value : Written} {depth : Nat}
    (h : Written.ofText? t = some value) (hdepth : t.length < depth) (hmore : EndsNumeral more) :
    ∃ blanks : Text, skipBlank blanks = [] ∧
      readWritten? depth (t ++ more) = some (value, blanks ++ more) := by
  obtain ⟨⟨value', blanks⟩, hread, hblank⟩ := Option.bind_eq_some_iff.mp h
  dsimp only at hblank
  split at hblank
  · rename_i hempty
    cases hblank
    exact ⟨blanks, List.isEmpty_iff.mp hempty, keepsReading_readWritten? hdepth t hmore hread⟩
  · cases hblank

/-- The text of an object whose members have the given texts for values. -/
def objectText (members : List (Text × Text)) : Text :=
  '\x7b' :: (Text.join [','] (members.map fun member => quote member.1 ++ ':' :: member.2) ++
    ['\x7d'])

theorem memberTexts_eq_map (members : List (Text × Json)) :
    memberTexts members = members.map fun member => quote member.1 ++ ':' :: member.2.text := by
  induction members with
  | nil => rfl
  | cons member members ih => rw [memberTexts, ih, List.map_cons]

theorem text_object (members : List (Text × Json)) :
    (Json.object members).text =
      objectText (members.map fun member => (member.1, member.2.text)) := by
  rw [text, memberTexts_eq_map, objectText, List.map_map]
  rfl

theorem length_lt_objectText {members : List (Text × Text)} {member : Text × Text}
    (h : member ∈ members) : member.2.length < (objectText members).length := by
  have hjoin : member.2.length ≤
      (Text.join [','] (members.map fun member => quote member.1 ++ ':' :: member.2)).length := by
    induction members with
    | nil => cases h
    | cons first members ih =>
        obtain ⟨hfirst, hrest⟩ := length_le_join_append (quote first.1 ++ ':' :: first.2)
          (members.map fun member => quote member.1 ++ ':' :: member.2)
        rw [List.map_cons]
        rcases List.mem_cons.mp h with rfl | h
        · rw [List.length_append, List.length_cons] at hfirst
          omega
        · exact Nat.le_trans (ih h) hrest
  rw [objectText, List.length_cons, List.length_append]
  omega

def writtenIn (t : Text) : Written := (Written.ofText? t).getD .null

theorem ofText?_eq_writtenIn {t : Text} (h : (Written.ofText? t).isSome) :
    Written.ofText? t = some (writtenIn t) := by
  obtain ⟨value, hvalue⟩ := Option.isSome_iff_exists.mp h
  rw [writtenIn, hvalue, Option.getD_some]

theorem writtenIn_text (j : Json) : writtenIn j.text = j.written := by
  rw [writtenIn, ofText?_text, Option.getD_some]

def membersIn (members : List (Text × Text)) : List (List StringPart × Written) :=
  members.map fun member => (member.1.map .ofChar, writtenIn member.2)

theorem readMembers?_join {members : List (Text × Text)} (hne : members ≠ [])
    (hread : ∀ member ∈ members, (Written.ofText? member.2).isSome)
    {depth fuel : Nat} (hdepth : ∀ member ∈ members, member.2.length < depth)
    (hfuel : members.length ≤ fuel) (rest : Text) :
    readMembers? (readWritten? depth) fuel
        (Text.join [','] (members.map fun member => quote member.1 ++ ':' :: member.2) ++
          '\x7d' :: rest) =
      some (membersIn members, rest) := by
  induction members generalizing fuel with
  | nil => exact absurd rfl hne
  | cons member members ih =>
      obtain ⟨fuel, rfl⟩ := Nat.exists_eq_add_of_le' (Nat.le_trans (Nat.le_add_left 1 _) hfuel)
      rw [List.forall_mem_cons] at hread hdepth
      cases members with
      | nil =>
          obtain ⟨blanks, hblanks, hvalue⟩ := readWritten?_of_ofText?
            (ofText?_eq_writtenIn hread.1) hdepth.1 (endsNumeral_cons (.inr (.inr rfl)) rest)
          rw [List.map_singleton, join_singleton_append, List.append_assoc, List.cons_append,
            readMembers?_last hvalue (skipBlank_append_of_nil hblanks _)]
          rfl
      | cons next members =>
          have hrest := ih (List.cons_ne_nil _ _) hread.2 hdepth.2 (Nat.le_of_succ_le_succ hfuel)
          rw [List.map_cons] at hrest
          obtain ⟨blanks, hblanks, hvalue⟩ := readWritten?_of_ofText?
            (ofText?_eq_writtenIn hread.1) hdepth.1 (endsNumeral_cons (.inl rfl) _)
          rw [List.map_cons, List.map_cons, join_cons_append, List.append_assoc, List.cons_append,
            readMembers?_next hvalue (skipBlank_append_of_nil hblanks _), hrest]
          rfl

/-- An object is read with the values of its members as they are read alone. -/
theorem ofText?_objectText {members : List (Text × Text)}
    (hread : ∀ member ∈ members, (Written.ofText? member.2).isSome) :
    Written.ofText? (objectText members) = some (.object (membersIn members)) := by
  cases members with
  | nil => rfl
  | cons member members =>
      have hdepth : ∀ other ∈ member :: members,
          other.2.length < (objectText (member :: members)).length :=
        fun _ hother => length_lt_objectText hother
      have hfuel := length_le_join ((member :: members).map fun member =>
        quote member.1 ++ ':' :: member.2) ['\x7d']
      rw [List.length_map] at hfuel
      have hobject := readMembers?_join (List.cons_ne_nil _ _) hread hdepth hfuel []
      obtain ⟨t, ht⟩ := exists_quote_cons member.1 (':' :: member.2)
        (members.map fun member => quote member.1 ++ ':' :: member.2) ['\x7d']
      have htext : objectText (member :: members) = '\x7b' :: '"' :: t := congrArg _ ht
      rw [List.map_cons, ht] at hobject
      rw [htext] at hobject ⊢
      rw [Written.ofText?, readWritten?_object, hobject]
      rfl

theorem membersNesting_lt {n : Nat} (hn : 0 < n) {members : List (List StringPart × Written)}
    (h : ∀ member ∈ members, member.2.nesting < n) : Written.membersNesting members < n := by
  induction members with
  | nil => exact hn
  | cons member members ih =>
      rw [List.forall_mem_cons] at h
      exact Nat.max_lt.mpr ⟨h.1, ih h.2⟩

theorem memberValues?_cons (key : Text) (value : Written)
    (members : List (List StringPart × Written)) :
    Written.memberValues? ((key.map .ofChar, value) :: members) =
      value.value?.bind fun value =>
        (Written.memberValues? members).map fun values => (key, value) :: values := by
  rw [Written.memberValues?, Written.memberValuesWith?, partsText?_map_ofChar,
    Option.bind_eq_bind, Option.bind_some]
  congr 1
  funext value
  exact (Option.map_eq_bind ..).symm

theorem memberValues?_membersIn (members : List (Text × Text)) :
    Written.memberValues? (membersIn members) =
      if ∀ member ∈ members, (writtenIn member.2).value?.isSome then
        some (members.map fun member => (member.1, (writtenIn member.2).value?.getD .null))
      else none := by
  induction members with
  | nil => rfl
  | cons member members ih =>
      rw [membersIn] at ih
      rw [membersIn, List.map_cons, memberValues?_cons, ih]
      simp only [List.forall_mem_cons, List.map_cons]
      cases (writtenIn member.2).value? with
      | none => simp
      | some value =>
          by_cases hrest : ∀ member ∈ members, (writtenIn member.2).value?.isSome
          · rw [if_pos hrest, if_pos ⟨rfl, hrest⟩]
            rfl
          · rw [if_neg hrest, if_neg fun h => hrest h.2]
            rfl

end RouteTree.Json
