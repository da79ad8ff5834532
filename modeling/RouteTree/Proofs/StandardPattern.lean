import RouteTree.Proofs.Decoding
import RouteTree.Proofs.Matching
import RouteTree.UrlRule

namespace RouteTree

namespace Text

theorem isUnreserved_iff {c : Char} :
    isUnreserved c = true ↔
      (((65 ≤ c.toNat ∧ c.toNat ≤ 90) ∨ (97 ≤ c.toNat ∧ c.toNat ≤ 122)) ∨
          (48 ≤ c.toNat ∧ c.toNat ≤ 57)) ∨
        c.toNat = 45 ∨ c.toNat = 95 ∨ c.toNat = 46 ∨ c.toNat = 126 := by
  delta isUnreserved Char.isAlphanum Char.isAlpha Char.isUpper Char.isLower Char.isDigit
  simp only [Bool.or_eq_true, Bool.and_eq_true, decide_eq_true_eq, beq_iff_eq, or_assoc,
    UInt32.le_iff_toNat_le, ge_iff_le, ← Char.toNat_inj]
  rfl

/-- The characters of percent encoded text and colons. -/
def IsPathCharacter (c : Char) : Prop := isUnreserved c = true ∨ c = '%' ∨ c = ':'

instance (c : Char) : Decidable (IsPathCharacter c) := inferInstanceAs (Decidable (_ ∨ _))

theorem join_cons (d : Char) (part : Text) (rest : List Text) :
    join [d] (part :: rest) = part ++ rest.flatMap (d :: ·) := by
  induction rest generalizing part with
  | nil => simp [join]
  | cons next rest ih =>
      have hrest := ih next
      rw [join] at hrest
      rw [join, List.intercalate_cons_cons, hrest, List.flatMap_cons]
      simp

end Text

namespace CharSet

theorem contains_points {chars : List Char} {c : Char} :
    contains (.ranges (chars.map fun d => (d.toNat, d.toNat))) c = true ↔ c ∈ chars := by
  induction chars with
  | nil => simp [contains]
  | cons d rest ih =>
      rw [contains] at ih
      rw [contains, List.map_cons, Unicode.Ranges.contains_cons, Bool.or_eq_true, ih,
        List.mem_cons, ← Char.toNat_inj]
      simp only [Bool.and_eq_true, decide_eq_true_eq]
      rw [← Nat.le_antisymm_iff, eq_comm]

theorem contains_single {c d : Char} : contains (.single d) c = true ↔ c = d :=
  (@contains_points [d] c).trans List.mem_singleton

end CharSet

namespace UrlRule

theorem keyCharacter_contains {c : Char} :
    keyCharacter.contains c = true ↔ Text.isUnreserved c = true ∨ c = '%' := by
  rw [Text.isUnreserved_iff, ← Char.toNat_inj]
  have hpercent : '%'.toNat = 37 := rfl
  simp only [keyCharacter, CharSet.contains, Unicode.Ranges.contains_cons,
    Unicode.Ranges.contains_nil, Bool.or_eq_true, Bool.and_eq_true, decide_eq_true_eq, hpercent,
    Bool.false_eq_true, or_false]
  omega

theorem segmentCharacter_contains {c : Char} :
    segmentCharacter.contains c = true ↔ Text.IsPathCharacter c := by
  rw [segmentCharacter, CharSet.contains, Bool.or_eq_true, keyCharacter_contains,
    CharSet.contains_single, or_assoc]
  rfl

theorem valueCharacter_contains {c : Char} :
    valueCharacter.contains c = true ↔
      Unicode.isBlank c = false ∧ c ∉ "&=?#<>\\^\x60|*()$;'!".toList := by
  simp only [valueCharacter, CharSet.contains, Bool.not_eq_true', Bool.or_eq_false_iff]
  rw [← CharSet.contains_points, Bool.not_eq_true]
  rfl

theorem valueCharacter_contains_of_encoded {c : Char}
    (h : Text.isUnreserved c = true ∨ c = '%') : valueCharacter.contains c = true := by
  have hdelimiters :
      ("&=?#<>\\^\x60|*()$;'!".toList.all fun d => decide (Text.IsDelimiter d)) = true := by
    decide
  rw [valueCharacter_contains]
  constructor
  · rw [Text.isUnreserved_iff, ← Char.toNat_inj] at h
    have hpercent : '%'.toNat = 37 := rfl
    simp only [Unicode.isBlank, Unicode.blankRanges, Unicode.Ranges.contains_cons,
      Unicode.Ranges.contains_nil, Bool.or_false, Bool.or_eq_false_iff, Bool.and_eq_false_iff,
      decide_eq_false_iff_not]
    omega
  · intro hmem
    obtain ⟨hunreserved, hpercent⟩ :=
      of_decide_eq_true (List.all_eq_true.mp hdelimiters c hmem)
    rcases h with h | h
    · rw [hunreserved] at h
      cases h
    · exact hpercent h

section Matches

variable {set : CharSet} {p : Pattern} {d : Char} {before after : Text}

theorem times_char {word : Text} (h : ∀ c ∈ word, set.contains c = true) :
    (Pattern.Matches (.char set)).times word.length before word after := by
  induction word generalizing before with
  | nil => rfl
  | cons c word ih =>
      rw [List.forall_mem_cons] at h
      exact ⟨[c], word, rfl, ⟨c, rfl, h.1⟩, ih h.2⟩

theorem matches_chars {least : Nat} {word : Text} (hleast : least ≤ word.length)
    (h : ∀ c ∈ word, set.contains c = true) :
    Pattern.Matches (.repeated (.char set) least none) before word after := by
  refine ⟨word.length - least, nofun, ?_⟩
  rw [Nat.add_sub_cancel' hleast]
  exact times_char h

theorem matches_one (d : Char) : Pattern.Matches (one d) before [d] after :=
  ⟨d, rfl, CharSet.contains_single.mpr rfl⟩

theorem matches_marked {word : Text} (h : ∀ before after, p.Matches before word after) :
    Pattern.Matches (.sequence (one d) p) before (d :: word) after :=
  ⟨[d], word, rfl, matches_one d, h _ _⟩

theorem matches_many {words : List Text}
    (h : ∀ word ∈ words, ∀ before after, p.Matches before word after) :
    Pattern.Matches (many p) before words.flatten after := by
  refine ⟨words.length, nofun, ?_⟩
  rw [Nat.zero_add]
  induction words generalizing before with
  | nil => rfl
  | cons word rest ih =>
      rw [List.forall_mem_cons] at h
      exact ⟨word, rest.flatten, rfl, h.1 _ _, ih h.2⟩

theorem matches_many_marked {words : List Text}
    (h : ∀ word ∈ words, ∀ before after, p.Matches before word after) :
    Pattern.Matches (many (.sequence (one d) p)) before (words.flatMap (d :: ·)) after := by
  apply matches_many
  intro marked hmarked
  obtain ⟨word, hword, rfl⟩ := List.mem_map.mp hmarked
  intro before after
  exact matches_marked (h word hword)

end Matches

/-- Empty, or slashes and path characters with a slash in front. -/
structure IsPath (t : Text) : Prop where
  rooted : t.OpensWith '/'
  characters : ∀ c ∈ t, c = '/' ∨ Text.IsPathCharacter c

/-- A key, an equals sign and a value. -/
inductive IsPair : Text → Prop
  | intro {key value : Text} (nonempty : key ≠ [])
      (inKey : ∀ c ∈ key, keyCharacter.contains c = true)
      (inValue : ∀ c ∈ value, valueCharacter.contains c = true) : IsPair (key ++ '=' :: value)

variable {path before after : Text} {pairs : List Text}

theorem IsPath.matches (h : IsPath path) : pathPattern.Matches before path after := by
  rcases Text.opensWith_iff.mp h.rooted with rfl | ⟨rest, rfl⟩
  · have hnone : ∀ word ∈ ([] : List Text), ∀ before after,
        Pattern.Matches (.sequence (one '/') (many (.char segmentCharacter))) before word after :=
      nofun
    exact matches_many hnone
  · have hrest : ((rest.splitOn '/').flatMap ('/' :: ·) : Text) = '/' :: rest := by
      have hjoin : Text.join ['/'] ([] :: rest.splitOn '/') = '/' :: rest := by
        rw [Text.join, List.intercalate_cons_of_ne_nil (List.splitOn_ne_nil '/' rest),
          List.intercalate_splitOn]
        rfl
      rw [← hjoin, Text.join_cons, List.nil_append]
    rw [← hrest]
    apply matches_many_marked
    intro piece hpiece before after
    apply matches_chars (Nat.zero_le _)
    intro c hc
    obtain ⟨hmem, hslash⟩ := Text.mem_of_mem_splitOn hpiece hc
    have hcharacter := h.characters c (List.mem_cons_of_mem '/' hmem)
    exact segmentCharacter_contains.mpr (hcharacter.resolve_left hslash)

theorem IsPair.matches {pair : Text} (h : IsPair pair) : pairPattern.Matches before pair after := by
  cases h with
  | @intro key value hnonempty hkey hvalue =>
      refine ⟨key, '=' :: value, rfl, ?_, ?_⟩
      · exact matches_chars (List.length_pos_iff.mpr hnonempty) hkey
      · apply matches_marked
        intro before after
        exact matches_chars (Nat.zero_le _) hvalue

theorem matches_query (hpairs : pairs ≠ []) (h : ∀ pair ∈ pairs, IsPair pair) :
    queryPattern.Matches before ('?' :: Text.join ['&'] pairs) after := by
  cases pairs with
  | nil => exact absurd rfl hpairs
  | cons pair rest =>
      rw [List.forall_mem_cons] at h
      rw [Text.join_cons]
      apply matches_marked
      intro before after
      refine ⟨pair, rest.flatMap ('&' :: ·), rfl, h.1.matches, ?_⟩
      apply matches_many_marked
      intro word hword before after
      exact (h.2 word hword).matches

theorem accepts_standard {query : Text} (hpath : IsPath path)
    (hquery : ∀ before, Pattern.Matches (.repeated queryPattern 0 (some 1)) before query []) :
    (UrlRule.pattern standard).accepts (path ++ query) = true := by
  rw [accepts, Pattern.matchesSomewhere_iff]
  refine ⟨[], path ++ query, [], by simp, ?_⟩
  refine ⟨[], path ++ query, rfl, ⟨rfl, rfl⟩, ?_⟩
  refine ⟨path, query, rfl, hpath.matches, ?_⟩
  exact ⟨query, [], (List.append_nil query).symm, hquery _, rfl, rfl⟩

theorem accepts_path (hpath : IsPath path) :
    (UrlRule.pattern standard).accepts path = true := by
  have hempty : ∀ before, Pattern.Matches (.repeated queryPattern 0 (some 1)) before [] [] :=
    fun _ => ⟨0, fun _ _ => Nat.zero_le _, rfl⟩
  simpa using accepts_standard hpath hempty

theorem accepts_query (hpath : IsPath path) (hpairs : pairs ≠ [])
    (h : ∀ pair ∈ pairs, IsPair pair) :
    (UrlRule.pattern standard).accepts (path ++ '?' :: Text.join ['&'] pairs) = true := by
  apply accepts_standard hpath
  intro before
  refine ⟨1, ?_, _, [], (List.append_nil _).symm, matches_query hpairs h, rfl⟩
  intro bound hbound
  cases hbound
  exact Nat.le_refl 1

end UrlRule

end RouteTree
