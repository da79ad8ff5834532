import RouteTree.Proofs.StandardPattern
import Mathlib

namespace RouteTree

/-! Read as a regular expression, the documented text gives a pattern with its classes spelled item
by item and its sequences nested to the right. -/

namespace Language

theorem followedBy_assoc (l m n : Language) :
    (l.followedBy m).followedBy n = l.followedBy (m.followedBy n) := by
  funext before word after
  refine propext ⟨?_, ?_⟩
  · intro h
    obtain ⟨_, last, rfl, ⟨first, middle, rfl, hfirst, hmiddle⟩, hlast⟩ := h
    rw [← List.append_assoc] at hlast hfirst
    exact ⟨first, middle ++ last, List.append_assoc .., hfirst, middle, last, rfl, hmiddle, hlast⟩
  · intro h
    obtain ⟨first, _, rfl, hfirst, middle, last, rfl, hmiddle, hlast⟩ := h
    rw [List.append_assoc] at hfirst hlast
    exact ⟨first ++ middle, last, (List.append_assoc ..).symm,
      ⟨first, middle, rfl, hfirst, hmiddle⟩, hlast⟩

end Language

namespace UrlRule

def listed (items : List CharSet) : CharSet := items.foldl .union .empty

theorem contains_listed (items : List CharSet) (c : Char) :
    (listed items).contains c = items.any fun item => item.contains c := by
  have hfold : ∀ set : CharSet, (items.foldl .union set).contains c =
      (set.contains c || items.any fun item => item.contains c) := by
    induction items with
    | nil => exact fun set => (Bool.or_false _).symm
    | cons item items ih =>
        intro set
        rw [List.foldl_cons, ih, CharSet.contains, Bool.or_assoc, List.any_cons]
  exact hfold .empty

theorem contains_listed_append (items : List CharSet) (chars : List Char) (c : Char) :
    (listed (items ++ chars.map .single)).contains c = true ↔
      (∃ item ∈ items, item.contains c = true) ∨ c ∈ chars := by
  rw [contains_listed, List.any_append, Bool.or_eq_true, List.any_eq_true, List.any_map,
    List.any_eq_true]
  simp only [Function.comp, CharSet.contains_single, exists_eq_right']

def between (first last : Char) : CharSet := .ranges [(first.toNat, last.toNat)]

def alphanumeric : List CharSet := [between 'A' 'Z', between 'a' 'z', between '0' '9']

def listedKey : CharSet := listed (alphanumeric ++ ['.', '_', '~', '%', '-'].map .single)

def listedSegment : CharSet := listed (alphanumeric ++ ['.', '_', '~', ':', '%', '-'].map .single)

def listedValue : CharSet :=
  .complement (listed ([.ranges Unicode.blankRanges] ++
    "&=?#<>\\^\x60|*()$;'!".toList.map .single))

theorem exists_mem_alphanumeric {c : Char} :
    (∃ item ∈ alphanumeric, item.contains c = true) ↔
      ((65 ≤ c.toNat ∧ c.toNat ≤ 90) ∨ (97 ≤ c.toNat ∧ c.toNat ≤ 122)) ∨
        (48 ≤ c.toNat ∧ c.toNat ≤ 57) := by
  simp [alphanumeric, between, CharSet.contains, or_assoc]

theorem contains_listedKey (c : Char) : listedKey.contains c = keyCharacter.contains c := by
  rw [Bool.eq_iff_iff, listedKey, contains_listed_append, keyCharacter_contains,
    Text.isUnreserved_iff, exists_mem_alphanumeric]
  simp only [List.mem_cons, List.not_mem_nil, or_false, ← Char.toNat_inj, Char.reduceToNat]
  omega

theorem contains_listedSegment (c : Char) :
    listedSegment.contains c = segmentCharacter.contains c := by
  rw [Bool.eq_iff_iff, listedSegment, contains_listed_append, segmentCharacter_contains,
    Text.IsPathCharacter, Text.isUnreserved_iff, exists_mem_alphanumeric]
  simp only [List.mem_cons, List.not_mem_nil, or_false, ← Char.toNat_inj, Char.reduceToNat]
  omega

theorem contains_listedValue (c : Char) : listedValue.contains c = valueCharacter.contains c := by
  rw [Bool.eq_iff_iff, valueCharacter_contains, listedValue, CharSet.contains, Bool.not_eq_true',
    ← Bool.not_eq_true, contains_listed_append, not_or]
  simp only [List.mem_singleton, exists_eq_left, Bool.not_eq_true]
  rfl

def listedPairs : Pattern :=
  .sequence (.repeated (.char listedKey) 1 none) (.sequence (one '=')
    (.sequence (many (.char listedValue)) (many (.sequence (one '&')
      (.sequence (.repeated (.char listedKey) 1 none)
        (.sequence (one '=') (many (.char listedValue))))))))

def listedStandard : Pattern :=
  .sequence (.anchor .textStart)
    (.sequence (many (.sequence (one '/') (many (.char listedSegment))))
      (.sequence (.repeated (.sequence (one '?') listedPairs) 0 (some 1)) (.anchor .textEnd)))

/-- The documented text of the standard pattern. -/
def standardText : Text :=
  ("^(?:/[A-Za-z0-9._~:%-]*)*(?:\\?[A-Za-z0-9._~%-]+=[^\\s&=?#<>\\\\^\x60|*()$;'!]*" ++
    "(?:&[A-Za-z0-9._~%-]+=[^\\s&=?#<>\\\\^\x60|*()$;'!]*)*)?$").toList

theorem ofText?_standardText : Pattern.ofText? standardText = some listedStandard := by
  cbv

theorem matches_listedStandard : listedStandard.Matches = standard.Matches := by
  simp only [listedStandard, listedPairs, standard, pathPattern, queryPattern, pairPattern, many,
    Pattern.Matches, Language.followedBy_assoc, contains_listedKey, contains_listedSegment,
    contains_listedValue]

theorem standard_eq_standardText :
    ∃ rule, ofCheck (.pattern standardText) = .ok rule ∧
      ∀ url, rule.accepts url = (UrlRule.pattern standard).accepts url := by
  refine ⟨.pattern listedStandard, ?_, ?_⟩
  · rw [ofCheck, ofText?_standardText]
  · intro url
    rw [accepts, accepts, Bool.eq_iff_iff, Pattern.matchesSomewhere_iff,
      Pattern.matchesSomewhere_iff, matches_listedStandard]

end UrlRule

end RouteTree
