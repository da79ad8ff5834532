import RouteTree.Proofs.Calls
import RouteTree.Proofs.StandardPattern

namespace RouteTree

namespace UrlRule

/-- One equals sign, with a key before it and a value, perhaps empty, after it. -/
structure IsEntry (piece : Text) : Prop where
  once : piece.count '=' = 1
  named : (Text.cut '=' piece).1 ≠ []
  key : ∀ c ∈ (Text.cut '=' piece).1, Text.isUnreserved c = true ∨ c = '%'
  value : ∀ value ∈ (Text.cut '=' piece).2, ∀ c ∈ value,
    Unicode.isBlank c = false ∧ c ∉ "&=?#<>\\^\x60|*()$;'!".toList

/-- A path, and entries between ampersands when a question mark follows it. -/
structure IsStandard (url : Text) : Prop where
  path : IsPath (url.cut '?').1
  entries : ∀ query ∈ (url.cut '?').2, ∀ piece ∈ query.splitOn '&', IsEntry piece

theorem not_mem_of_keyCharacters {d : Char} {t : Text} (hd : Text.IsDelimiter d)
    (h : ∀ c ∈ t, keyCharacter.contains c = true) : d ∉ t := by
  intro hmem
  rcases keyCharacter_contains.mp (h d hmem) with hunreserved | hpercent
  · rw [hd.1] at hunreserved
    cases hunreserved
  · exact hd.2 hpercent

theorem not_mem_of_valueCharacters {d : Char} {t : Text} (hd : d ∈ "&=?#<>\\^\x60|*()$;'!".toList)
    (h : ∀ c ∈ t, valueCharacter.contains c = true) : d ∉ t :=
  fun hmem => (valueCharacter_contains.mp (h d hmem)).2 hd

theorem IsPair.not_mem {pair : Text} (h : IsPair pair) : '&' ∉ pair := by
  cases h with
  | @intro key value _ hkey hvalue =>
      rw [List.mem_append, List.mem_cons, not_or, not_or]
      exact ⟨not_mem_of_keyCharacters (by decide) hkey, by decide,
        not_mem_of_valueCharacters (by decide) hvalue⟩

theorem isPair_iff {piece : Text} : IsPair piece ↔ IsEntry piece := by
  constructor
  · intro h
    cases h with
    | @intro key value hnonempty hkey hvalue =>
        have hkeyEquals : '=' ∉ key := not_mem_of_keyCharacters (by decide) hkey
        have hvalueEquals : '=' ∉ value := not_mem_of_valueCharacters (by decide) hvalue
        have hcut := Text.cut_append hkeyEquals value
        exact {
          once := by
            rw [List.count_append, List.count_cons_self, List.count_eq_zero_of_not_mem hkeyEquals,
              List.count_eq_zero_of_not_mem hvalueEquals]
          named := by rwa [hcut]
          key := by
            rw [hcut]
            exact fun c hc => keyCharacter_contains.mp (hkey c hc)
          value := by
            rw [hcut]
            intro value hvalue' c hc
            cases hvalue'
            exact valueCharacter_contains.mp (hvalue c hc)
        }
  · intro h
    cases hcut : (Text.cut '=' piece).2 with
    | none =>
        have hmem : '=' ∈ piece := List.count_pos_iff.mp (by rw [h.once]; exact Nat.one_pos)
        rw [Text.cut_eq_none hcut] at hmem
        exact absurd hmem (Text.not_mem_cut_fst '=' piece)
    | some value =>
        rw [Text.cut_eq_some hcut]
        apply IsPair.intro h.named
        · exact fun c hc => keyCharacter_contains.mpr (h.key c hc)
        · exact fun c hc => valueCharacter_contains.mpr (h.value value hcut c hc)

section Matches

variable {l : Language} {set : CharSet} {p : Pattern} {d : Char} {before word after : Text}

theorem chars_of_times {n : Nat}
    (h : (Pattern.Matches (.char set)).times n before word after) :
    word.length = n ∧ ∀ c ∈ word, set.contains c = true := by
  induction n generalizing before word with
  | zero =>
      obtain rfl : word = [] := h
      exact ⟨rfl, nofun⟩
  | succ n ih =>
      obtain ⟨_, rest, rfl, ⟨c, rfl, hc⟩, hrest⟩ := h
      obtain ⟨hlength, hchars⟩ := ih hrest
      exact ⟨congrArg (· + 1) hlength, List.forall_mem_cons.mpr ⟨hc, hchars⟩⟩

theorem chars_of_matches {least : Nat}
    (h : Pattern.Matches (.repeated (.char set) least none) before word after) :
    least ≤ word.length ∧ ∀ c ∈ word, set.contains c = true := by
  obtain ⟨more, _, htimes⟩ := h
  obtain ⟨hlength, hchars⟩ := chars_of_times htimes
  exact ⟨by omega, hchars⟩

theorem marked_of_matches {P : Text → Prop}
    (h : ∀ before word after, p.Matches before word after → P word)
    (hmatch : Pattern.Matches (.sequence (one d) p) before word after) :
    ∃ rest, word = d :: rest ∧ P rest := by
  obtain ⟨_, rest, rfl, ⟨c, rfl, hc⟩, hrest⟩ := hmatch
  obtain rfl := CharSet.contains_single.mp hc
  exact ⟨rest, rfl, h _ _ _ hrest⟩

theorem marked_of_matches_many {P : Text → Prop}
    (h : ∀ before word after, p.Matches before word after → P word)
    (hmatch : Pattern.Matches (many (.sequence (one d) p)) before word after) :
    ∃ words : List Text, word = words.flatMap (d :: ·) ∧ ∀ part ∈ words, P part := by
  obtain ⟨more, _, htimes⟩ := hmatch
  rw [Nat.zero_add] at htimes
  induction more generalizing before word with
  | zero => exact ⟨[], htimes, nofun⟩
  | succ more ih =>
      obtain ⟨_, rest, rfl, hmarked, hrest⟩ := htimes
      obtain ⟨first, rfl, hfirst⟩ := marked_of_matches h hmarked
      obtain ⟨words, rfl, hwords⟩ := ih nofun hrest
      exact ⟨first :: words, rfl, List.forall_mem_cons.mpr ⟨hfirst, hwords⟩⟩

end Matches

theorem isPath_of_matches {before path after : Text}
    (h : pathPattern.Matches before path after) : IsPath path := by
  obtain ⟨words, rfl, hwords⟩ :=
    marked_of_matches_many (fun _ _ _ hmatch => (chars_of_matches hmatch).2) h
  constructor
  · cases words with
    | nil => exact .inl rfl
    | cons word rest => exact .inr rfl
  · intro c hc
    obtain ⟨word, hword, hc⟩ := List.mem_flatMap.mp hc
    rcases List.mem_cons.mp hc with hslash | hc
    · exact .inl hslash
    · exact .inr (segmentCharacter_contains.mp (hwords word hword c hc))

theorem isPair_of_matches {before pair after : Text}
    (h : pairPattern.Matches before pair after) : IsPair pair := by
  obtain ⟨key, _, rfl, hkey, hrest⟩ := h
  obtain ⟨value, rfl, hvalue⟩ :=
    marked_of_matches (fun _ _ _ hmatch => (chars_of_matches hmatch).2) hrest
  obtain ⟨hlength, hkey⟩ := chars_of_matches hkey
  exact .intro (List.length_pos_iff.mp hlength) hkey hvalue

theorem query_of_matches {before query after : Text}
    (h : queryPattern.Matches before query after) :
    ∃ pairs, pairs ≠ [] ∧ query = '?' :: Text.join ['&'] pairs ∧ ∀ pair ∈ pairs, IsPair pair := by
  have hrow : ∀ before row after,
      Pattern.Matches (.sequence pairPattern (many (.sequence (one '&') pairPattern)))
          before row after →
        ∃ pairs, pairs ≠ [] ∧ row = Text.join ['&'] pairs ∧ ∀ pair ∈ pairs, IsPair pair := by
    intro before row after hmatch
    obtain ⟨pair, _, rfl, hpair, hrest⟩ := hmatch
    obtain ⟨pairs, rfl, hpairs⟩ :=
      marked_of_matches_many (fun _ _ _ hmatch => isPair_of_matches hmatch) hrest
    exact ⟨pair :: pairs, List.cons_ne_nil _ _, (Text.join_cons '&' pair pairs).symm,
      List.forall_mem_cons.mpr ⟨isPair_of_matches hpair, hpairs⟩⟩
  obtain ⟨_, rfl, pairs, hpairs, rfl, hall⟩ := marked_of_matches hrow h
  exact ⟨pairs, hpairs, rfl, hall⟩

/-- A path, alone or with pairs behind it. -/
inductive IsUrl : Text → Prop
  | path {path : Text} (hpath : IsPath path) : IsUrl path
  | query {path : Text} {pairs : List Text} (hpath : IsPath path) (hne : pairs ≠ [])
      (hpairs : ∀ pair ∈ pairs, IsPair pair) : IsUrl (path ++ '?' :: Text.join ['&'] pairs)

theorem isUrl_of_matches {before word after path : Text} (hpath : IsPath path)
    (h : Pattern.Matches (.repeated queryPattern 0 (some 1)) before word after) :
    IsUrl (path ++ word) := by
  obtain ⟨more, hmore, htimes⟩ := h
  have hmore : more ≤ 1 := hmore 1 rfl
  rw [Nat.zero_add] at htimes
  cases more with
  | zero =>
      obtain rfl : word = [] := htimes
      rw [List.append_nil]
      exact .path hpath
  | succ more =>
      obtain rfl : more = 0 := by omega
      obtain ⟨_, rest, rfl, hquery, hrest⟩ := htimes
      obtain rfl : rest = [] := hrest
      obtain ⟨pairs, hne, rfl, hpairs⟩ := query_of_matches hquery
      rw [List.append_nil]
      exact .query hpath hne hpairs

theorem accepts_iff_isUrl {url : Text} :
    (UrlRule.pattern standard).accepts url = true ↔ IsUrl url := by
  constructor
  · intro h
    rw [accepts, Pattern.matchesSomewhere_iff] at h
    obtain ⟨before, _, after, rfl, _, _, rfl, ⟨rfl, hstart⟩, hrest⟩ := h
    obtain ⟨path, _, rfl, hpath, query, _, rfl, hquery, rfl, hend⟩ := hrest
    -- The anchors leave no room around the match.
    obtain rfl : before = [] := by simpa [Anchor.holds] using hstart
    obtain rfl : after = [] := by simpa [Anchor.holds] using hend
    simpa using isUrl_of_matches (isPath_of_matches hpath) hquery
  · intro h
    cases h with
    | path hpath => exact accepts_path hpath
    | query hpath hne hpairs => exact accepts_query hpath hne hpairs

theorem IsPath.not_mem {path : Text} (h : IsPath path) : '?' ∉ path := by
  intro hmem
  rcases h.characters '?' hmem with hslash | hcharacter
  · cases hslash
  · exact absurd hcharacter (by decide)

theorem isStandard_iff_isUrl {url : Text} : IsStandard url ↔ IsUrl url := by
  constructor
  · intro h
    cases hcut : (url.cut '?').2 with
    | none =>
        rw [Text.cut_eq_none hcut]
        exact .path h.path
    | some query =>
        have hjoin : query = Text.join ['&'] (query.splitOn '&') :=
          (List.intercalate_splitOn '&').symm
        rw [Text.cut_eq_some hcut, hjoin]
        refine .query h.path (List.splitOn_ne_nil '&' query) ?_
        exact fun piece hpiece => isPair_iff.mpr (h.entries query hcut piece hpiece)
  · intro h
    cases h with
    | path hpath =>
        have hcut := Text.cut_of_not_mem hpath.not_mem
        exact ⟨by rwa [hcut], by rw [hcut]; exact nofun⟩
    | @query path pairs hpath hne hpairs =>
        have hcut := Text.cut_append hpath.not_mem (Text.join ['&'] pairs)
        have hsplit : (Text.join ['&'] pairs).splitOn '&' = pairs :=
          List.splitOn_intercalate '&' (fun pair hpair => (hpairs pair hpair).not_mem) hne
        refine ⟨by rwa [hcut], ?_⟩
        rw [hcut]
        intro query hquery piece hpiece
        cases hquery
        rw [hsplit] at hpiece
        exact isPair_iff.mp (hpairs piece hpiece)

/-- The standard check lets a URL through exactly when it is of the grammar. -/
theorem standard_check_iff (url : Text) :
    ∃ rule, ofCheck .standard = .ok rule ∧ (rule.check url = .ok () ↔ IsStandard url) := by
  refine ⟨.pattern standard, rfl, ?_⟩
  rw [check_eq_ok, accepts_iff_isUrl, isStandard_iff_isUrl]

end UrlRule

end RouteTree
