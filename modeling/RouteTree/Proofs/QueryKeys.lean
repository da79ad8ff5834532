import RouteTree.Proofs.Answers
import RouteTree.Proofs.StrictNames

namespace RouteTree

/-! Neither list of keys has repetitions, so the check passes exactly for equal sets of keys. -/

namespace Text

theorem mem_firstOccurrences {t : Text} {texts : List Text} :
    t ∈ firstOccurrences texts ↔ t ∈ texts := by
  induction texts with
  | nil => rfl
  | cons first rest ih =>
      by_cases heq : t = first
      · simp [firstOccurrences, heq]
      · simp [firstOccurrences, heq, ih]

theorem nodup_firstOccurrences (texts : List Text) : (firstOccurrences texts).Nodup := by
  induction texts with
  | nil => exact List.nodup_nil
  | cons first rest ih =>
      rw [firstOccurrences, List.nodup_cons]
      exact ⟨by simp, ih.filter _⟩

theorem firstOccurrences_of_nodup {texts : List Text} (h : texts.Nodup) :
    firstOccurrences texts = texts := by
  induction texts with
  | nil => rfl
  | cons first rest ih =>
      rw [List.nodup_cons] at h
      rw [firstOccurrences, ih h.2, List.filter_eq_self.mpr]
      intro t ht
      exact bne_iff_ne.mpr fun heq => h.1 (heq ▸ ht)

theorem pairwise_firstOccurrences (texts : List Text) :
    (firstOccurrences texts).Pairwise fun t later => texts.idxOf t < texts.idxOf later := by
  induction texts with
  | nil => exact .nil
  | cons first rest ih =>
      have hidx : ∀ t ∈ (firstOccurrences rest).filter (· != first),
          (first :: rest).idxOf t = rest.idxOf t + 1 := by
        intro t ht
        have hne : t ≠ first := by simpa using (List.mem_filter.mp ht).2
        exact List.idxOf_cons_ne rest hne.symm
      rw [firstOccurrences, List.pairwise_cons]
      constructor
      · intro t ht
        rw [List.idxOf_cons_self, hidx t ht]
        exact Nat.succ_pos _
      · refine (ih.filter _).imp_of_mem ?_
        intro t later ht hlater hlt
        rw [hidx t ht, hidx later hlater]
        exact Nat.succ_lt_succ hlt

theorem firstOccurrences_filter (p : Text → Bool) (texts : List Text) :
    firstOccurrences (texts.filter p) = (firstOccurrences texts).filter p := by
  induction texts with
  | nil => rfl
  | cons first rest ih =>
      cases hfirst : p first with
      | true =>
          rw [List.filter_cons_of_pos hfirst, firstOccurrences, firstOccurrences,
            List.filter_cons_of_pos hfirst, ih, List.filter_comm]
      | false =>
          have hfirst : ¬ p first = true := by simp [hfirst]
          rw [List.filter_cons_of_neg hfirst, firstOccurrences, List.filter_cons_of_neg hfirst, ih,
            List.filter_filter]
          apply List.filter_congr
          intro t _
          -- What passes the test differs from a text that does not.
          cases ht : p t with
          | false => rfl
          | true =>
              have hne : t ≠ first := fun heq => hfirst (heq ▸ ht)
              simp [hne]

end Text

namespace Query

/-- Behind the first question mark, a piece up to its first equals sign trims to the key. -/
def DeclaredIn (template key : Text) : Prop :=
  key ≠ [] ∧ ∃ declaration ∈ (template.cut '?').2, ∃ piece ∈ declaration.splitOn '&',
    (Text.cut '=' piece).1.trim = key

theorem mem_declaredKeys {declaration key : Text} :
    key ∈ declaredKeys declaration ↔
      key ≠ [] ∧ ∃ piece ∈ declaration.splitOn '&', (Text.cut '=' piece).1.trim = key := by
  rw [declaredKeys, Text.mem_firstOccurrences, List.mem_filter, List.mem_map, and_comm]
  simp [declaredKey]

theorem nodup_declaredKeys (declaration : Text) : (declaredKeys declaration).Nodup :=
  Text.nodup_firstOccurrences _

end Query

namespace Entries

variable {α : Type}

theorem mem_keys_insertAll {key : Text} {entries new : Entries α} :
    key ∈ (entries.insertAll new).keys ↔ key ∈ entries.keys ∨ key ∈ new.keys := by
  induction new generalizing entries with
  | nil => simp [insertAll]
  | cons entry rest ih =>
      have hstep : key ∈ (entries.insertAll (entry :: rest)).keys ↔
          key ∈ (entries.insert entry.1 entry.2).keys ∨ key ∈ keys rest := ih
      have hkeys : keys (entry :: rest) = entry.1 :: keys rest := rfl
      rw [hstep, mem_keys_insert, or_assoc, hkeys, List.mem_cons]

end Entries

theorem Bindings.mem_keys_ofList {α : Type} {key : Text} {insertions : List (Text × α)} :
    key ∈ (Bindings.ofList insertions).keys ↔ key ∈ insertions.map Prod.fst := by
  have hkeys : key ∈ (Entries.insertAll [] insertions).keys ↔
      key ∈ Entries.keys [] ∨ key ∈ Entries.keys insertions := Entries.mem_keys_insertAll
  rw [Entries.keys_nil] at hkeys
  exact hkeys.trans (or_iff_right List.not_mem_nil)

namespace Query

variable {expected : List Text} {strict encode : Bool} {route : Text} {values : Bindings Value}

theorem matches_iff (hexpected : expected.Nodup) :
    Matches expected values ↔ ∀ key, key ∈ values.keys ↔ key ∈ expected := by
  rw [Matches, PathTemplate.size_eq_length_keys]
  exact Text.length_eq_and_subset_iff values.nodup hexpected

/-- The answer is a refusal for the keys of the search. -/
def RefusesKeys {α : Type} (answer : Except RouteError α) : Prop :=
  ∃ route expected found, answer = .error (.queryKeys route expected found)

theorem refusesKeys_checkedText (hstrict : strict = true) (hne : expected ≠ []) :
    RefusesKeys (checkedText expected strict encode route (some values)) ↔
      ¬ Matches expected values := by
  rw [checkedText_some, if_pos ⟨hstrict, hne⟩]
  cases hkeys : checkKeys expected values route with
  | error e =>
      obtain ⟨hmismatch, rfl⟩ := checkKeys_eq_error.mp hkeys
      exact iff_of_true ⟨_, _, _, rfl⟩ hmismatch
  | ok u =>
      refine iff_of_false ?_ (not_not_intro (checkKeys_eq_ok.mp hkeys))
      intro h
      obtain ⟨_, _, _, heq⟩ := h
      cases heq

end Query

namespace Formatter

variable {f : Formatter} {arguments : Option PathArguments} {search : Option (Bindings Value)}

theorem refusesKeys_url {path : Text}
    (hpath : f.path.fill f.format.strict f.format.encode f.template arguments = .ok path) :
    Query.RefusesKeys (f.url arguments search) ↔
      Query.RefusesKeys
        (Query.checkedText f.queryKeys f.format.strict f.format.encode f.template search) := by
  have hdraft : f.draft arguments search =
      (do
        let query ←
          Query.checkedText f.queryKeys f.format.strict f.format.encode f.template search
        return path ++ query) := by
    rw [draft, hpath]
    rfl
  refine exists_congr fun route => exists_congr fun expected => exists_congr fun found => ?_
  rw [url_eq_error, hdraft, Outcome.bind_eq_error]
  simp

theorem refusesKeys_url_some (hstrict : f.format.strict = true) (hne : f.queryKeys ≠ [])
    (hnodup : f.queryKeys.Nodup) {path : Text}
    (hpath : f.path.fill f.format.strict f.format.encode f.template arguments = .ok path)
    (values : Bindings Value) :
    Query.RefusesKeys (f.url arguments (some values)) ↔
      ¬ ∀ key, key ∈ values.keys ↔ key ∈ f.queryKeys := by
  rw [refusesKeys_url hpath, Query.refusesKeys_checkedText hstrict hne, Query.matches_iff hnodup]

theorem not_refusesKeys_url_none {path : Text}
    (hpath : f.path.fill f.format.strict f.format.encode f.template arguments = .ok path) :
    ¬ Query.RefusesKeys (f.url arguments none) := by
  rw [refusesKeys_url hpath]
  intro h
  obtain ⟨_, _, _, heq⟩ := h
  cases heq

variable {format : Format} {template : Text}

theorem nodup_queryKeys_ofTemplate : (ofTemplate format template).queryKeys.Nodup := by
  rw [ofTemplate]
  cases (template.cut '?').2 with
  | none => exact List.nodup_nil
  | some declaration => exact Query.nodup_declaredKeys declaration

theorem mem_queryKeys_ofTemplate {key : Text} :
    key ∈ (ofTemplate format template).queryKeys ↔ Query.DeclaredIn template key := by
  rw [ofTemplate, Query.DeclaredIn]
  cases (template.cut '?').2 with
  | none => simp
  | some declaration => simpa using Query.mem_declaredKeys

end Formatter

/-- A strict call whose path part succeeds is refused for the keys of its search exactly when they
are not, as a set, the declared ones. -/
theorem Route.strict_query_keys {format : Format} {template : Text} {r : Route}
    (hstrict : format.strict = true) (hroute : Route.ofTemplate format template = .ok r)
    (hdeclared : ∃ key, Query.DeclaredIn template key) {arguments : Option PathArguments}
    (hpath : ∃ path, (PathTemplate.parse format.sigil (template.cut '?').1).fill format.strict
      format.encode template arguments = .ok path) :
    (∀ insertions : List (Text × Value),
      Query.RefusesKeys (r.url arguments (some (.ofList insertions))) ↔
        ¬ ∀ key, key ∈ insertions.map Prod.fst ↔ Query.DeclaredIn template key) ∧
      Query.RefusesKeys (r.url arguments (some .empty)) ∧
      ¬ Query.RefusesKeys (r.url arguments none) := by
  obtain ⟨hadmitted, rfl⟩ := Route.ofTemplate_eq_ok.mp hroute
  obtain ⟨path, hpath⟩ := hpath
  obtain ⟨declared, hdeclared⟩ := hdeclared
  have hmem : declared ∈ (Formatter.ofTemplate format template).queryKeys :=
    Formatter.mem_queryKeys_ofTemplate.mpr hdeclared
  have hrefuses : ∀ values : Bindings Value,
      Query.RefusesKeys ((Formatter.ofTemplate format template).route.url arguments (some values)) ↔
        ¬ ∀ key, key ∈ values.keys ↔ Query.DeclaredIn template key := by
    intro values
    rw [Formatter.route_url hadmitted, Formatter.refusesKeys_url_some hstrict
      (List.ne_nil_of_mem hmem) Formatter.nodup_queryKeys_ofTemplate hpath]
    simp only [Formatter.mem_queryKeys_ofTemplate]
  refine ⟨?_, ?_, ?_⟩
  · intro insertions
    rw [hrefuses]
    simp only [Bindings.mem_keys_ofList]
  · rw [hrefuses]
    intro hsame
    exact absurd ((hsame declared).mpr hdeclared) List.not_mem_nil
  · rw [Formatter.route_url hadmitted]
    exact Formatter.not_refusesKeys_url_none hpath

theorem Route.strict_query_keys_repeated :
    let format : Format := ⟨true, false, ':', .off, []⟩
    let template : Text := ['/', 'a', '?', 'q', '&', ' ', 'p', '=', '1', '&', 'q', '=', '&']
    ∃ r, format.strict = true ∧ Route.ofTemplate format template = .ok r ∧
      Query.DeclaredIn template ['p'] ∧
      (∃ path, (PathTemplate.parse format.sigil (Text.cut '?' template).1).fill format.strict
        format.encode template none = .ok path) ∧
      (∀ insertions : List (Text × Value),
        Query.RefusesKeys (r.url none (some (.ofList insertions))) ↔
          ¬ ∀ key, key ∈ insertions.map Prod.fst ↔ Query.DeclaredIn template key) ∧
      Query.RefusesKeys (r.url none (some .empty)) ∧ ¬ Query.RefusesKeys (r.url none none) := by
  intro format template
  have hdeclared : Query.DeclaredIn template ['p'] := by
    refine ⟨List.cons_ne_nil _ _, _, rfl, [' ', 'p', '=', '1'], ?_, ?_⟩
    · decide
    · decide
  exact ⟨_, rfl, rfl, hdeclared, ⟨_, rfl⟩, strict_query_keys rfl rfl ⟨_, hdeclared⟩ ⟨_, rfl⟩⟩

end RouteTree
