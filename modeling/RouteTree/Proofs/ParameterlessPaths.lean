import RouteTree.Proofs.Answers
import RouteTree.Proofs.NormalPaths
import RouteTree.Proofs.StrictNames

namespace RouteTree

/-! Path values are counted only where names are strict. Else the path is put together from its
segments, which leaves it alone only when it is tidy. -/

def PathArguments.Supplies : PathArguments → Prop
  | .scalar _ => True
  | .named values => values.keys ≠ []

/-- The answer is a refusal for the number of the path values. -/
def RefusesCount {α : Type} (answer : Except RouteError α) : Prop :=
  ∃ route expected found, answer = .error (.parameterCount route expected found)

namespace PathTemplate

variable {sigil : Char} {source : Text}

theorem replacedAll_of_parameters_eq_nil (h : (parse sigil source).parameters = []) (encode : Bool)
    (arguments : PathArguments) :
    source.replacedAll encode sigil arguments = source.tidied := by
  rw [parameters_parse, Text.parameterNames, List.filterMap_eq_nil_iff] at h
  apply Text.replacedAll_eq_tidied
  intro piece hpiece
  rw [Text.replaced, h piece hpiece]

theorem fill_of_parameters_eq_nil (h : (parse sigil source).parameters = []) (strict encode : Bool)
    (route : Text) (arguments : PathArguments) :
    (parse sigil source).fill strict encode route (some arguments) =
      Outcome.orError source.tidied
        (if strict then Text.countError? route [] arguments else none) := by
  have herror : Text.strictError? strict route [] arguments =
      if strict then Text.countError? route [] arguments else none := by
    simp [Text.strictError?, Text.missingError?]
  rw [fill_parse, Text.substituted, replacedAll_of_parameters_eq_nil h, ← parameters_parse, h,
    herror]

end PathTemplate

theorem counted_cases {arguments : PathArguments} (hsupplies : arguments.Supplies) (strict : Bool)
    (route : Text) :
    ((strict = true ∧ ∃ values, arguments = .named values) ∧
        ∃ found, (if strict then Text.countError? route [] arguments else none) =
          some (.parameterCount route 0 found)) ∨
      (¬ (strict = true ∧ ∃ values, arguments = .named values) ∧
        (if strict then Text.countError? route [] arguments else none) = none) := by
  cases strict with
  | false => exact .inr ⟨fun h => Bool.false_ne_true h.1, rfl⟩
  | true =>
      cases arguments with
      | scalar value => exact .inr ⟨(nomatch ·.2), rfl⟩
      | named values =>
          have hsize : values.size ≠ 0 := by
            rw [PathTemplate.size_eq_length_keys]
            exact fun hlength => hsupplies (List.length_eq_zero_iff.mp hlength)
          exact .inl ⟨⟨rfl, values, rfl⟩, values.size, if_neg hsize⟩

namespace Formatter

variable {f : Formatter} {arguments : PathArguments} {search : Option (Bindings Value)}

/-- The formatter with its path put together from the segments. -/
def tidied (f : Formatter) : Formatter :=
  { f with path := { f.path with source := f.path.source.tidied } }

theorem tidied_of_tidy (h : f.path.source.Tidy) : f.tidied = f := by
  rw [tidied, Text.tidied_eq_self_iff.mpr h]

theorem url_of_fill_eq_error {e : RouteError}
    (hpath : f.path.fill f.format.strict f.format.encode f.template (some arguments) = .error e) :
    f.url (some arguments) search = .error e := by
  rw [url, draft, hpath]
  rfl

theorem url_of_fill_eq_tidied (hcount : f.path.parameterCount = 0)
    (hpath : f.path.fill f.format.strict f.format.encode f.template (some arguments) =
      .ok f.path.source.tidied) :
    f.url (some arguments) search = f.tidied.url none search := by
  have hdraft : f.draft (some arguments) search = f.tidied.draft none search := by
    rw [draft, hpath]
    rfl
  have hcount' : f.tidied.path.parameterCount = 0 := hcount
  rw [url, url, hdraft, hcount']
  rfl

theorem not_refusesCount_url {path : Text}
    (hpath : f.path.fill f.format.strict f.format.encode f.template (some arguments) = .ok path) :
    ¬ RefusesCount (f.url (some arguments) search) := by
  intro h
  obtain ⟨route, expected, found, hurl⟩ := h
  rcases url_eq_error.mp hurl with hdraft | ⟨_, _, _, _, heq⟩
  · rw [draft, Outcome.bind_eq_error] at hdraft
    rcases hdraft with hfill | ⟨_, _, hquery⟩
    · rw [hpath] at hfill
      cases hfill
    · rw [Outcome.bind_eq_error] at hquery
      rcases hquery with hkeys | ⟨_, _, hpure⟩
      · obtain ⟨_, _, heq⟩ := Query.checkedText_eq_error hkeys
        cases heq
      · cases hpure
  · cases heq

theorem url_none_of_lenient (hstrict : f.format.strict = false)
    (hcount : f.path.parameterCount = 0) :
    f.url none search =
      f.format.checked (f.path.source ++ Query.optionalText f.format.encode search) :=
  url_none_eq_checked hcount fun h => absurd (hstrict.symm.trans h) Bool.false_ne_true

theorem url_tidied_eq_iff (hstrict : f.format.strict = false)
    (hcount : f.path.parameterCount = 0) :
    f.tidied.url none search = f.url none search ↔ f.path.source.Tidy := by
  have htidied : f.tidied.url none search = f.format.checked
      (f.path.source.tidied ++ Query.optionalText f.format.encode search) :=
    url_none_of_lenient hstrict hcount
  rw [htidied, url_none_of_lenient hstrict hcount, Format.checked_inj, List.append_left_inj]
  exact Text.tidied_eq_self_iff

end Formatter

/-- Path values for a path without parameters are refused exactly when they are named and names are
strict. Else the route answers as it does without them, its path put together from the segments. -/
theorem Route.path_values_without_parameters {format : Format} {template : Text} {r : Route}
    (hroute : Route.ofTemplate format template = .ok r) (hnone : r.parameters = [])
    {arguments : PathArguments} (hsupplies : arguments.Supplies)
    (search : Option (Bindings Value)) :
    (RefusesCount (r.url (some arguments) search) ↔
        format.strict = true ∧ ∃ values, arguments = .named values) ∧
      (¬ RefusesCount (r.url (some arguments) search) →
        r.url (some arguments) search = r.formatter.tidied.url none search ∧
          ((template.cut '?').1.Tidy → r.url (some arguments) search = r.url none search)) ∧
      (format.strict = false →
        (r.url (some arguments) search = r.url none search ↔ (template.cut '?').1.Tidy)) := by
  obtain ⟨hadmitted, rfl⟩ := Route.ofTemplate_eq_ok.mp hroute
  have hfill := PathTemplate.fill_of_parameters_eq_nil hnone format.strict format.encode template
    arguments
  have hcount : (Formatter.ofTemplate format template).path.parameterCount = 0 :=
    congrArg List.length hnone
  rw [Formatter.route_url hadmitted, Formatter.route_url hadmitted]
  rcases counted_cases hsupplies format.strict template with
    ⟨hcounted, found, herror⟩ | ⟨hcounted, herror⟩
  · rw [herror] at hfill
    have hrefuses : RefusesCount
        ((Formatter.ofTemplate format template).url (some arguments) search) :=
      ⟨_, _, _, Formatter.url_of_fill_eq_error hfill⟩
    refine ⟨iff_of_true hrefuses hcounted, fun h => absurd hrefuses h, ?_⟩
    intro hlenient
    rw [hcounted.1] at hlenient
    cases hlenient
  · rw [herror] at hfill
    have hanswer : (Formatter.ofTemplate format template).url (some arguments) search =
        (Formatter.ofTemplate format template).tidied.url none search :=
      Formatter.url_of_fill_eq_tidied hcount hfill
    refine ⟨iff_of_false (Formatter.not_refusesCount_url hfill) hcounted,
      fun _ => ⟨hanswer, ?_⟩, ?_⟩
    · intro htidy
      rw [hanswer]
      exact congrArg (Formatter.url · none search) (Formatter.tidied_of_tidy htidy)
    · intro hlenient
      rw [hanswer]
      exact Formatter.url_tidied_eq_iff hlenient hcount

theorem Route.path_values_without_parameters_twice :
    let strict : Format := ⟨true, false, ':', .off, []⟩
    let lenient : Format := ⟨false, false, ':', .off, []⟩
    let named : PathArguments := .named (.ofList [(['i'], .null)])
    (∃ r, Route.ofTemplate strict ['/', 'a', '/', ':', '?', 'q'] = .ok r ∧ r.parameters = [] ∧
        named.Supplies ∧ RefusesCount (r.url (some named) none) ∧
        r.url (some (.scalar .null)) none = r.url none none) ∧
      ∃ r, Route.ofTemplate lenient ['/', '/', 'a'] = .ok r ∧ r.parameters = [] ∧
        r.url (some named) none ≠ r.url none none := by
  intro strict lenient named
  have hsupplies : named.Supplies := List.cons_ne_nil _ _
  have hstrict := @path_values_without_parameters strict ['/', 'a', '/', ':', '?', 'q'] _ rfl rfl
  refine ⟨⟨_, rfl, rfl, hsupplies, ?_, ?_⟩, ⟨_, rfl, rfl, ?_⟩⟩
  · exact (hstrict hsupplies none).1.mpr ⟨rfl, _, rfl⟩
  · have hscalar := @hstrict (.scalar .null) trivial none
    refine (hscalar.2.1 ?_).2 (Text.tidied_eq_self_iff.mp rfl)
    intro h
    obtain ⟨-, _, heq⟩ := hscalar.1.mp h
    cases heq
  · intro heq
    have hlenient :=
      @path_values_without_parameters lenient ['/', '/', 'a'] _ rfl rfl named hsupplies none
    exact absurd (Text.tidied_eq_self_iff.mpr ((hlenient.2.2 rfl).mp heq)) (by decide)

/-- Strict names do not refuse a single value, and lenient ones let it take away a last slash. -/
theorem Route.path_values_not_ignored :
    let value : PathArguments := .scalar .null
    (∃ r, Route.ofTemplate ⟨true, false, ':', .off, []⟩ ['/', 'a'] = .ok r ∧ r.parameters = [] ∧
        ¬ RefusesCount (r.url (some value) none) ∧ r.url (some value) none = .ok ['/', 'a']) ∧
      ∃ r, Route.ofTemplate ⟨false, false, ':', .off, []⟩ ['/', 'a', '/'] = .ok r ∧
        r.parameters = [] ∧ r.url none none = .ok ['/', 'a', '/'] ∧
        r.url (some value) none = .ok ['/', 'a'] := by
  intro value
  refine ⟨⟨_, rfl, rfl, ?_, rfl⟩, ⟨_, rfl, rfl, rfl, rfl⟩⟩
  intro h
  obtain ⟨_, _, _, heq⟩ := h
  cases heq

end RouteTree
