import RouteTree.Proofs.Outcome
import RouteTree.Route

namespace RouteTree

/-! What a call of a route gives, and the conditions under which a stage of it refuses. -/

theorem UrlRule.check_eq_ok {rule : UrlRule} {url : Text} :
    rule.check url = .ok () ↔ rule.accepts url = true := by
  unfold check
  split <;> simp_all

theorem UrlRule.check_eq_error {rule : UrlRule} {url : Text} {e : RouteError} :
    rule.check url = .error e ↔ rule.accepts url = false ∧ .refusedUrl url = e := by
  unfold check
  split <;> simp_all

def PathArguments.value? (name : Text) : PathArguments → Option Value
  | .scalar value => some value
  | .named values => values.get? name

namespace Segment

variable {strict encode : Bool} {route : Text} {sigil : Char} {arguments : PathArguments}

def shown (encode : Bool) (sigil : Char) (arguments : PathArguments) : Segment → Text
  | .literal text => text
  | .parameter name =>
      match arguments.value? name with
      | some value => value.rendered encode
      | none => sigil :: name

theorem fill_parameter (name : Text) :
    fill strict encode route sigil arguments (.parameter name) =
      match arguments.value? name with
      | some value => .ok (value.rendered encode)
      | none => if strict then .error (.missingParameter name route) else .ok (sigil :: name) := by
  cases arguments <;> rfl

theorem fill_eq_ok {segment : Segment} {text : Text} :
    segment.fill strict encode route sigil arguments = .ok text ↔
      (strict = true → ∀ name ∈ segment.parameter?, (arguments.value? name).isSome) ∧
        segment.shown encode sigil arguments = text := by
  cases segment with
  | literal text => simp [fill, shown, parameter?]
  | parameter name =>
      rw [fill_parameter]
      cases hvalue : arguments.value? name with
      | some value => simp [shown, parameter?, hvalue]
      | none => cases strict <;> simp [shown, parameter?, hvalue]

theorem fill_eq_error {segment : Segment} {e : RouteError} :
    segment.fill strict encode route sigil arguments = .error e ↔
      strict = true ∧ ∃ name ∈ segment.parameter?, arguments.value? name = none ∧
        .missingParameter name route = e := by
  cases segment with
  | literal text => simp [fill, parameter?]
  | parameter name =>
      rw [fill_parameter]
      cases hvalue : arguments.value? name with
      | some value => simp [parameter?, hvalue]
      | none => cases strict <;> simp [parameter?, hvalue]

end Segment

namespace PathTemplate

variable {p : PathTemplate} {strict encode : Bool} {route : Text} {arguments : PathArguments}

def shown (p : PathTemplate) (encode : Bool) (arguments : PathArguments) : Text :=
  p.assemble (p.segments.map (Segment.shown encode p.sigil arguments))

def Counted (p : PathTemplate) : PathArguments → Prop
  | .scalar _ => True
  | .named values => values.size = p.parameterCount

theorem checkCount_eq_ok :
    p.checkCount strict route arguments = .ok () ↔ (strict = true → p.Counted arguments) := by
  cases arguments with
  | scalar value => simp [checkCount, Counted]
  | named values =>
      rw [checkCount, Counted]
      cases strict <;> simp

theorem mem_parameters {name : Text} :
    name ∈ p.parameters ↔ ∃ segment ∈ p.segments, name ∈ segment.parameter? := by
  simp [parameters]

theorem fill_eq_ok {path : Text} :
    p.fill strict encode route (some arguments) = .ok path ↔
      (strict = true → p.Counted arguments ∧
        ∀ name ∈ p.parameters, (arguments.value? name).isSome) ∧
        p.shown encode arguments = path := by
  simp only [fill, Outcome.bind_eq_ok, Outcome.pure_eq_ok, Outcome.mapM_eq_ok]
  constructor
  · intro h
    obtain ⟨_, hcount, texts, htexts, rfl⟩ := h
    have hshown : p.segments.map (Segment.shown encode p.sigil arguments) = texts := by
      rw [← List.forall₂_eq_eq_eq, List.forall₂_map_left_iff]
      exact htexts.imp fun _ _ htext => (Segment.fill_eq_ok.mp htext).2
    refine ⟨fun hstrict => ⟨checkCount_eq_ok.mp hcount hstrict, ?_⟩, ?_⟩
    · intro name hname
      obtain ⟨segment, hsegment, hparameter⟩ := mem_parameters.mp hname
      obtain ⟨index, hindex, rfl⟩ := List.mem_iff_getElem.mp hsegment
      have htext := htexts.get hindex (htexts.length_eq ▸ hindex)
      exact (Segment.fill_eq_ok.mp htext).1 hstrict name hparameter
    · rw [shown, hshown]
  · intro h
    obtain ⟨hstrict, rfl⟩ := h
    refine ⟨(), checkCount_eq_ok.mpr fun h => (hstrict h).1, _, ?_, rfl⟩
    rw [List.forall₂_map_right_iff, List.forall₂_same]
    intro segment hsegment
    refine Segment.fill_eq_ok.mpr ⟨fun h name hname => (hstrict h).2 name ?_, rfl⟩
    exact mem_parameters.mpr ⟨segment, hsegment, hname⟩

theorem checkCount_eq_error {e : RouteError} :
    p.checkCount strict route arguments = .error e ↔
      strict = true ∧ ∃ values, arguments = .named values ∧ values.size ≠ p.parameterCount ∧
        .parameterCount route p.parameterCount values.size = e := by
  cases arguments with
  | scalar value => simp [checkCount]
  | named values =>
      rw [checkCount]
      by_cases hcount : values.size = p.parameterCount
      · simp [hcount]
      · cases strict <;> simp [hcount]

theorem fill_eq_error {e : RouteError}
    (h : p.fill strict encode route (some arguments) = .error e) :
    (∃ found, e = .parameterCount route p.parameterCount found) ∨
      ∃ name ∈ p.parameters, arguments.value? name = none ∧ e = .missingParameter name route := by
  rw [fill, Outcome.bind_eq_error] at h
  rcases h with hcount | ⟨_, _, h⟩
  · obtain ⟨_, values, _, _, rfl⟩ := checkCount_eq_error.mp hcount
    exact .inl ⟨values.size, rfl⟩
  · rw [Outcome.bind_eq_error] at h
    rcases h with htexts | ⟨_, _, h⟩
    · obtain ⟨segment, hsegment, hfill⟩ := Outcome.exists_of_mapM_eq_error htexts
      obtain ⟨_, name, hname, hvalue, rfl⟩ := Segment.fill_eq_error.mp hfill
      exact .inr ⟨name, mem_parameters.mpr ⟨segment, hsegment, hname⟩, hvalue, rfl⟩
    · cases h

end PathTemplate

namespace Query

variable {expected : List Text} {strict encode : Bool} {route : Text}
  {search : Option (Bindings Value)}

/-- The keys of the values are the expected ones, as far as the check can tell. -/
def Matches (expected : List Text) (values : Bindings Value) : Prop :=
  values.size = expected.length ∧ ∀ key ∈ values.keys, key ∈ expected

theorem checkKeys_eq_ok {values : Bindings Value} :
    checkKeys expected values route = .ok () ↔ Matches expected values := by
  simp [checkKeys, Matches]

theorem checkKeys_eq_error {values : Bindings Value} {e : RouteError} :
    checkKeys expected values route = .error e ↔
      ¬ Matches expected values ∧ .queryKeys route expected values.keys = e := by
  rw [← checkKeys_eq_ok, checkKeys]
  split <;> simp_all

theorem checkedText_some (values : Bindings Value) :
    checkedText expected strict encode route (some values) =
      if strict = true ∧ expected ≠ [] then
        (checkKeys expected values route).map fun _ => text encode values
      else .ok (text encode values) := by
  cases strict with
  | false => rfl
  | true =>
      cases expected with
      | nil => rfl
      | cons key rest =>
          rw [if_pos ⟨rfl, List.cons_ne_nil key rest⟩]
          simp only [checkedText]
          cases checkKeys (key :: rest) values route <;> rfl

theorem checkedText_eq_ok {query : Text} :
    checkedText expected strict encode route search = .ok query ↔
      (strict = true → expected ≠ [] → ∀ values ∈ search, Matches expected values) ∧
        optionalText encode search = query := by
  cases search with
  | none => simp [checkedText, optionalText]
  | some values =>
      rw [checkedText_some]
      split
      · rename_i hchecked
        cases hkeys : checkKeys expected values route with
        | error e =>
            have hrefused := (checkKeys_eq_error.mp hkeys).1
            simp [Except.map, hchecked, hrefused]
        | ok u =>
            have hmatches := checkKeys_eq_ok.mp hkeys
            simp [Except.map, optionalText, hmatches]
      · rename_i hunchecked
        have hskip : strict = true → expected ≠ [] → Matches expected values :=
          fun hstrict hexpected => False.elim (hunchecked ⟨hstrict, hexpected⟩)
        simpa [optionalText] using fun _ => hskip

theorem checkedText_eq_error {e : RouteError}
    (h : checkedText expected strict encode route search = .error e) :
    ∃ values, search = some values ∧ e = .queryKeys route expected values.keys := by
  cases search with
  | none => cases h
  | some values =>
      rw [checkedText_some] at h
      split at h
      · cases hkeys : checkKeys expected values route with
        | error e' =>
            rw [hkeys] at h
            cases h
            exact ⟨values, rfl, (checkKeys_eq_error.mp hkeys).2.symm⟩
        | ok u =>
            rw [hkeys] at h
            cases h
      · cases h

end Query

namespace Format

def checked (format : Format) (draft : Text) : Except RouteError Text := do
  format.rule.check draft
  return format.prepend ++ draft

theorem checked_eq (format : Format) (draft : Text) :
    format.checked draft =
      if format.rule.accepts draft then .ok (format.prepend ++ draft)
      else .error (.refusedUrl draft) := by
  unfold checked UrlRule.check
  split <;> rfl

theorem checked_inj {format : Format} {draft draft' : Text} :
    format.checked draft = format.checked draft' ↔ draft = draft' := by
  refine ⟨?_, fun h => congrArg format.checked h⟩
  intro h
  rw [checked_eq, checked_eq] at h
  split at h <;> split at h
  · exact List.append_cancel_left (Except.ok.inj h)
  · cases h
  · cases h
  · exact RouteError.refusedUrl.inj (Except.error.inj h)

end Format

namespace Formatter

variable {f : Formatter} {arguments : Option PathArguments} {search : Option (Bindings Value)}

/-- The URL shows values wherever there are any, and is checked then. -/
def Checked (f : Formatter) (arguments : Option PathArguments) : Prop :=
  arguments.isSome = true ∨ f.path.parameterCount = 0

theorem url_eq_ok {url : Text} :
    f.url arguments search = .ok url ↔
      ∃ draft, f.draft arguments search = .ok draft ∧
        (f.Checked arguments → f.format.rule.accepts draft = true) ∧
        f.format.prepend ++ draft = url := by
  rw [Formatter.url, Outcome.bind_eq_ok]
  refine exists_congr fun draft => and_congr_right fun _ => ?_
  split
  · rename_i hchecked
    have hchecked : f.Checked arguments := by simpa [Checked] using hchecked
    simp only [Outcome.bind_eq_ok, Outcome.pure_eq_ok]
    constructor
    · intro h
      obtain ⟨_, hcheck, hurl⟩ := h
      exact ⟨fun _ => UrlRule.check_eq_ok.mp hcheck, hurl⟩
    · intro h
      obtain ⟨haccepts, hurl⟩ := h
      exact ⟨(), UrlRule.check_eq_ok.mpr (haccepts hchecked), hurl⟩
  · rename_i hunchecked
    have hunchecked : ¬ f.Checked arguments := by simpa [Checked] using hunchecked
    exact ⟨fun hurl => ⟨fun h => False.elim (hunchecked h), Outcome.pure_eq_ok.mp hurl⟩,
      fun h => Outcome.pure_eq_ok.mpr h.2⟩

theorem draft_eq_ok {draft : Text} :
    f.draft arguments search = .ok draft ↔
      ∃ path query,
        f.path.fill f.format.strict f.format.encode f.template arguments = .ok path ∧
          Query.checkedText f.queryKeys f.format.strict f.format.encode f.template search =
            .ok query ∧
          path ++ query = draft := by
  simp only [Formatter.draft, Outcome.bind_eq_ok, Outcome.pure_eq_ok]
  constructor
  · intro h
    obtain ⟨path, hpath, query, hquery, rfl⟩ := h
    exact ⟨path, query, hpath, hquery, rfl⟩
  · intro h
    obtain ⟨path, query, hpath, hquery, rfl⟩ := h
    exact ⟨path, hpath, query, hquery, rfl⟩

theorem url_none_eq_checked (hcount : f.path.parameterCount = 0)
    (hkeys : f.format.strict = true → f.queryKeys = []) :
    f.url none search =
      f.format.checked (f.path.source ++ Query.optionalText f.format.encode search) := by
  have hquery : Query.checkedText f.queryKeys f.format.strict f.format.encode f.template search =
      .ok (Query.optionalText f.format.encode search) :=
    Query.checkedText_eq_ok.mpr ⟨fun hstrict hne => absurd (hkeys hstrict) hne, rfl⟩
  rw [url, draft_eq_ok.mpr ⟨f.path.source, _, rfl, hquery, rfl⟩]
  simp only [hcount, beq_self_eq_true, Bool.or_true, if_true]
  rfl

end Formatter

theorem Route.url_some (r : Route) (arguments : PathArguments)
    (search : Option (Bindings Value)) :
    r.url (some arguments) search = r.formatter.url (some arguments) search := by
  rw [Route.url]
  intro _ _ harguments
  cases harguments

/-- The errors that a call can give; the others stop a compilation. -/
inductive RouteError.OfCall : RouteError → Prop
  | parameterCount (route : Text) (expected found : Nat) :
      OfCall (.parameterCount route expected found)
  | missingParameter (key route : Text) : OfCall (.missingParameter key route)
  | queryKeys (route : Text) (expected found : List Text) :
      OfCall (.queryKeys route expected found)
  | refusedUrl (url : Text) : OfCall (.refusedUrl url)

/-- The errors that come before there is a URL to check. -/
inductive RouteError.OfValues : RouteError → Prop
  | parameterCount (route : Text) (expected found : Nat) :
      OfValues (.parameterCount route expected found)
  | missingParameter (key route : Text) : OfValues (.missingParameter key route)
  | queryKeys (route : Text) (expected found : List Text) :
      OfValues (.queryKeys route expected found)

theorem RouteError.OfValues.ofCall {e : RouteError} (h : e.OfValues) : e.OfCall := by
  cases h with
  | parameterCount route expected found => exact .parameterCount route expected found
  | missingParameter key route => exact .missingParameter key route
  | queryKeys route expected found => exact .queryKeys route expected found

namespace Formatter

variable {f : Formatter} {arguments : Option PathArguments} {search : Option (Bindings Value)}

theorem draft_error_ofValues {e : RouteError} (h : f.draft arguments search = .error e) :
    e.OfValues := by
  rw [Formatter.draft, Outcome.bind_eq_error] at h
  rcases h with hpath | ⟨path, _, h⟩
  · cases arguments with
    | none => cases hpath
    | some arguments =>
        rcases PathTemplate.fill_eq_error hpath with ⟨found, rfl⟩ | ⟨name, _, _, rfl⟩
        · exact .parameterCount ..
        · exact .missingParameter ..
  · rw [Outcome.bind_eq_error] at h
    rcases h with hquery | ⟨query, _, h⟩
    · obtain ⟨values, _, rfl⟩ := Query.checkedText_eq_error hquery
      exact .queryKeys ..
    · cases h

theorem url_eq_error {e : RouteError} :
    f.url arguments search = .error e ↔
      f.draft arguments search = .error e ∨
        ∃ draft, f.draft arguments search = .ok draft ∧ f.Checked arguments ∧
          f.format.rule.accepts draft = false ∧ .refusedUrl draft = e := by
  rw [Formatter.url, Outcome.bind_eq_error]
  refine or_congr_right (exists_congr fun draft => and_congr_right fun _ => ?_)
  split
  · rename_i hchecked
    have hchecked : f.Checked arguments := by simpa [Checked] using hchecked
    rw [Outcome.bind_eq_error, UrlRule.check_eq_error]
    simp [hchecked]
  · rename_i hunchecked
    have hunchecked : ¬ f.Checked arguments := by simpa [Checked] using hunchecked
    simp [hunchecked]

theorem url_error_ofCall {e : RouteError} (h : f.url arguments search = .error e) : e.OfCall := by
  rcases url_eq_error.mp h with hdraft | ⟨draft, _, _, _, rfl⟩
  · exact (draft_error_ofValues hdraft).ofCall
  · exact .refusedUrl draft

theorem url_eq_refused {draft : Text} :
    f.url arguments search = .error (.refusedUrl draft) ↔
      f.draft arguments search = .ok draft ∧ f.Checked arguments ∧
        f.format.rule.accepts draft = false := by
  rw [url_eq_error]
  constructor
  · intro h
    rcases h with hdraft | ⟨draft', hdraft, hchecked, hrefused, heq⟩
    · cases draft_error_ofValues hdraft
    · cases heq
      exact ⟨hdraft, hchecked, hrefused⟩
  · intro h
    obtain ⟨hdraft, hchecked, hrefused⟩ := h
    exact .inr ⟨draft, hdraft, hchecked, hrefused, rfl⟩

end Formatter

end RouteTree
