import RouteTree.Proofs.Calls
import RouteTree.Proofs.Mirror

namespace RouteTree

namespace Formatter

variable {f : Formatter} {arguments : Option PathArguments} {search : Option (Bindings Value)}

theorem parameterCount_of_isConstant (h : f.isConstant = true) : f.path.parameterCount = 0 := by
  rw [isConstant, Bool.and_eq_true, beq_iff_eq] at h
  exact h.1

theorem draft_none (f : Formatter) : f.draft none none = .ok f.path.source :=
  draft_eq_ok.mpr ⟨f.path.source, [], rfl, rfl, List.append_nil f.path.source⟩

theorem accepts_source (hadmitted : f.isAdmitted = true) (hconstant : f.isConstant = true) :
    f.format.rule.accepts f.path.source = true := by
  simpa [isAdmitted, hconstant] using hadmitted

theorem url_none_of_isConstant (hadmitted : f.isAdmitted = true)
    (hconstant : f.isConstant = true) :
    f.url none none = .ok (f.format.prepend ++ f.path.source) :=
  url_eq_ok.mpr ⟨f.path.source, f.draft_none, fun _ => accepts_source hadmitted hconstant, rfl⟩

theorem route_url (hadmitted : f.isAdmitted = true) (arguments : Option PathArguments)
    (search : Option (Bindings Value)) :
    f.route.url arguments search = f.url arguments search := by
  unfold Route.url
  split
  · rename_i url hurl
    obtain ⟨hconstant, rfl⟩ := route_constant_eq_some.mp hurl
    exact (url_none_of_isConstant hadmitted hconstant).symm
  · rfl

end Formatter

/-- The answers of a route are checked URLs with the text of the format in front. -/
structure Route.Vetted (format : Format) (path : PathTemplate) (r : Route) : Prop where
  answered : ∀ arguments search url, r.url arguments search = .ok url →
    ∃ draft, url = format.prepend ++ draft ∧
      (format.rule.accepts draft = true ∨ arguments = none ∧ path.parameters ≠ [])
  refused : ∀ arguments search draft, r.url arguments search = .error (.refusedUrl draft) →
    (∃ shown, path.fill format.strict format.encode r.template arguments = .ok shown ∧
        draft = shown ++ Query.optionalText format.encode search) ∧
      format.rule.accepts draft = false
  constant : ∀ url, r.constant = some url →
    ∃ draft, url = format.prepend ++ draft ∧ format.rule.accepts draft = true
  /-- Without any values a path with parameters shows itself, checked by nobody. -/
  placeholders : path.parameters ≠ [] → r.url none none = .ok (format.prepend ++ path.source)

theorem Formatter.vetted {f : Formatter} (h : f.isAdmitted = true) :
    f.route.Vetted f.format f.path where
  answered := by
    intro arguments search url hurl
    rw [route_url h] at hurl
    obtain ⟨draft, _, haccepts, rfl⟩ := url_eq_ok.mp hurl
    refine ⟨draft, rfl, ?_⟩
    by_cases hchecked : f.Checked arguments
    · exact .inl (haccepts hchecked)
    · rw [Checked, not_or] at hchecked
      refine .inr ⟨by simpa using hchecked.1, ?_⟩
      intro hnone
      apply hchecked.2
      rw [PathTemplate.parameterCount, hnone, List.length_nil]
  refused := by
    intro arguments search draft hurl
    rw [route_url h] at hurl
    obtain ⟨hdraft, _, hrefused⟩ := url_eq_refused.mp hurl
    obtain ⟨shown, query, hshown, hquery, rfl⟩ := draft_eq_ok.mp hdraft
    obtain ⟨_, rfl⟩ := Query.checkedText_eq_ok.mp hquery
    exact ⟨⟨shown, hshown, rfl⟩, hrefused⟩
  constant := by
    intro url hurl
    obtain ⟨hconstant, rfl⟩ := route_constant_eq_some.mp hurl
    exact ⟨f.path.source, rfl, accepts_source h hconstant⟩
  placeholders := by
    intro hparameters
    rw [route_url h]
    refine url_eq_ok.mpr ⟨f.path.source, f.draft_none, ?_, rfl⟩
    intro hchecked
    rcases hchecked with harguments | hcount
    · cases harguments
    · exact absurd (List.length_eq_zero_iff.mp hcount) hparameters

inductive Format.Vets (format : Format) : Place → Entry → Prop
  | leaf {bases : List Text} {fragment : Text} {r : Route}
      (template : r.template = bases.flatten ++ fragment)
      (vetted : r.Vetted format (.parse format.sigil (Text.cut '?' (bases.flatten ++ fragment)).1)) :
      Vets format (.node bases (.leaf fragment)) (.route r)
  | branch {bases : List Text} {base : Text} {children : List (Text × Node)} {t : Table}
      (prefixed : t.base = format.prepend ++ (bases ++ [base]).flatten)
      (accepted : format.rule.accepts (bases ++ [base]).flatten = true) :
      Vets format (.node bases (.branch base children)) (.ofTable t)
  | base {bases : List Text} {r : Route}
      (template : r.template = bases.flatten)
      (vetted : r.Vetted format (.verbatim format.sigil bases.flatten)) :
      Vets format (.base bases) (.route r)

namespace Compiler

variable {c : Compiler}

theorem vetted_of_ofTemplate {template : Text} {r : Route}
    (h : Route.ofTemplate c.format template = .ok r) :
    r.Vetted c.format (.parse c.format.sigil (template.cut '?').1) := by
  obtain ⟨hadmitted, rfl⟩ := Route.ofTemplate_eq_ok.mp h
  exact Formatter.vetted hadmitted

theorem vetted_of_ofBase {base : Text} {r : Route} (h : Route.ofBase c.format base = .ok r) :
    r.template = base ∧ c.format.rule.accepts base = true ∧
      r.Vetted c.format (.verbatim c.format.sigil base) := by
  obtain ⟨hadmitted, rfl⟩ := Route.ofBase_eq_ok.mp h
  have hconstant := Formatter.ofBase_isConstant c.format base
  exact ⟨rfl, Formatter.accepts_source hadmitted hconstant, Formatter.vetted hadmitted⟩

theorem Yields.vets {place : Place} {entry : Entry} (h : c.Yields place entry) :
    c.format.Vets place entry := by
  cases place with
  | node bases n =>
      cases n with
      | leaf fragment =>
          obtain ⟨r, hroute, rfl⟩ := h.leaf
          exact .leaf (template_of_ofTemplate hroute) (vetted_of_ofTemplate hroute)
      | branch base children =>
          obtain ⟨root, rest, hroot, rfl⟩ := h.branch
          obtain ⟨_, haccepts, _⟩ := vetted_of_ofBase hroot
          exact .branch (t := ⟨_, _⟩) (base_of_root hroot rest) haccepts
  | base bases =>
      cases h with
      | base hcompiled =>
          obtain ⟨htemplate, _, hvetted⟩ := vetted_of_ofBase hcompiled
          exact .base htemplate hvetted

end Compiler

/-- Whatever row of keys is followed, what stands at its end gives out checked URLs only. -/
theorem Branch.compile_vetted {b : Branch} {options : Options} {t : Table}
    (h : b.compile options = .ok t) :
    ∃ rule, UrlRule.ofCheck options.format.check = .ok rule ∧
      ∀ keys, Option.Rel (options.format.toFormat rule options.prepend).Vets
        (b.place? options.baseKey keys) (t.follow? keys) := by
  obtain ⟨c, hc, hyields⟩ := compile_yields h
  obtain ⟨rule, hrule, rfl⟩ := Compiler.ofOptions_eq_ok.mp hc
  refine ⟨rule, hrule, ?_⟩
  intro keys
  exact rel_imp (fun _ _ hentry => hentry.vets) (hyields keys)

theorem Branch.compile_vetted_twoLevels :
    let options : Options := ⟨some ['h'], ['_'], true, ⟨true, .standard, ':', false⟩⟩
    ∃ t, twoLevels.compile options = .ok t ∧
      ∃ rule, UrlRule.ofCheck options.format.check = .ok rule ∧
        ∀ keys, Option.Rel (options.format.toFormat rule options.prepend).Vets
          (twoLevels.place? options.baseKey keys) (t.follow? keys) :=
  ⟨_, rfl, compile_vetted rfl⟩

end RouteTree
