import RouteTree.Proofs.Answers

namespace RouteTree

/-- The route keeps a URL that is the text with the prepended one in front. -/
structure Route.Keeps (format : Format) (text : Text) (r : Route) : Prop where
  constant : r.constant = some (format.prepend ++ text)
  bare : r.url none none = .ok (format.prepend ++ text) ∧
    r.formatter.url none none = .ok (format.prepend ++ text)
  empty : r.url none (some .empty) = .ok (format.prepend ++ text) ∧
    r.formatter.url none (some .empty) = .ok (format.prepend ++ text)
  searched : ∀ values, r.url none (some values) =
    if format.rule.accepts (text ++ Query.text format.encode values) then
      .ok (format.prepend ++ text ++ Query.text format.encode values)
    else .error (.refusedUrl (text ++ Query.text format.encode values))

theorem Formatter.keeps {f : Formatter} (hadmitted : f.isAdmitted = true)
    (hconstant : f.isConstant = true) : f.route.Keeps f.format f.path.source := by
  have hkeys : f.queryKeys = [] := by
    rw [isConstant, Bool.and_eq_true] at hconstant
    exact List.isEmpty_iff.mp hconstant.2
  have hchecked : ∀ search, f.url none search =
      f.format.checked (f.path.source ++ Query.optionalText f.format.encode search) :=
    fun _ => url_none_eq_checked (parameterCount_of_isConstant hconstant) fun _ => hkeys
  have hbare := url_none_of_isConstant hadmitted hconstant
  have hempty : f.url none (some .empty) = f.url none none := by
    rw [hchecked, hchecked]
    rfl
  constructor
  · exact route_constant_eq_some.mpr ⟨hconstant, rfl⟩
  · exact ⟨(route_url hadmitted none none).trans hbare, hbare⟩
  · exact ⟨(route_url hadmitted none (some .empty)).trans (hempty.trans hbare), hempty.trans hbare⟩
  · intro values
    rw [route_url hadmitted, hchecked, Format.checked_eq, List.append_assoc]
    rfl

/-- A constant template keeps its path, and a base the whole of it. What is kept is given out as it
is; search values are added to it, and only their text can make the check refuse it. -/
theorem Route.keeps_constant_urls (format : Format) :
    (∀ template r, ofTemplate format template = .ok r →
        (r.kind = .constant ↔ r.constant.isSome = true) ∧
          (r.kind = .constant → r.Keeps format (template.cut '?').1)) ∧
      ∀ base r, ofBase format base = .ok r → r.kind = .constant ∧ r.Keeps format base := by
  refine ⟨?_, ?_⟩
  · intro template r hr
    obtain ⟨hadmitted, rfl⟩ := ofTemplate_eq_ok.mp hr
    have hkind := Formatter.route_kind_eq_constant (f := Formatter.ofTemplate format template)
    refine ⟨hkind.trans Formatter.isSome_route_constant.symm, ?_⟩
    intro hconstant
    exact Formatter.keeps hadmitted (hkind.mp hconstant)
  · intro base r hr
    obtain ⟨hadmitted, rfl⟩ := ofBase_eq_ok.mp hr
    have hconstant := Formatter.ofBase_isConstant format base
    exact ⟨Formatter.route_kind_eq_constant.mpr hconstant,
      Formatter.keeps hadmitted hconstant⟩

theorem Route.keeps_constant_urls_unparsed :
    let format : Format := ⟨true, false, ':', .pattern (UrlRule.one 'a'), ['h']⟩
    let path : Text := ['/', '/', 'a', '/', ':']
    let base : Text := ['/', ':', 'a', '?']
    (∃ r, ofTemplate format (path ++ ['?']) = .ok r ∧ r.kind = .constant ∧ r.Keeps format path) ∧
      ∃ r, ofBase format base = .ok r ∧ r.Keeps format base := by
  intro format path base
  refine ⟨⟨_, rfl, rfl, ?_⟩, ⟨_, rfl, ?_⟩⟩
  · exact ((keeps_constant_urls format).1 (path ++ ['?']) _ rfl).2 rfl
  · exact ((keeps_constant_urls format).2 base _ rfl).2

end RouteTree
