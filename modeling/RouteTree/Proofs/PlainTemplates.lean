import RouteTree.Proofs.Answers
import RouteTree.Proofs.ReadBack
import RouteTree.Proofs.StandardPattern

namespace RouteTree

theorem Text.percentEncode_ne_nil {t : Text} (h : t ≠ []) : t.percentEncode ≠ [] := by
  intro hnil
  have hdecode := percentDecode?_percentEncode t
  rw [hnil] at hdecode
  have hempty := percentDecode?_percentEncode []
  exact h (Option.some.inj (hdecode.symm.trans hempty))

theorem Text.mem_pieces_of_mem {c d : Char} {t : Text} (h : c ∈ t) :
    c = d ∨ ∃ piece ∈ pieces d t, c ∈ piece := by
  have hjoin : c ∈ join [d] (t.splitOn d) := by
    rw [join, List.intercalate_splitOn]
    exact h
  rcases mem_join hjoin with hseparator | ⟨piece, hpiece, hc⟩
  · exact .inl (List.mem_singleton.mp hseparator)
  · exact .inr ⟨piece, mem_pieces.mpr ⟨hpiece, List.ne_nil_of_mem hc⟩, hc⟩

theorem Value.mem_rendered {c : Char} {value : Value} (h : c ∈ value.rendered true) :
    Text.isUnreserved c = true ∨ c = '%' :=
  Text.mem_percentEncode h

namespace PathTemplate

variable {sigil : Char} {source : Text} {arguments : PathArguments}

/-- A path that the standard check can object to only for what is put into it. -/
structure Plain (p : PathTemplate) : Prop where
  rooted : p.source.OpensWith '/'
  literals : ∀ text, .literal text ∈ p.segments → ∀ c ∈ text, Text.IsPathCharacter c

theorem Plain.mem_shown {p : PathTemplate} (h : p.Plain)
    (hvalues : ∀ name ∈ p.parameters, (arguments.value? name).isSome = true) {segment : Segment}
    (hsegment : segment ∈ p.segments) {c : Char}
    (hc : c ∈ segment.shown true p.sigil arguments) : Text.IsPathCharacter c := by
  cases segment with
  | literal text => exact h.literals text hsegment c hc
  | parameter name =>
      have hname : name ∈ p.parameters := mem_parameters.mpr ⟨_, hsegment, rfl⟩
      obtain ⟨value, hvalue⟩ := Option.isSome_iff_exists.mp (hvalues name hname)
      rw [Segment.shown, hvalue] at hc
      rcases Value.mem_rendered hc with hunreserved | hpercent
      · exact .inl hunreserved
      · exact .inr (.inl hpercent)

theorem Plain.isPath_shown (h : (parse sigil source).Plain)
    (hvalues : ∀ name ∈ (parse sigil source).parameters, (arguments.value? name).isSome = true) :
    UrlRule.IsPath ((parse sigil source).shown true arguments) := by
  have hjoin : ∀ c ∈ Text.join ['/'] ((parse sigil source).shownTexts arguments),
      c = '/' ∨ Text.IsPathCharacter c := by
    intro c hc
    rcases Text.mem_join hc with hslash | ⟨text, htext, hc⟩
    · exact .inl (List.mem_singleton.mp hslash)
    · obtain ⟨segment, hsegment, rfl⟩ := List.mem_map.mp htext
      exact .inr (h.mem_shown hvalues hsegment hc)
  -- An empty path has no segments; any other one has a slash in front of them.
  rcases Text.opensWith_iff.mp h.rooted with hnil | ⟨rest, hcons⟩
  · change source = [] at hnil
    subst hnil
    exact ⟨.inl rfl, nofun⟩
  · change source = '/' :: rest at hcons
    have hshown : (parse sigil source).shown true arguments =
        '/' :: Text.join ['/'] ((parse sigil source).shownTexts arguments) := by
      rw [shown, assemble, if_pos (by rw [hcons]; rfl)]
      rfl
    rw [hshown]
    exact ⟨.inr rfl, List.forall_mem_cons.mpr ⟨.inl rfl, hjoin⟩⟩

theorem Plain.isPath_source (h : (parse sigil source).Plain)
    (hnone : (parse sigil source).parameters = []) : UrlRule.IsPath source := by
  refine ⟨h.rooted, ?_⟩
  intro c hc
  rcases Text.mem_pieces_of_mem hc with hslash | ⟨piece, hpiece, hc⟩
  · exact .inl hslash
  · have hsegment : Segment.ofPiece sigil piece ∈ (parse sigil source).segments :=
      List.mem_map_of_mem hpiece
    have hpiece := Segment.piece_ofPiece sigil piece
    cases hread : Segment.ofPiece sigil piece with
    | literal text =>
        rw [hread] at hsegment hpiece
        obtain rfl : text = piece := hpiece
        exact .inr (h.literals text hsegment c hc)
    | parameter name =>
        rw [hread] at hsegment
        have hname : name ∈ (parse sigil source).parameters :=
          mem_parameters.mpr ⟨_, hsegment, rfl⟩
        rw [hnone] at hname
        cases hname

theorem Plain.isPath_fill (h : (parse sigil source).Plain) {strict : Bool} {route path : Text}
    {arguments : Option PathArguments}
    (hchecked : arguments.isSome = true ∨ (parse sigil source).parameterCount = 0)
    (hvalues : ∀ a ∈ arguments, ∀ name ∈ (parse sigil source).parameters,
      (a.value? name).isSome = true)
    (hfill : (parse sigil source).fill strict true route arguments = .ok path) :
    UrlRule.IsPath path := by
  cases arguments with
  | none =>
      cases hfill
      have hcount : (parse sigil source).parameterCount = 0 := hchecked.resolve_left (by simp)
      exact h.isPath_source (List.length_eq_zero_iff.mp hcount)
  | some a =>
      obtain ⟨_, rfl⟩ := fill_eq_ok.mp hfill
      exact h.isPath_shown (hvalues a rfl)

end PathTemplate

theorem Query.isPair_pairText {entry : Text × Value} (h : entry.1 ≠ []) :
    UrlRule.IsPair (pairText true entry) := by
  apply UrlRule.IsPair.intro (Text.percentEncode_ne_nil h)
  · intro c hc
    exact UrlRule.keyCharacter_contains.mpr (Text.mem_percentEncode hc)
  · intro c hc
    exact UrlRule.valueCharacter_contains_of_encoded (Value.mem_rendered hc)

theorem UrlRule.accepts_optionalText {path : Text} {search : Option (Bindings Value)}
    (hpath : IsPath path) (hkeys : ∀ values ∈ search, [] ∉ values.keys) :
    (UrlRule.pattern standard).accepts (path ++ Query.optionalText true search) = true := by
  by_cases hentries : Query.entries search = []
  · rw [Query.optionalText_of_entries_eq_nil hentries, List.append_nil]
    exact accepts_path hpath
  · rw [Query.optionalText_of_entries_ne_nil hentries]
    apply accepts_query hpath
    · simpa using hentries
    · intro pair hpair
      obtain ⟨entry, hentry, rfl⟩ := List.mem_map.mp hpair
      apply Query.isPair_pairText
      intro hempty
      cases search with
      | none => cases hentry
      | some values => exact hkeys values rfl (hempty ▸ List.mem_map_of_mem hentry)

namespace Formatter

variable {format : Format} {template : Text}

theorem ofTemplate_isAdmitted (hrule : format.rule = .pattern UrlRule.standard)
    (hplain : (PathTemplate.parse format.sigil (template.cut '?').1).Plain) :
    (ofTemplate format template).isAdmitted = true := by
  by_cases hconstant : (ofTemplate format template).isConstant = true
  · have hnone := List.length_eq_zero_iff.mp (parameterCount_of_isConstant hconstant)
    have haccepts := UrlRule.accepts_path (hplain.isPath_source hnone)
    rw [← hrule] at haccepts
    rw [isAdmitted, hconstant]
    exact haccepts
  · simp [isAdmitted, hconstant]

theorem ofTemplate_url_ne_refused (hrule : format.rule = .pattern UrlRule.standard)
    (hencode : format.encode = true)
    (hplain : (PathTemplate.parse format.sigil (template.cut '?').1).Plain)
    {arguments : Option PathArguments} {search : Option (Bindings Value)}
    (hvalues : ∀ a ∈ arguments, ∀ name ∈ (ofTemplate format template).path.parameters,
      (a.value? name).isSome = true)
    (hkeys : ∀ values ∈ search, [] ∉ values.keys) (url : Text) :
    (ofTemplate format template).url arguments search ≠ .error (.refusedUrl url) := by
  intro hurl
  obtain ⟨hdraft, hchecked, hrefused⟩ := url_eq_refused.mp hurl
  obtain ⟨path, query, hpath, hquery, rfl⟩ := draft_eq_ok.mp hdraft
  obtain ⟨_, rfl⟩ := Query.checkedText_eq_ok.mp hquery
  change format.rule.accepts (path ++ Query.optionalText format.encode search) = false at hrefused
  change (PathTemplate.parse _ _).fill _ format.encode _ _ = _ at hpath
  rw [hencode] at hpath hrefused
  rw [hrule, UrlRule.accepts_optionalText (hplain.isPath_fill hchecked hvalues hpath) hkeys]
    at hrefused
  cases hrefused

end Formatter

/-- A plain template becomes a route that refuses no URL, provided that every parameter has a value
when there are arguments, and every key of the search a character. -/
theorem Route.ofPath_refuses_no_url {template : Text} {options : FormatOptions}
    (hencode : options.percentEncode = true) (hcheck : options.check = .standard)
    (hplain : (PathTemplate.parse options.sigil (template.cut '?').1).Plain) :
    ∃ r, Route.ofPath template options = .ok r ∧
      ∀ arguments search,
        (∀ a ∈ arguments, ∀ name ∈ r.parameters, (a.value? name).isSome = true) →
        (∀ values ∈ search, [] ∉ values.keys) →
        ∀ url, r.url arguments search ≠ .error (.refusedUrl url) := by
  have hrule : UrlRule.ofCheck options.check = .ok (.pattern UrlRule.standard) := by
    rw [hcheck]
    rfl
  let format := options.toFormat (.pattern UrlRule.standard) none
  have hadmitted : (Formatter.ofTemplate format template).isAdmitted = true :=
    Formatter.ofTemplate_isAdmitted rfl hplain
  refine ⟨(Formatter.ofTemplate format template).route, ?_, ?_⟩
  · exact ofPath_eq_ok.mpr ⟨_, hrule, ofTemplate_eq_ok.mpr ⟨hadmitted, rfl⟩⟩
  · intro arguments search hvalues hkeys url
    rw [Formatter.route_url hadmitted]
    exact Formatter.ofTemplate_url_ne_refused rfl hencode hplain hvalues hkeys url

theorem Route.ofPath_refuses_no_url_loneSigils :
    let options : FormatOptions := ⟨true, .standard, ':', true⟩
    let template : Text := ['/', 'a', '%', '/', '/', ':', 'i', '/', ':', '/', ':', '?', '?', 'q']
    let arguments : PathArguments := .named (.ofList [(['i'], .string ['/', '?'])])
    let search : Bindings Value := .ofList [(['?', 'q'], .string ['&'])]
    (PathTemplate.parse options.sigil (Text.cut '?' template).1).Plain ∧
      ∃ r, Route.ofPath template options = .ok r ∧
        (∀ name ∈ r.parameters, (arguments.value? name).isSome = true) ∧ [] ∉ search.keys ∧
        (∀ url, r.url (some arguments) (some search) ≠ .error (.refusedUrl url)) ∧
        r.url (some arguments) (some search) =
          .ok ['/', 'a', '%', '/', '%', '2', 'F', '%', '3', 'F', '/', ':', '/', ':',
            '?', '%', '3', 'F', 'q', '=', '%', '2', '6'] := by
  intro options template arguments search
  have hplain : (PathTemplate.parse options.sigil (Text.cut '?' template).1).Plain := by
    refine ⟨by decide, ?_⟩
    intro text htext
    have hsegments : (PathTemplate.parse options.sigil (Text.cut '?' template).1).segments =
        [.literal ['a', '%'], .parameter ['i'], .literal [':'], .literal [':']] := by decide
    rw [hsegments] at htext
    simp only [List.mem_cons, Segment.literal.injEq, List.not_mem_nil, or_false, false_or,
      reduceCtorEq] at htext
    have hcolon : ∀ c ∈ [':'], Text.IsPathCharacter c := List.forall_mem_singleton.mpr (by decide)
    rcases htext with rfl | rfl | rfl
    · exact List.forall_mem_cons.mpr ⟨by decide, List.forall_mem_singleton.mpr (by decide)⟩
    · exact hcolon
    · exact hcolon
  -- A call is only evaluated with its template and values in place of their names.
  obtain ⟨r, hroute, hparameters, hurl⟩ : ∃ r, Route.ofPath template options = .ok r ∧
      r.parameters = [['i']] ∧ r.url (some arguments) (some search) =
        .ok ['/', 'a', '%', '/', '%', '2', 'F', '%', '3', 'F', '/', ':', '/', ':',
          '?', '%', '3', 'F', 'q', '=', '%', '2', '6'] := by
    subst options template arguments search
    exact ⟨_, rfl, rfl, rfl⟩
  have hvalues : ∀ name ∈ r.parameters, (arguments.value? name).isSome = true := by
    rw [hparameters]
    exact List.forall_mem_singleton.mpr rfl
  have hkeys : [] ∉ search.keys := by decide
  refine ⟨hplain, r, hroute, hvalues, hkeys, ?_, hurl⟩
  obtain ⟨s, hs, hcalls⟩ := ofPath_refuses_no_url rfl rfl hplain
  obtain rfl : s = r := Except.ok.inj (hs.symm.trans hroute)
  apply hcalls (some arguments) (some search)
  · rintro _ ⟨⟩
    exact hvalues
  · rintro _ ⟨⟩
    exact hkeys

end RouteTree
