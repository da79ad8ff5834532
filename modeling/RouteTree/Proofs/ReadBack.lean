import RouteTree.Proofs.Calls
import RouteTree.Proofs.Compilation
import RouteTree.Proofs.Decoding

namespace RouteTree

/-! No encoded value puts a delimiter into a URL, so that its pieces show what it was made from. -/

theorem Value.not_mem_rendered {c : Char} (hc : Text.IsDelimiter c) (value : Value) :
    c ∉ value.rendered true :=
  Text.not_mem_percentEncode hc value.text

theorem Value.percentDecode?_rendered (value : Value) :
    (value.rendered true).percentDecode? = some value.text :=
  Text.percentDecode?_percentEncode value.text

namespace Segment

variable {sigil c : Char} {arguments : PathArguments}

theorem not_mem_shown {segment : Segment} (hc : Text.IsDelimiter c)
    (hpiece : c ∉ segment.piece sigil) : c ∉ segment.shown true sigil arguments := by
  cases segment with
  | literal text => exact hpiece
  | parameter name =>
      rw [shown]
      cases arguments.value? name with
      | some value => exact Value.not_mem_rendered hc value
      | none => exact hpiece

/-- A literal stands as it is, a value is encoded, and a name without a value keeps its sigil. -/
def ReadsAs (sigil : Char) (arguments : PathArguments) (segment : Segment) (piece : Text) : Prop :=
  match segment with
  | .literal text => piece = text
  | .parameter name =>
      match arguments.value? name with
      | some value => piece.percentDecode? = some value.text
      | none => piece = sigil :: name

theorem readsAs_shown (segment : Segment) :
    segment.ReadsAs sigil arguments (segment.shown true sigil arguments) := by
  cases segment with
  | literal text => rfl
  | parameter name =>
      rw [ReadsAs, shown]
      cases arguments.value? name with
      | some value => exact Value.percentDecode?_rendered value
      | none => rfl

end Segment

namespace PathTemplate

variable {sigil c : Char} {source : Text} {arguments : PathArguments}

theorem mem_piece_parse {segment : Segment} (hsegment : segment ∈ (parse sigil source).segments)
    (hc : c ∈ segment.piece sigil) : c ∈ source ∧ c ≠ '/' := by
  rw [parse, List.mem_map] at hsegment
  obtain ⟨piece, hpiece, rfl⟩ := hsegment
  rw [Segment.piece_ofPiece] at hc
  exact Text.mem_of_mem_splitOn (Text.mem_pieces.mp hpiece).1 hc

def shownTexts (p : PathTemplate) (arguments : PathArguments) : List Text :=
  p.segments.map (Segment.shown true p.sigil arguments)

theorem not_mem_shownTexts (hc : Text.IsDelimiter c) (hsource : c ∉ source ∨ c = '/') {text : Text}
    (htext : text ∈ (parse sigil source).shownTexts arguments) : c ∉ text := by
  rw [shownTexts, List.mem_map] at htext
  obtain ⟨segment, hsegment, rfl⟩ := htext
  apply Segment.not_mem_shown hc
  intro hpiece
  obtain ⟨hmem, hslash⟩ := mem_piece_parse hsegment hpiece
  rcases hsource with hsource | hc
  · exact hsource hmem
  · exact hslash hc

theorem splitOn_shownTexts (hsegments : (parse sigil source).segments ≠ []) :
    (Text.join ['/'] ((parse sigil source).shownTexts arguments)).splitOn '/' =
      (parse sigil source).shownTexts arguments := by
  refine List.splitOn_intercalate '/' ?_ ?_
  · intro text htext
    exact not_mem_shownTexts (by decide) (.inr rfl) htext
  · simpa [shownTexts] using hsegments

theorem not_mem_shown (hsource : '?' ∉ source) :
    '?' ∉ (parse sigil source).shown true arguments := by
  have hjoin : '?' ∉ Text.join ['/'] ((parse sigil source).shownTexts arguments) := by
    intro hmem
    rcases Text.mem_join hmem with hslash | ⟨text, htext, hmem⟩
    · simp at hslash
    · exact not_mem_shownTexts (by decide) (.inl hsource) htext hmem
  rw [shown, assemble]
  split
  · intro hmem
    rcases List.mem_cons.mp hmem with hslash | hmem
    · cases hslash
    · exact hjoin hmem
  · exact hjoin

end PathTemplate

namespace Query

def decodePair? (piece : Text) : Option (Text × Text) :=
  (piece.cut '=').1.percentDecode?.bind fun key =>
    (piece.cut '=').2.bind fun rest => rest.percentDecode?.map (key, ·)

theorem decodePair?_pairText (entry : Text × Value) :
    decodePair? (pairText true entry) = some (entry.1, entry.2.text) := by
  have hkey : '=' ∉ entry.1.percentEncode := Text.not_mem_percentEncode (by decide) entry.1
  have hcut : (pairText true entry).cut '=' =
      (entry.1.percentEncode, some (entry.2.rendered true)) := Text.cut_append hkey _
  simp [decodePair?, hcut, Text.percentDecode?_percentEncode, Value.percentDecode?_rendered]

theorem not_mem_pairText (entry : Text × Value) : '&' ∉ pairText true entry := by
  have hkey : '&' ∉ entry.1.percentEncode := Text.not_mem_percentEncode (by decide) entry.1
  have hvalue : '&' ∉ entry.2.rendered true := Value.not_mem_rendered (by decide) entry.2
  intro hmem
  rcases List.mem_append.mp hmem with hmem | hmem
  · exact hkey hmem
  · rcases List.mem_cons.mp hmem with hequals | hmem
    · cases hequals
    · exact hvalue hmem

def entries : Option (Bindings Value) → Entries Value
  | none => []
  | some values => values.entries

theorem optionalText_of_entries_eq_nil {encode : Bool} {search : Option (Bindings Value)}
    (h : entries search = []) : optionalText encode search = [] := by
  cases search with
  | none => rfl
  | some values =>
      rw [entries] at h
      simp [optionalText, text, Bindings.isEmpty, h]

theorem optionalText_of_entries_ne_nil {encode : Bool} {search : Option (Bindings Value)}
    (h : entries search ≠ []) :
    optionalText encode search =
      '?' :: Text.join ['&'] ((entries search).map (pairText encode)) := by
  cases search with
  | none => exact absurd rfl h
  | some values =>
      rw [entries] at h
      simp [optionalText, text, Bindings.isEmpty, entries, h]

theorem map_decodePair?_splitOn {entries : Entries Value} (h : entries ≠ []) :
    ((Text.join ['&'] (entries.map (pairText true))).splitOn '&').map decodePair? =
      entries.map fun entry => some (entry.1, entry.2.text) := by
  have hsplit : (Text.join ['&'] (entries.map (pairText true))).splitOn '&' =
      entries.map (pairText true) := by
    refine List.splitOn_intercalate '&' ?_ ?_
    · intro piece hpiece
      obtain ⟨entry, _, rfl⟩ := List.mem_map.mp hpiece
      exact not_mem_pairText entry
    · simpa using h
  rw [hsplit, List.map_map]
  exact List.map_congr_left fun entry _ => decodePair?_pairText entry

end Query

/-- What a reader finds in a URL of a template by cutting it at its delimiters. -/
structure ReadsBack (options : FormatOptions) (template : Text) (arguments : PathArguments)
    (search : Option (Bindings Value)) (url : Text) : Prop where
  path : (PathTemplate.parse options.sigil (template.cut '?').1).fill options.strictKeys true
    template (some arguments) = .ok (url.cut '?').1
  query : Query.optionalText true search = ((url.cut '?').2.map ('?' :: ·)).getD []
  unmarked : Query.entries search = [] → '?' ∉ url
  segments : ∃ rest,
    (url.cut '?').1 = (if template.head? = some '/' then '/' :: rest else rest) ∧
      ((PathTemplate.parse options.sigil (template.cut '?').1).segments ≠ [] →
        List.Forall₂ (Segment.ReadsAs options.sigil arguments)
          (PathTemplate.parse options.sigil (template.cut '?').1).segments (rest.splitOn '/'))
  entries : Query.entries search ≠ [] → ∃ query, (url.cut '?').2 = some query ∧
    (query.splitOn '&').map Query.decodePair? =
      (Query.entries search).map fun entry => some (entry.1, entry.2.text)

namespace PathTemplate

theorem shown_parse_eq (sigil : Char) (template : Text) (arguments : PathArguments) :
    ∃ rest,
      (parse sigil (template.cut '?').1).shown true arguments =
          (if template.head? = some '/' then '/' :: rest else rest) ∧
        ((parse sigil (template.cut '?').1).segments ≠ [] →
          List.Forall₂ (Segment.ReadsAs sigil arguments)
            (parse sigil (template.cut '?').1).segments (rest.splitOn '/')) := by
  have hslash : (parse sigil (template.cut '?').1).leadingSlash = true ↔
      template.head? = some '/' := by
    rw [leadingSlash, beq_iff_eq]
    exact Text.head?_cut_fst (by decide) template
  refine ⟨Text.join ['/'] ((parse sigil (template.cut '?').1).shownTexts arguments), ?_, ?_⟩
  · rw [shown, assemble]
    exact if_congr hslash rfl rfl
  · intro hsegments
    rw [splitOn_shownTexts hsegments, shownTexts, List.forall₂_map_right_iff, List.forall₂_same]
    intro segment _
    exact Segment.readsAs_shown segment

end PathTemplate

theorem ReadsBack.of_fill {options : FormatOptions} {template : Text} {arguments : PathArguments}
    {search : Option (Bindings Value)} {path : Text}
    (hpath : (PathTemplate.parse options.sigil (template.cut '?').1).fill options.strictKeys true
      template (some arguments) = .ok path) :
    ReadsBack options template arguments search (path ++ Query.optionalText true search) := by
  have hshown := (PathTemplate.fill_eq_ok.mp hpath).2
  have hmark : '?' ∉ path := by
    rw [← hshown]
    exact PathTemplate.not_mem_shown (Text.not_mem_cut_fst '?' template)
  have hsegments := PathTemplate.shown_parse_eq options.sigil template arguments
  rw [hshown] at hsegments
  by_cases hentries : Query.entries search = []
  · rw [Query.optionalText_of_entries_eq_nil hentries, List.append_nil]
    have hcut : path.cut '?' = (path, none) := Text.cut_of_not_mem hmark
    exact {
      path := by rw [hcut, hpath]
      query := by rw [hcut, Query.optionalText_of_entries_eq_nil hentries]; rfl
      unmarked := fun _ => hmark
      segments := by rw [hcut]; exact hsegments
      entries := fun h => absurd hentries h
    }
  · have htext : Query.optionalText true search = _ :=
      Query.optionalText_of_entries_ne_nil hentries
    have hcut := Text.cut_append hmark
      (Text.join ['&'] ((Query.entries search).map (Query.pairText true)))
    rw [← htext] at hcut
    exact {
      path := by rw [hcut, hpath]
      query := by rw [hcut, htext]; rfl
      unmarked := fun h => absurd h hentries
      segments := by rw [hcut]; exact hsegments
      entries := fun _ => ⟨_, by rw [hcut], Query.map_decodePair?_splitOn hentries⟩
    }

theorem Route.url_readsBack {options : FormatOptions} {template url : Text} {r : Route}
    {arguments : PathArguments} {search : Option (Bindings Value)}
    (hencode : options.percentEncode = true) (hroute : Route.ofPath template options = .ok r)
    (hurl : r.url (some arguments) search = .ok url) :
    ReadsBack options template arguments search url := by
  obtain ⟨rule, _, hr⟩ := Route.ofPath_eq_ok.mp hroute
  rw [Route.ofTemplate_eq, Formatter.compile_eq_ok] at hr
  obtain ⟨_, rfl⟩ := hr
  rw [Route.url_some] at hurl
  obtain ⟨draft, hdraft, _, rfl⟩ := Formatter.url_eq_ok.mp hurl
  obtain ⟨path, query, hpath, hquery, rfl⟩ := Formatter.draft_eq_ok.mp hdraft
  obtain ⟨_, rfl⟩ := Query.checkedText_eq_ok.mp hquery
  simp only [Formatter.route, Formatter.ofTemplate, FormatOptions.toFormat, hencode] at hpath ⊢
  exact .of_fill hpath

theorem Route.url_readsBack_escaped :
    let options : FormatOptions := ⟨false, .off, ':', true⟩
    let template : Text := ['/', 'a', '/', ':', 'i', '/', ':', 'j', '?', 'q']
    let arguments : PathArguments := .named (.ofList [(['i'], .string ['/', '?', 'é', '%'])])
    let search : Option (Bindings Value) := some (.ofList [(['q', '&'], .string ['=', ' '])])
    ∃ r url, options.percentEncode = true ∧ Route.ofPath template options = .ok r ∧
      r.url (some arguments) search = .ok url ∧
      ReadsBack options template arguments search url :=
  ⟨_, _, rfl, rfl, rfl, url_readsBack rfl rfl rfl⟩

end RouteTree
