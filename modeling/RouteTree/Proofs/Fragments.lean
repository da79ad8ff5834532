import RouteTree.Proofs.Places

namespace RouteTree

/-! Where leading slashes are enforced, no segment begins in one fragment and ends in the next. -/

namespace PathTemplate

variable {sigil : Char} {parts : List Text}

theorem segments_parse_flatten (h : ∀ part ∈ parts, part.OpensWith '/') :
    (parse sigil parts.flatten).segments = parts.flatMap fun part => (parse sigil part).segments := by
  simp only [parse, Text.pieces_flatten h, List.map_flatMap]

theorem parameters_parse_flatten (h : ∀ part ∈ parts, part.OpensWith '/') :
    (parse sigil parts.flatten).parameters =
      parts.flatMap fun part => (parse sigil part).parameters := by
  simp only [parameters, segments_parse_flatten h, List.filterMap_flatMap]

end PathTemplate

def Place.fragments : Place → List Text
  | .node bases (.leaf fragment) => bases ++ [fragment]
  | .node bases (.branch own _) => bases ++ [own]
  | .base bases => bases

namespace Compiler

variable {c : Compiler}

theorem checkSlash_eq_ok {fragment label : Text} :
    c.checkSlash fragment label = .ok () ↔
      (c.enforceLeadingSlash = true → fragment.OpensWith '/') := by
  rw [checkSlash]
  cases fragment with
  | nil => simp [Text.OpensWith]
  | cons first rest => cases c.enforceLeadingSlash <;> simp [Text.OpensWith]

theorem opensWith_append {bases : List Text} {fragment label : Text}
    (henforced : c.enforceLeadingSlash = true) (hbases : ∀ base ∈ bases, base.OpensWith '/')
    (hslash : c.checkSlash fragment label = .ok ()) :
    ∀ part ∈ bases ++ [fragment], part.OpensWith '/' := by
  intro part hpart
  rcases List.mem_append.mp hpart with hbase | hfragment
  · exact hbases part hbase
  · rw [List.mem_singleton.mp hfragment]
    exact checkSlash_eq_ok.mp hslash henforced

theorem opensWith_of_place {n : Node} {bases : List Text} {above label key : Text} {entry : Entry}
    (henforced : c.enforceLeadingSlash = true) (hbases : ∀ base ∈ bases, base.OpensWith '/')
    (h : c.compileNode above label key n = .ok entry) {keys : List Text} {place : Place}
    (hplace : n.place? c.baseKey bases keys = some place) :
    ∀ part ∈ place.fragments, part.OpensWith '/' := by
  -- Each key on the way goes below a branch whose base has been checked.
  induction keys generalizing n bases above label key entry with
  | nil =>
      cases hplace
      cases n with
      | leaf fragment =>
          exact opensWith_append henforced hbases (compileNode_leaf_eq_ok.mp h).1
      | branch base children =>
          exact opensWith_append henforced hbases (compileNode_branch_eq_ok.mp h).1
  | cons first rest ih =>
      cases n with
      | leaf fragment => cases hplace
      | branch base children =>
          obtain ⟨hslash, _, entries, _, hentries, _⟩ := compileNode_branch_eq_ok.mp h
          have hparts := opensWith_append henforced hbases hslash
          rw [Node.place?] at hplace
          split at hplace
          · split at hplace
            · cases hplace
              exact hparts
            · cases hplace
          · obtain ⟨child, hchild, hrest⟩ := Option.bind_eq_some_iff.mp hplace
            obtain ⟨_, _, hcompiled⟩ := exists_of_compileChildren hentries hchild
            exact ih hparts hcompiled.compiled hrest

end Compiler

theorem Branch.opensWith_of_place {b : Branch} {options : Options} {t : Table}
    (henforced : options.enforceLeadingSlash = true) (h : b.compile options = .ok t)
    {keys : List Text} {place : Place} (hplace : b.place? options.baseKey keys = some place) :
    ∀ part ∈ place.fragments, part.OpensWith '/' := by
  obtain ⟨c, hc, hroot⟩ := compile_eq_ok.mp h
  obtain ⟨_, _, rfl⟩ := Compiler.ofOptions_eq_ok.mp hc
  exact Compiler.opensWith_of_place henforced (List.forall_mem_nil _) hroot hplace

/-- The segments are those of the fragments, each parsed alone, and only the last fragment declares
query keys. -/
structure Route.MadeOf (sigil : Char) (bases : List Text) (fragment : Text) (r : Route) : Prop where
  segments : r.formatter.path.segments =
    (bases.flatMap fun base => (PathTemplate.parse sigil base).segments) ++
      (PathTemplate.parse sigil (fragment.cut '?').1).segments
  parameters : r.parameters =
    (bases.flatMap fun base => (PathTemplate.parse sigil base).parameters) ++
      (PathTemplate.parse sigil (fragment.cut '?').1).parameters
  queryKeys : r.queryKeys = ((fragment.cut '?').2.map Query.declaredKeys).getD []

theorem Route.madeOf {format : Format} {bases : List Text} {fragment : Text} {r : Route}
    (hr : Route.ofTemplate format (bases.flatten ++ fragment) = .ok r)
    (hmark : ∀ base ∈ bases, '?' ∉ base)
    (hslash : ∀ part ∈ bases ++ [fragment], part.OpensWith '/') :
    r.MadeOf format.sigil bases fragment := by
  obtain ⟨_, rfl⟩ := ofTemplate_eq_ok.mp hr
  have hnone : '?' ∉ bases.flatten := by
    intro hmem
    obtain ⟨base, hbase, hmem⟩ := List.mem_flatten.mp hmem
    exact hmark base hbase hmem
  have hcut : Text.cut '?' (bases.flatten ++ fragment) =
      ((bases ++ [(fragment.cut '?').1]).flatten, (fragment.cut '?').2) := by
    rw [Text.cut_append_of_not_mem hnone, List.flatten_append, List.flatten_singleton]
  have hparts : ∀ part ∈ bases ++ [(fragment.cut '?').1], part.OpensWith '/' := by
    rw [List.forall_mem_append] at hslash ⊢
    refine ⟨hslash.1, ?_⟩
    intro part hpart
    rw [List.mem_singleton.mp hpart]
    exact (hslash.2 fragment (List.mem_singleton_self fragment)).cut (by decide)
  constructor
  · simp only [Formatter.route, Formatter.ofTemplate, hcut,
      PathTemplate.segments_parse_flatten hparts, List.flatMap_append, List.flatMap_singleton]
  · simp only [Route.parameters, Formatter.route, Formatter.ofTemplate, hcut,
      PathTemplate.parameters_parse_flatten hparts, List.flatMap_append, List.flatMap_singleton]
  · simp only [Route.queryKeys, Formatter.route, Formatter.ofTemplate, hcut]

theorem Branch.compile_madeOf {b : Branch} {options : Options} {t : Table}
    (henforced : options.enforceLeadingSlash = true) (h : b.compile options = .ok t)
    {keys bases : List Text} {fragment : Text}
    (hplace : b.place? options.baseKey keys = some (.node bases (.leaf fragment)))
    (hmark : ∀ base ∈ bases, '?' ∉ base) :
    ∃ r, t.follow? keys = some (.route r) ∧ r.MadeOf options.format.sigil bases fragment := by
  obtain ⟨c, hc, hyields⟩ := compile_yields h
  obtain ⟨rule, _, rfl⟩ := Compiler.ofOptions_eq_ok.mp hc
  obtain ⟨entry, hentry, hyielded⟩ := exists_of_rel_some (hplace ▸ hyields keys)
  cases hyielded with
  | node hcompiled =>
      obtain ⟨_, r, hr, rfl⟩ := Compiler.compileNode_leaf_eq_ok.mp hcompiled
      exact ⟨r, hentry, Route.madeOf hr hmark (opensWith_of_place henforced h hplace)⟩

theorem Branch.compile_madeOf_twoLevels :
    let options : Options := ⟨none, ['_'], true, .initial⟩
    let bases : List Text := [['/', 'a'], ['/', 'p']]
    let fragment : Text := ['/', ':', 'i', '/', ':', 'i']
    ∃ t, options.enforceLeadingSlash = true ∧ twoLevels.compile options = .ok t ∧
      twoLevels.place? options.baseKey [['P'], ['G']] = some (.node bases (.leaf fragment)) ∧
      (∀ base ∈ bases, '?' ∉ base) ∧
      ∃ r, t.follow? [['P'], ['G']] = some (.route r) ∧
        r.MadeOf options.format.sigil bases fragment := by
  intro options bases fragment
  have hplace : twoLevels.place? options.baseKey [['P'], ['G']] =
      some (.node bases (.leaf fragment)) := rfl
  have hmark : ∀ base ∈ bases, '?' ∉ base := by decide
  exact ⟨_, rfl, rfl, hplace, hmark, compile_madeOf rfl rfl hplace hmark⟩

end RouteTree
