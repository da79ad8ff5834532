import RouteTree.Proofs.NormalPaths

namespace RouteTree

namespace Slots

/-- The texts can stand between slashes, and the positions are in order and inside the texts. -/
structure WellFormed (s : Slots) : Prop where
  texts : ∀ text ∈ s.texts, text ≠ [] ∧ '/' ∉ text
  increasing : s.positions.Pairwise (· < ·)
  within : ∀ position ∈ s.positions, position < s.texts.length

/-- The positions are those of the pieces that are the sigil with a name, the text there. -/
structure OfPieces (sigil : Char) (pieces : List Text) (s : Slots) : Prop where
  listed : ∀ position, position ∈ s.positions ↔
    ∃ name, name ≠ [] ∧ pieces[position]? = some (sigil :: name)
  named : ∀ position ∈ s.positions, ∃ name,
    pieces[position]? = some (sigil :: name) ∧ s.texts[position]? = some name
  literal : ∀ position, position ∉ s.positions → s.texts[position]? = pieces[position]?

theorem WellFormed.literal {s : Slots} (h : s.WellFormed) {text : Text}
    (htext : text ≠ [] ∧ '/' ∉ text) : WellFormed ⟨s.texts ++ [text], s.positions⟩ := by
  refine ⟨?_, h.increasing, ?_⟩
  · intro other hother
    rcases List.mem_append.mp hother with hold | hnew
    · exact h.texts other hold
    · exact List.mem_singleton.mp hnew ▸ htext
  · intro position hposition
    rw [List.length_append]
    exact Nat.lt_add_right _ (h.within position hposition)

theorem WellFormed.parameter {s : Slots} (h : s.WellFormed) {name : Text}
    (hname : name ≠ [] ∧ '/' ∉ name) :
    WellFormed ⟨s.texts ++ [name], s.positions ++ [s.texts.length]⟩ := by
  obtain ⟨htexts, _, hwithin⟩ := h.literal hname
  refine ⟨htexts, ?_, ?_⟩
  -- The new position is the number of the texts, so it is above all that are inside them.
  · rw [List.pairwise_append]
    refine ⟨h.increasing, List.pairwise_singleton _ _, ?_⟩
    intro position hposition next hnext
    rw [List.mem_singleton.mp hnext]
    exact h.within position hposition
  · intro position hposition
    rcases List.mem_append.mp hposition with hold | hnew
    · exact hwithin position hold
    · rw [List.mem_singleton.mp hnew, List.length_append]
      exact Nat.lt_succ_self _

theorem WellFormed.push {s : Slots} (h : s.WellFormed) {piece : Text}
    (hpiece : piece ≠ [] ∧ '/' ∉ piece) (sigil : Char) : (s.push sigil piece).WellFormed := by
  rw [Slots.push]
  rcases Segment.ofPiece_cases sigil piece with ⟨name, hname, rfl, hsegment⟩ | hsegment
  · rw [hsegment]
    exact h.parameter ⟨hname, fun hmem => hpiece.2 (List.mem_cons_of_mem sigil hmem)⟩
  · rw [hsegment]
    exact h.literal hpiece

theorem WellFormed.foldl_push {s : Slots} (h : s.WellFormed) {pieces : List Text}
    (hpieces : ∀ piece ∈ pieces, piece ≠ [] ∧ '/' ∉ piece) (sigil : Char) :
    (pieces.foldl (Slots.push sigil) s).WellFormed := by
  induction pieces generalizing s with
  | nil => exact h
  | cons piece rest ih =>
      rw [List.forall_mem_cons] at hpieces
      exact ih (h.push hpieces.1 sigil) hpieces.2

theorem wellFormed_nil : WellFormed ⟨[], []⟩ := ⟨nofun, .nil, nofun⟩

theorem wellFormed_parse (sigil : Char) (source : Text) : (parse sigil source).WellFormed :=
  wellFormed_nil.foldl_push (fun _ => Text.ne_nil_and_not_mem_of_mem_pieces) sigil

section

variable {s : Slots} {strict encode : Bool} {route : Text} {sigil : Char}
  {arguments : PathArguments}

theorem length_overwrite {texts texts' : List Text} {position : Nat}
    (h : s.overwrite strict encode route sigil arguments texts position = .ok texts') :
    texts'.length = texts.length := by
  obtain ⟨text, _, hset⟩ := Outcome.bind_eq_ok.mp h
  obtain rfl := Outcome.pure_eq_ok.mp hset
  exact List.length_set

theorem length_foldlM_overwrite {positions : List Nat} {texts texts' : List Text}
    (h : positions.foldlM (s.overwrite strict encode route sigil arguments) texts = .ok texts') :
    texts'.length = texts.length := by
  induction positions generalizing texts with
  | nil =>
      obtain rfl := Outcome.pure_eq_ok.mp h
      rfl
  | cons position rest ih =>
      rw [List.foldlM_cons, Outcome.bind_eq_ok] at h
      obtain ⟨next, hstep, hrest⟩ := h
      exact (ih hrest).trans (length_overwrite hstep)

/-- Wherever a substitution stands, no position is outside the texts that it overwrites. -/
theorem WellFormed.position_lt_length (h : s.WellFormed) {count : Nat} {texts : List Text}
    (hloop : (s.positions.take count).foldlM (s.overwrite strict encode route sigil arguments)
      s.texts = .ok texts) : ∀ position ∈ s.positions, position < texts.length := by
  rw [length_foldlM_overwrite hloop]
  exact h.within

end

theorem map_positionsFrom (todo : List Segment) (done : List Text) :
    (positionsFrom done.length todo).map ((done ++ todo.map Segment.text)[·]?) =
      (todo.filterMap Segment.parameter?).map some := by
  -- The texts that are done move the positions, so a segment joins them when it is passed.
  induction todo generalizing done with
  | nil => rfl
  | cons segment rest ih =>
      have hrest := ih (done ++ [segment.text])
      rw [List.length_append, List.length_singleton, List.append_assoc, List.singleton_append]
        at hrest
      cases segment with
      | literal text => exact hrest
      | parameter name =>
          have hname : (done ++ name :: rest.map Segment.text)[done.length]? = some name := by simp
          exact congr (congrArg List.cons hname) hrest

end Slots

namespace PathTemplate

def slots (p : PathTemplate) : Slots := ⟨p.segments.map Segment.text, p.parameterIndexes⟩

theorem map_parameterIndexes (p : PathTemplate) :
    p.slots.positions.map (p.slots.texts[·]?) = p.parameters.map some :=
  Slots.map_positionsFrom p.segments []

theorem slots_verbatim (sigil : Char) (source : Text) :
    (verbatim sigil source).slots = ⟨source.pieces '/', []⟩ := by
  have htexts : (verbatim sigil source).segments.map Segment.text = source.pieces '/' := by
    rw [verbatim, List.map_map]
    exact List.map_id _
  have hindexes : (verbatim sigil source).parameterIndexes = [] := by
    rw [List.eq_nil_iff_forall_not_mem]
    intro index hindex
    obtain ⟨segment, hsegment, hparameter⟩ := mem_parameterIndexes.mp hindex
    obtain ⟨piece, _, rfl⟩ := List.mem_map.mp (List.mem_of_getElem? hsegment)
    cases hparameter
  rw [slots, htexts, hindexes]

theorem getElem?_texts_parse (sigil : Char) (source : Text) (index : Nat) :
    (parse sigil source).slots.texts[index]? =
      (source.pieces '/')[index]?.map fun piece => (Segment.ofPiece sigil piece).text := by
  rw [slots, parse, List.getElem?_map, List.getElem?_map, Option.map_map]
  rfl

theorem mem_parameterIndexes_parse {sigil : Char} {source : Text} {index : Nat} :
    index ∈ (parse sigil source).parameterIndexes ↔
      ∃ name, name ≠ [] ∧ (source.pieces '/')[index]? = some (sigil :: name) := by
  rw [mem_parameterIndexes, parse]
  simp only [List.getElem?_map, Option.map_eq_some_iff]
  constructor
  · intro h
    obtain ⟨_, ⟨piece, hpiece, rfl⟩, hparameter⟩ := h
    rcases Segment.ofPiece_cases sigil piece with ⟨name, hname, rfl, _⟩ | hsegment
    · exact ⟨name, hname, hpiece⟩
    · rw [hsegment] at hparameter
      cases hparameter
  · intro h
    obtain ⟨name, hname, hpiece⟩ := h
    refine ⟨_, ⟨_, hpiece, rfl⟩, ?_⟩
    rw [Segment.ofPiece_sigil_cons hname]
    rfl

theorem slots_parse_ofPieces (sigil : Char) (source : Text) :
    (parse sigil source).slots.OfPieces sigil (source.pieces '/') := by
  refine ⟨fun _ => mem_parameterIndexes_parse, ?_, ?_⟩
  · intro position hposition
    obtain ⟨name, hname, hpiece⟩ := mem_parameterIndexes_parse.mp hposition
    refine ⟨name, hpiece, ?_⟩
    rw [getElem?_texts_parse, hpiece, Option.map_some, Segment.ofPiece_sigil_cons hname]
    rfl
  · intro position hposition
    rw [getElem?_texts_parse]
    cases hpiece : (source.pieces '/')[position]? with
    | none => rfl
    | some piece =>
        rcases Segment.ofPiece_cases sigil piece with ⟨name, hname, rfl, _⟩ | hsegment
        · exact absurd (mem_parameterIndexes_parse.mpr ⟨name, hname, hpiece⟩) hposition
        · rw [Option.map_some, hsegment]
          rfl

/-- Taking in the pieces of a path one by one gives the texts and positions of its segments. The
names stand at the positions, and these are inside the texts at every step of a substitution. -/
theorem slots_in_bounds (sigil : Char) (source : Text) :
    let s := (parse sigil source).slots
    Slots.parse sigil source = s ∧ s.WellFormed ∧ s.OfPieces sigil (source.pieces '/') ∧
      (verbatim sigil source).slots.WellFormed ∧
      (verbatim sigil source).slots = ⟨source.pieces '/', []⟩ ∧
      s.positions.map (s.texts[·]?) = (parse sigil source).parameters.map some ∧
      ∀ strict encode route arguments,
        Slots.substitute strict encode route sigil arguments source =
            (parse sigil source).fill strict encode route (some arguments) ∧
          ∀ count texts,
            (s.positions.take count).foldlM (s.overwrite strict encode route sigil arguments)
              s.texts = .ok texts →
            ∀ position ∈ s.positions, position < texts.length := by
  intro s
  have hslots : Slots.parse sigil source = s := Slots.parse_eq sigil source
  have hwellFormed : s.WellFormed := hslots ▸ Slots.wellFormed_parse sigil source
  have hverbatim : (verbatim sigil source).slots.WellFormed := by
    rw [slots_verbatim]
    exact ⟨fun _ => Text.ne_nil_and_not_mem_of_mem_pieces, .nil, nofun⟩
  refine ⟨hslots, hwellFormed, slots_parse_ofPieces sigil source, hverbatim,
    slots_verbatim sigil source, map_parameterIndexes _, ?_⟩
  intro strict encode route arguments
  exact ⟨Slots.substitute_eq_fill .., fun _ _ => hwellFormed.position_lt_length⟩

example :
    (parse ':' ['/', '/', ':', 'i', '/', ':', ':', 'j', '/', ':', '/', 'a', ':']).slots =
      ⟨[['i'], [':', 'j'], [':'], ['a', ':']], [0, 1]⟩ := by
  decide

end PathTemplate

end RouteTree
