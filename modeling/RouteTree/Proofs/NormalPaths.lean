import RouteTree.Proofs.Substitution
import RouteTree.Proofs.TidyPaths

namespace RouteTree

theorem Text.replacedAll_eq_tidied {encode : Bool} {sigil : Char} {arguments : PathArguments}
    {source : Text}
    (h : ∀ piece ∈ source.pieces '/', replaced encode sigil arguments piece = piece) :
    source.replacedAll encode sigil arguments = source.tidied := by
  have hpieces : (source.pieces '/').map (replaced encode sigil arguments) = source.pieces '/' :=
    (List.map_congr_left h).trans (List.map_id _)
  rw [replacedAll, hpieces]
  rfl

theorem Segment.ofPiece_inj {sigil : Char} {piece other : Text} :
    ofPiece sigil piece = ofPiece sigil other ↔ piece = other := by
  refine ⟨?_, fun h => congrArg (ofPiece sigil) h⟩
  intro h
  rw [← piece_ofPiece sigil piece, h, piece_ofPiece]

theorem Segment.eq_of_text_eq {segment other : Segment} (htext : segment.text = other.text)
    (hparameter : segment.isParameter = other.isParameter) : segment = other := by
  cases segment with
  | literal text =>
      cases other with
      | literal other => exact congrArg literal htext
      | parameter name => cases hparameter
  | parameter name =>
      cases other with
      | literal text => cases hparameter
      | parameter other => exact congrArg parameter htext

namespace PathTemplate

theorem mem_parameterIndexes {p : PathTemplate} {index : Nat} :
    index ∈ p.parameterIndexes ↔
      ∃ segment, p.segments[index]? = some segment ∧ segment.isParameter = true := by
  simp [parameterIndexes, List.mem_zipIdx_iff_getElem?]

/-- The same texts, the same places of parameters, and a slash in front of both or of neither. -/
structure Agrees (p q : PathTemplate) : Prop where
  texts : p.segments.map Segment.text = q.segments.map Segment.text
  indexes : p.parameterIndexes = q.parameterIndexes
  leading : p.leadingSlash = q.leadingSlash

/-- A text alone does not tell a parameter from a literal with its name, but the indexes do. -/
theorem Agrees.segments_eq {p q : PathTemplate} (h : p.Agrees q) : p.segments = q.segments := by
  apply List.ext_getElem?
  intro index
  have htext := congrArg (·[index]?) h.texts
  have hindex : index ∈ p.parameterIndexes ↔ index ∈ q.parameterIndexes := by rw [h.indexes]
  simp only [List.getElem?_map] at htext
  rw [mem_parameterIndexes, mem_parameterIndexes] at hindex
  cases hp : p.segments[index]? with
  | none =>
      rw [hp] at htext
      exact (Option.map_eq_none_iff.mp htext.symm).symm
  | some segment =>
      rw [hp, Option.map_some] at htext
      obtain ⟨other, hq, hother⟩ := Option.map_eq_some_iff.mp htext.symm
      have hparameter : segment.isParameter = other.isParameter := by
        rw [Bool.eq_iff_iff]
        simpa [hp, hq] using hindex
      rw [hq, Segment.eq_of_text_eq hother.symm hparameter]

example :
    let p := parse ':' ['/', ':', 'i']
    let q := parse ':' ['/', 'i']
    p.segments.map Segment.text = q.segments.map Segment.text ∧ p.segments ≠ q.segments := by
  decide

theorem segments_parse_eq_iff {sigil : Char} {path other : Text} :
    (parse sigil path).segments = (parse sigil other).segments ↔
      path.pieces '/' = other.pieces '/' := by
  rw [parse, parse]
  exact List.map_inj_right fun _ _ => Segment.ofPiece_inj.mp

theorem leadingSlash_eq_iff {p q : PathTemplate} :
    p.leadingSlash = q.leadingSlash ↔
      (p.source.head? = some '/' ↔ q.source.head? = some '/') := by
  rw [Bool.eq_iff_iff, leadingSlash, leadingSlash, beq_iff_eq, beq_iff_eq]

theorem agrees_parse_iff {sigil : Char} {path other : Text} :
    (parse sigil path).Agrees (parse sigil other) ↔ path.tidied = other.tidied := by
  rw [Text.tidied_eq_iff]
  constructor
  · intro h
    exact ⟨segments_parse_eq_iff.mp h.segments_eq, leadingSlash_eq_iff.mp h.leading⟩
  · intro h
    obtain ⟨hpieces, hhead⟩ := h
    have hsegments : (parse sigil path).segments = (parse sigil other).segments :=
      segments_parse_eq_iff.mpr hpieces
    exact ⟨by rw [hsegments], by rw [parameterIndexes, hsegments, parameterIndexes],
      leadingSlash_eq_iff.mpr hhead⟩

theorem fill_empty (sigil : Char) (path : Text) (encode : Bool) (route : Text) :
    (parse sigil path).fill false encode route (some (.named .empty)) = .ok path.tidied := by
  have hpieces : ∀ piece ∈ path.pieces '/',
      Text.replaced encode sigil (.named .empty) piece = piece := by
    intro piece _
    rw [Text.replaced]
    split <;> rfl
  rw [fill_parse, Text.substituted, Text.replacedAll_eq_tidied hpieces]
  rfl

/-- Filling a path with no values gives its normal form, which is parsed as the path is and is its
own normal form. Two paths have one normal form if and only if they are parsed alike. -/
theorem normal_form (sigil : Char) :
    (∀ path : Text,
        (∀ encode route, (parse sigil path).fill false encode route (some (.named .empty)) =
          .ok path.tidied) ∧
        (path.tidied.head? = some '/' ↔ path.head? = some '/') ∧
        path.tidied.Tidy ∧
        (parse sigil path.tidied).Agrees (parse sigil path) ∧
        path.tidied.tidied = path.tidied) ∧
      ∀ path other : Text, path.tidied = other.tidied ↔
        (parse sigil path).Agrees (parse sigil other) := by
  refine ⟨?_, fun _ _ => agrees_parse_iff.symm⟩
  intro path
  exact ⟨fill_empty sigil path, Text.head?_tidied, path.tidy_tidied,
    agrees_parse_iff.mpr path.tidied_tidied, path.tidied_tidied⟩

end PathTemplate

end RouteTree
