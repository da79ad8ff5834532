import RouteTree.RouteError
import RouteTree.Text.Percent
import RouteTree.Value

namespace RouteTree

/-! Paths with parameters: segments that begin with the sigil and have more text after it. -/

inductive Segment
  | literal (text : Text)
  | parameter (name : Text)
deriving DecidableEq, Repr

namespace Segment

def ofPiece (sigil : Char) : Text → Segment
  | [] => .literal []
  | [c] => .literal [c]
  | c :: d :: rest => if c = sigil then .parameter (d :: rest) else .literal (c :: d :: rest)

def text : Segment → Text
  | .literal text => text
  | .parameter name => name

def isParameter : Segment → Bool
  | .literal _ => false
  | .parameter _ => true

def parameter? : Segment → Option Text
  | .literal _ => none
  | .parameter name => some name

def piece (sigil : Char) : Segment → Text
  | .literal text => text
  | .parameter name => sigil :: name

theorem ofPiece_sigil_cons {name : Text} (h : name ≠ []) (sigil : Char) :
    ofPiece sigil (sigil :: name) = .parameter name := by
  cases name with
  | nil => exact absurd rfl h
  | cons c rest => exact if_pos rfl

theorem ofPiece_of_ne {sigil : Char} {piece : Text}
    (h : ∀ name, name ≠ [] → piece ≠ sigil :: name) : ofPiece sigil piece = .literal piece := by
  match piece with
  | [] => rfl
  | [_] => rfl
  | c :: d :: rest =>
      refine if_neg ?_
      intro hc
      exact h (d :: rest) (List.cons_ne_nil d rest) (hc ▸ rfl)

theorem ofPiece_cases (sigil : Char) (piece : Text) :
    (∃ name, name ≠ [] ∧ piece = sigil :: name ∧ ofPiece sigil piece = .parameter name) ∨
      ofPiece sigil piece = .literal piece := by
  by_cases h : ∃ name, name ≠ [] ∧ piece = sigil :: name
  · obtain ⟨name, hname, rfl⟩ := h
    exact .inl ⟨name, hname, rfl, ofPiece_sigil_cons hname sigil⟩
  · refine .inr (ofPiece_of_ne ?_)
    intro name hname hpiece
    exact h ⟨name, hname, hpiece⟩

theorem piece_ofPiece (sigil : Char) (piece : Text) :
    (ofPiece sigil piece).piece sigil = piece := by
  rcases ofPiece_cases sigil piece with ⟨name, _, rfl, hsegment⟩ | hsegment
  · rw [hsegment]
    rfl
  · rw [hsegment]
    rfl

end Segment

structure PathTemplate where
  source : Text
  sigil : Char
  segments : List Segment
deriving DecidableEq, Repr

namespace PathTemplate

/-- Reads a path; empty pieces between slashes are dropped. -/
def parse (sigil : Char) (source : Text) : PathTemplate :=
  ⟨source, sigil, (source.pieces '/').map (Segment.ofPiece sigil)⟩

/-- The path whose pieces are all literal, whatever they begin with. -/
def verbatim (sigil : Char) (source : Text) : PathTemplate :=
  ⟨source, sigil, (source.pieces '/').map .literal⟩

def leadingSlash (p : PathTemplate) : Bool := p.source.head? == some '/'

/-- The names of the parameters in order, repetitions included. -/
def parameters (p : PathTemplate) : List Text := p.segments.filterMap Segment.parameter?

def parameterCount (p : PathTemplate) : Nat := p.parameters.length

def parameterIndexes (p : PathTemplate) : List Nat :=
  p.segments.zipIdx.filterMap fun (segment, index) =>
    if segment.isParameter then some index else none

end PathTemplate

def Value.rendered (encode : Bool) (value : Value) : Text :=
  if encode then value.text.percentEncode else value.text

namespace Segment

/-- A name without a value is an error when `strict`, and else stands for itself. -/
def fill (strict encode : Bool) (route : Text) (sigil : Char) (arguments : PathArguments) :
    Segment → Except RouteError Text
  | .literal text => .ok text
  | .parameter name =>
      match arguments with
      | .scalar value => .ok (value.rendered encode)
      | .named values =>
          match values.get? name with
          | some value => .ok (value.rendered encode)
          | none => if strict then .error (.missingParameter name route) else .ok (sigil :: name)

end Segment

namespace PathTemplate

def assemble (p : PathTemplate) (texts : List Text) : Text :=
  if p.leadingSlash then '/' :: Text.join ['/'] texts else Text.join ['/'] texts

/-- When `strict`, there are as many named values as parameters. -/
def checkCount (p : PathTemplate) (strict : Bool) (route : Text) :
    PathArguments → Except RouteError Unit
  | .scalar _ => .ok ()
  | .named values =>
      if strict && values.size != p.parameterCount then
        .error (.parameterCount route p.parameterCount values.size)
      else .ok ()

/-- Without arguments the path is its source. -/
def fill (p : PathTemplate) (strict encode : Bool) (route : Text) :
    Option PathArguments → Except RouteError Text
  | none => .ok p.source
  | some arguments => do
      p.checkCount strict route arguments
      let texts ← p.segments.mapM (Segment.fill strict encode route p.sigil arguments)
      return p.assemble texts

end PathTemplate

end RouteTree
