import RouteTree.Text
import RouteTree.Unicode.Case

namespace RouteTree

/-! Regular expressions on texts, and the question whether some part of a text matches one. -/

inductive CharSet
  | ranges (table : Unicode.Ranges)
  | union (left right : CharSet)
  | intersection (left right : CharSet)
  | difference (left right : CharSet)
  | symmetricDifference (left right : CharSet)
  | complement (set : CharSet)
  /-- The characters that differ in case at most from one of the set. -/
  | anyCase (set : CharSet)
deriving Repr

namespace CharSet

def empty : CharSet := .ranges []

def single (c : Char) : CharSet := .ranges [(c.toNat, c.toNat)]

def contains : CharSet → Char → Bool
  | .ranges table, c => Unicode.Ranges.contains table c
  | .union left right, c => left.contains c || right.contains c
  | .intersection left right, c => left.contains c && right.contains c
  | .difference left right, c => left.contains c && !right.contains c
  | .symmetricDifference left right, c => left.contains c != right.contains c
  | .complement set, c => !set.contains c
  | .anyCase set, c => (Unicode.caseVariants c).any set.contains

end CharSet

inductive Anchor
  | textStart
  | textEnd
  | lineStart
  | lineEnd
  /-- As the two before, with a carriage return among the line ends. -/
  | anyLineStart
  | anyLineEnd
  | wordBoundary (isWord : CharSet)
  | noWordBoundary (isWord : CharSet)
  | wordStart (isWord : CharSet)
  | wordEnd (isWord : CharSet)
  | wordStartHalf (isWord : CharSet)
  | wordEndHalf (isWord : CharSet)
deriving Repr

inductive Pattern
  | empty
  | char (set : CharSet)
  | anchor (a : Anchor)
  | sequence (first second : Pattern)
  | either (left right : Pattern)
  | repeated (p : Pattern) (least : Nat) (most : Option Nat)
deriving Repr

namespace Anchor

/-- Whether the condition holds between two neighbours, absent at the ends of the text. -/
def holds (before after : Option Char) : Anchor → Bool
  | .textStart => before.isNone
  | .textEnd => after.isNone
  | .lineStart => before.all (· == '\n')
  | .lineEnd => after.all (· == '\n')
  | .anyLineStart => before.all (· == '\n') || (before == some '\r' && after != some '\n')
  | .anyLineEnd => after.all (· == '\r') || (after == some '\n' && before != some '\r')
  | .wordBoundary isWord => before.any isWord.contains != after.any isWord.contains
  | .noWordBoundary isWord => before.any isWord.contains == after.any isWord.contains
  | .wordStart isWord => !before.any isWord.contains && after.any isWord.contains
  | .wordEnd isWord => before.any isWord.contains && !after.any isWord.contains
  | .wordStartHalf isWord => !before.any isWord.contains
  | .wordEndHalf isWord => !after.any isWord.contains

end Anchor

namespace Pattern

def before? (text : Array Char) (place : Nat) : Option Char :=
  if place = 0 then none else text[place - 1]?

def mergePlaces (left right : List Nat) : List Nat :=
  left ++ right.filter fun place => !left.contains place

def iterate (step : List Nat → List Nat) : Nat → List Nat → List Nat
  | 0, places => places
  | n + 1, places => if places.isEmpty then [] else iterate step n (step places)

def withinSteps (step : List Nat → List Nat) : Nat → List Nat → List Nat
  | 0, places => places
  | n + 1, places =>
      if places.isEmpty then [] else mergePlaces places (withinSteps step n (step places))

/-- The places, as numbers of characters in front of them, at which a match can end that starts at
one of the given places. More steps than characters reach nothing new. -/
def reach (text : Array Char) : Pattern → List Nat → List Nat
  | .empty, places => places
  | .char set, places =>
      places.filterMap fun place =>
        if text[place]?.any set.contains then some (place + 1) else none
  | .anchor a, places =>
      places.filter fun place => a.holds (before? text place) text[place]?
  | .sequence first second, places => reach text second (reach text first places)
  | .either left right, places => mergePlaces (reach text left places) (reach text right places)
  | .repeated p least most, places =>
      let rest := match most with
        | none => text.size
        | some most => min (most - least) text.size
      withinSteps (reach text p) rest (iterate (reach text p) least places)

def matchesSomewhere (p : Pattern) (text : Text) : Bool :=
  !(reach text.toArray p (List.range (text.length + 1))).isEmpty

end Pattern

end RouteTree
