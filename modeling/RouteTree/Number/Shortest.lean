import RouteTree.Number.Binary64
import RouteTree.Text

namespace RouteTree

/-! The fewest decimal digits that round back to a binary number. The search runs over the grids of
powers of ten in units of `10 ^ (-1074)`, the coarsest first. -/

/-- Which neighbour is taken when two lie equally near. -/
inductive Tie
  | up
  | even
deriving DecidableEq, Repr

/-- A decimal numeral by its significant digits, the first of which counts
`10 ^ exponent`. -/
structure Scientific where
  digits : Text
  exponent : Int
deriving DecidableEq, Repr

namespace Magnitude

def decimalUnits (m : Magnitude) : Nat := m.units * 5 ^ 1074

/-- The distance to the next larger magnitude, in units of `10 ^ (-1074)`. -/
def decimalGap (m : Magnitude) : Nat := 2 ^ m.scale * 5 ^ 1074

/-- Four times the least value that can round to `m`. Below a power of two the gap is halved. -/
def roundsFrom (m : Magnitude) : Nat :=
  if m.fraction.val = 0 ∧ 1 < m.exponent.val then 4 * m.decimalUnits - m.decimalGap
  else 4 * m.decimalUnits - 2 * m.decimalGap

def roundsTo (m : Magnitude) : Nat := 4 * m.decimalUnits + 2 * m.decimalGap

/-- The ends of the range round to `m` just when the mantissa is even. -/
def roundsHere (m : Magnitude) (value : Nat) : Bool :=
  if m.mantissa % 2 = 0 then
    decide (m.roundsFrom ≤ 4 * value) && decide (4 * value ≤ m.roundsTo)
  else
    decide (m.roundsFrom < 4 * value) && decide (4 * value < m.roundsTo)

/-- The multiple of `grid` that rounds to `m` and is nearest to it, by its multiplier. -/
def onGrid? (tie : Tie) (m : Magnitude) (grid : Nat) : Option Nat :=
  let lower := m.decimalUnits / grid
  let twice := 2 * (m.decimalUnits % grid)
  match m.roundsHere (lower * grid), m.roundsHere ((lower + 1) * grid) with
  | true, true =>
      if twice < grid then some lower
      else if grid < twice then some (lower + 1)
      else match tie with
        | .up => some (lower + 1)
        | .even => some (lower + lower % 2)
  | true, false => some lower
  | false, true => some (lower + 1)
  | false, false => none

/-- The first hit among the grids `10 ^ p`, `10 ^ (p - 1)`, …, `1`, with its power. -/
def firstOnGrids (tie : Tie) (m : Magnitude) : Nat → Nat × Nat
  | 0 => (m.decimalUnits, 0)
  | p + 1 =>
      match m.onGrid? tie (10 ^ (p + 1)) with
      | some multiplier => (multiplier, p + 1)
      | none => m.firstOnGrids tie p

def shortest (tie : Tie) (m : Magnitude) : Scientific :=
  let length := (Nat.toDigits 10 m.decimalUnits).length
  let hit := m.firstOnGrids tie (length - 1)
  let digits := Nat.toDigits 10 hit.1
  { digits := (digits.reverse.dropWhile (· == '0')).reverse
    exponent := (digits.length : Int) + hit.2 - 1 - 1074 }

end Magnitude

namespace Scientific

def positional (whole : Text) (s : Scientific) : Text :=
  if s.exponent < 0 then
    '0' :: '.' :: (List.replicate (-s.exponent - 1).toNat '0' ++ s.digits)
  else
    let size := s.exponent.toNat + 1
    if s.digits.length ≤ size then
      s.digits ++ List.replicate (size - s.digits.length) '0' ++ whole
    else s.digits.take size ++ '.' :: s.digits.drop size

def exponential (s : Scientific) : Text :=
  let mantissa :=
    match s.digits with
    | [] => []
    | [d] => [d]
    | d :: rest => d :: '.' :: rest
  let sign := if s.exponent < 0 then '-' else '+'
  mantissa ++ 'e' :: sign :: Nat.toDigits 10 s.exponent.natAbs

end Scientific

def signed (negative : Bool) (text : Text) : Text :=
  if negative then '-' :: text else text

namespace Binary64

def positionalFrom : Magnitude := ⟨⟨1003, by decide⟩, ⟨0x0C6F7A0B5ED8D, by decide⟩⟩

def positionalBelow : Magnitude := ⟨⟨1092, by decide⟩, ⟨0xB1AE4D6E2EF50, by decide⟩⟩

theorem nearest?_millionth : Magnitude.nearest? 1 (10 ^ 6) = some positionalFrom := by
  decide +kernel

theorem nearest?_ten_pow : Magnitude.nearest? (10 ^ 21) 1 = some positionalBelow := by
  decide +kernel

/-- Positional between a millionth and `10 ^ 21`, else with an exponent. -/
def text : Binary64 → Text
  | .nan => "NaN".toList
  | .infinite negative => signed negative "Infinity".toList
  | .finite negative m =>
      if m = .zero then ['0']
      else if positionalFrom.units ≤ m.units ∧ m.units < positionalBelow.units then
        signed negative ((m.shortest .up).positional [])
      else signed negative (m.shortest .up).exponential

end Binary64

end RouteTree
