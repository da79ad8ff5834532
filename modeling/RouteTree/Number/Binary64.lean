import RouteTree.Number.Rounding

namespace RouteTree

/-! Binary numbers of 64 bits. A finite one is a whole number of units of `2 ^ (-1074)`. -/

def unitsPerOne : Nat := 2 ^ 1074

structure Magnitude where
  exponent : Fin 2047
  fraction : Fin (2 ^ 52)
deriving DecidableEq, Repr

namespace Magnitude

def zero : Magnitude := ⟨0, 0⟩

def mantissa (m : Magnitude) : Nat :=
  if m.exponent.val = 0 then m.fraction.val else 2 ^ 52 + m.fraction.val

def scale (m : Magnitude) : Nat := m.exponent.val - 1

def units (m : Magnitude) : Nat := m.mantissa * 2 ^ m.scale

def ofParts? (parts : Nat × Nat) (h : parts.1 < 2 ^ 53) : Option Magnitude :=
  if hsmall : parts.1 < 2 ^ 52 then some ⟨0, ⟨parts.1, hsmall⟩⟩
  else if hscale : parts.2 + 1 < 2047 then
    some ⟨⟨parts.2 + 1, hscale⟩, ⟨parts.1 - 2 ^ 52, by omega⟩⟩
  else none

/-- The magnitude nearest to `num / den`, halves to even; none beyond the largest one. -/
def nearest? (num den : Nat) : Option Magnitude :=
  ofParts? (Rounding.toPrecision 53 (num * unitsPerOne) den)
    (Rounding.toPrecision_lt (by decide) (num * unitsPerOne) den)

def mul? (a b : Magnitude) : Option Magnitude :=
  nearest? (a.units * b.units) (unitsPerOne ^ 2)

def div? (a b : Magnitude) : Option Magnitude :=
  nearest? a.units b.units

def isWhole (m : Magnitude) : Bool := m.units % unitsPerOne == 0

def truncate (m : Magnitude) : Nat := m.units / unitsPerOne

end Magnitude

inductive Binary64
  | nan
  | infinite (negative : Bool)
  | finite (negative : Bool) (magnitude : Magnitude)
deriving DecidableEq, Repr

namespace Binary64

def zero : Binary64 := .finite false .zero

def ofMagnitude? (negative : Bool) : Option Magnitude → Binary64
  | some m => .finite negative m
  | none => .infinite negative

def ofRatio (negative : Bool) (num den : Nat) : Binary64 :=
  ofMagnitude? negative (Magnitude.nearest? num den)

def ofInt (n : Int) : Binary64 :=
  ofRatio (decide (n < 0)) n.natAbs 1

/-- The number nearest to `num / den` among those of 24 bits, widened without loss. -/
def ofRatio32 (negative : Bool) (num den : Nat) : Binary64 :=
  let parts := Rounding.toPrecision 24 (num * 2 ^ 149) den
  if parts.2 ≤ 253 then ofRatio negative (parts.1 * 2 ^ parts.2) (2 ^ 149)
  else .infinite negative

def isFinite : Binary64 → Bool
  | .finite _ _ => true
  | _ => false

/-- Numeric equality: not a number differs from itself and the two zeros agree. -/
def equal : Binary64 → Binary64 → Bool
  | .infinite s, .infinite t => s == t
  | .finite s m, .finite t n => m == n && (s == t || m == .zero)
  | _, _ => false

end Binary64

end RouteTree
