import RouteTree.Json
import RouteTree.Number.Decimal

namespace RouteTree.Json

structure Numeral where
  negative : Bool
  whole : Text
  fraction : Text
  /-- The sign, true for minus, and the digits of an exponent. -/
  exponent : Option (Bool × Text)
deriving DecidableEq, Repr

/-- An exponent with a larger value decides the result by its sign alone. -/
def exponentLimit : Nat := 2 ^ 31 - 1

/-- Appends digits while the value fits in 64 bits; the rest is counted. -/
def gather (significand : Nat) : Text → Nat × Nat
  | [] => (significand, 0)
  | d :: rest =>
      if 10 * significand + digitValue d < 2 ^ 64 then
        gather (10 * significand + digitValue d) rest
      else (significand, rest.length + 1)

def powerOfTen? (n : Nat) : Option Magnitude := Magnitude.nearest? (10 ^ n) 1

/-- Divides by `10 ^ 308` so many times, then by `10 ^ rest`; zero is left alone. -/
def shrink? (rest : Nat) : Nat → Magnitude → Option Magnitude
  | 0, m => (powerOfTen? rest).bind m.div?
  | times + 1, m =>
      if m = .zero then some m
      else ((powerOfTen? 308).bind m.div?).bind (shrink? rest times)

/-- One rounding for each operation; none when the magnitude is too large. -/
def scaled? (significand : Nat) (exponent : Int) : Option Magnitude :=
  (Magnitude.nearest? significand 1).bind fun m =>
    let size := exponent.natAbs
    if exponent < 0 then
      shrink? (size - 308 * ((size - 1) / 308)) ((size - 1) / 308) m
    else if size ≤ 308 then (powerOfTen? size).bind m.mul?
    else if m = .zero then some m
    else none

namespace Numeral

def significand (n : Numeral) : Nat × Int :=
  let whole := gather 0 n.whole
  let all := gather whole.1 n.fraction
  (all.1, (whole.2 : Int) - (n.fraction.length - all.2 : Nat))

def magnitude? (n : Numeral) : Option Magnitude :=
  let digits := n.significand
  match n.exponent with
  | none => scaled? digits.1 digits.2
  | some (negative, exponent) =>
      let value := digitsValue exponent
      if value ≤ exponentLimit then
        scaled? digits.1 (digits.2 + if negative then -(value : Int) else value)
      else if negative || digits.1 == 0 then some .zero
      else none

def isWhole (n : Numeral) : Bool := n.fraction.isEmpty && n.exponent.isNone

/-- A whole numeral between `-2 ^ 63` and `2 ^ 64` gives a whole number, minus zero excepted. -/
def numberOf? (magnitude : Option Magnitude) (n : Numeral) : Option Number :=
  let binary := magnitude.map fun m => Number.binary (.finite n.negative m)
  if n.isWhole && (gather 0 n.whole).2 == 0 then
    let value := (gather 0 n.whole).1
    if !n.negative then some (.whole value)
    else if value ≠ 0 ∧ value ≤ 2 ^ 63 then some (.whole (-value))
    else binary
  else binary

def number? (n : Numeral) : Option Number := n.numberOf? n.magnitude?

def decimal (n : Numeral) : Decimal :=
  let exponent : Int :=
    match n.exponent with
    | none => 0
    | some (negative, digits) =>
        if negative then -(digitsValue digits : Int) else digitsValue digits
  { negative := n.negative
    coefficient := digitsValue (n.whole ++ n.fraction)
    exponent := exponent - n.fraction.length }

end Numeral

end RouteTree.Json
