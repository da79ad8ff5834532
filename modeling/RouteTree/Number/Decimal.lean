import RouteTree.Number.Binary64
import RouteTree.Text

namespace RouteTree

/-- The number `coefficient * 10 ^ exponent`, negated when `negative`. -/
structure Decimal where
  negative : Bool
  coefficient : Nat
  exponent : Int
deriving DecidableEq, Repr

def isDigit (c : Char) : Bool := '0' ≤ c && c ≤ '9'

def digitValue (c : Char) : Nat := c.toNat - '0'.toNat

def digitsValue (digits : Text) : Nat :=
  digits.foldl (fun value c => 10 * value + digitValue c) 0

def spanDigits (t : Text) : Text × Text :=
  (t.takeWhile isDigit, t.dropWhile isDigit)

/-- A sign in front, true for minus, and the rest. -/
def spanSign : Text → Bool × Text
  | '-' :: rest => (true, rest)
  | '+' :: rest => (false, rest)
  | rest => (false, rest)

namespace Decimal

def ratio (d : Decimal) : Nat × Nat :=
  if d.exponent < 0 then (d.coefficient, 10 ^ d.exponent.natAbs)
  else (d.coefficient * 10 ^ d.exponent.natAbs, 1)

/-- A numeral far outside the range of binary numbers is not expanded. -/
def round (ofRatio : Bool → Nat → Nat → Binary64) (d : Decimal) : Binary64 :=
  let size := ((Nat.toDigits 10 d.coefficient).length : Int) + d.exponent
  if d.coefficient = 0 ∨ size < -400 then ofRatio d.negative 0 1
  else if 400 < size then .infinite d.negative
  else ofRatio d.negative d.ratio.1 d.ratio.2

def toBinary64 (d : Decimal) : Binary64 := d.round Binary64.ofRatio

def toBinary32 (d : Decimal) : Binary64 := d.round Binary64.ofRatio32

def readExponent? : Text → Option Int
  | [] => some 0
  | mark :: rest =>
      if mark = 'e' ∨ mark = 'E' then
        let signed := spanSign rest
        if signed.2.isEmpty || !signed.2.all isDigit then none
        else
          let value : Int := digitsValue signed.2
          some (if signed.1 then -value else value)
      else none

/-- Digits with at most one point among or beside them, then perhaps an exponent. -/
def readUnsigned? (negative : Bool) (t : Text) : Option Decimal :=
  let whole := spanDigits t
  let fraction :=
    match whole.2 with
    | '.' :: rest => spanDigits rest
    | rest => ([], rest)
  let digits := whole.1 ++ fraction.1
  if digits.isEmpty then none
  else
    (readExponent? fraction.2).map fun exponent =>
      { negative := negative
        coefficient := digitsValue digits
        exponent := exponent - fraction.1.length }

end Decimal

/-- The words for infinity and for not a number are read in any case of letters. -/
def readNumber? (round : Decimal → Binary64) (t : Text) : Option Binary64 :=
  let signed := spanSign t
  let word := signed.2.map Char.toLower
  if word = "inf".toList ∨ word = "infinity".toList then some (.infinite signed.1)
  else if word = "nan".toList then some .nan
  else (Decimal.readUnsigned? signed.1 signed.2).map round

def readInt? (t : Text) : Option Int :=
  let signed := spanSign t
  if signed.2.isEmpty || !signed.2.all isDigit then none
  else
    let value : Int := digitsValue signed.2
    some (if signed.1 then -value else value)

end RouteTree
