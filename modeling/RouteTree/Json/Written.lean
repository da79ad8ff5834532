import RouteTree.Json.Numeral
import RouteTree.Text.Hex

namespace RouteTree.Json

/-! JSON as it is written: numerals with their digits, and strings with their escapes. -/

/-- A character, or an escaped unit of 16 bits. -/
inductive StringPart
  | char (c : Char)
  | unit (u : Nat)
deriving DecidableEq, Repr

inductive Written
  | null
  | bool (b : Bool)
  | number (n : Numeral)
  | string (parts : List StringPart)
  | array (items : List Written)
  | object (members : List (List StringPart × Written))
deriving Repr

def isBlank (c : Char) : Bool := c == ' ' || c == '\n' || c == '\t' || c == '\r'

def skipBlank (t : Text) : Text := t.dropWhile isBlank

/-- The text after the next character, blanks apart, when that character is `c`. -/
def expect? (c : Char) (t : Text) : Option Text :=
  match skipBlank t with
  | [] => none
  | d :: rest => if d = c then some rest else none

def unescape? (c : Char) : Option Char :=
  if c = '"' ∨ c = '\\' ∨ c = '/' then some c
  else if c = 'b' then some '\x08'
  else if c = 'f' then some '\x0c'
  else if c = 'n' then some '\n'
  else if c = 'r' then some '\r'
  else if c = 't' then some '\t'
  else none

def readParts? : Text → Option (List StringPart × Text)
  | [] => none
  | c :: rest =>
      if c = '"' then some ([], rest)
      else if c = '\\' then
        match rest with
        | 'u' :: a :: b :: c :: d :: rest =>
            (Text.hexDigitsValue? [a, b, c, d]).bind fun u =>
              (readParts? rest).map fun (parts, rest) => (.unit u :: parts, rest)
        | e :: rest =>
            (unescape? e).bind fun c =>
              (readParts? rest).map fun (parts, rest) => (.char c :: parts, rest)
        | [] => none
      else if c.toNat < 32 then none
      else (readParts? rest).map fun (parts, rest) => (.char c :: parts, rest)

def readWhole? (t : Text) : Option (Text × Text) :=
  match spanDigits t with
  | ([], _) => none
  | ('0' :: _ :: _, _) => none
  | split => some split

def readFraction? : Text → Option (Text × Text)
  | '.' :: rest =>
      match spanDigits rest with
      | ([], _) => none
      | split => some split
  | rest => some ([], rest)

def readExponent? : Text → Option (Option (Bool × Text) × Text)
  | [] => some (none, [])
  | mark :: rest =>
      if mark = 'e' ∨ mark = 'E' then
        match spanDigits (spanSign rest).2 with
        | ([], _) => none
        | (digits, rest') => some (some ((spanSign rest).1, digits), rest')
      else some (none, mark :: rest)

def readNumeral? (t : Text) : Option (Numeral × Text) := do
  let (negative, t) :=
    match t with
    | '-' :: rest => (true, rest)
    | t => (false, t)
  let (whole, t) ← readWhole? t
  let (fraction, t) ← readFraction? t
  let (exponent, t) ← readExponent? t
  return (⟨negative, whole, fraction, exponent⟩, t)

def readItems? (read? : Text → Option (Written × Text)) :
    Nat → Text → Option (List Written × Text)
  | 0, _ => none
  | fuel + 1, t => do
      let (item, t) ← read? t
      match skipBlank t with
      | ',' :: rest =>
          let (items, rest) ← readItems? read? fuel rest
          return (item :: items, rest)
      | ']' :: rest => return ([item], rest)
      | _ => none

def readMembers? (read? : Text → Option (Written × Text)) :
    Nat → Text → Option (List (List StringPart × Written) × Text)
  | 0, _ => none
  | fuel + 1, t => do
      let t ← expect? '"' t
      let (key, t) ← readParts? t
      let t ← expect? ':' t
      let (value, t) ← read? t
      match skipBlank t with
      | ',' :: rest =>
          let (members, rest) ← readMembers? read? fuel rest
          return ((key, value) :: members, rest)
      | '\x7d' :: rest => return ([(key, value)], rest)
      | _ => none

/-- Reads one value nested less deeply than `depth`. -/
def readWritten? : Nat → Text → Option (Written × Text)
  | 0, _ => none
  | depth + 1, t =>
      match skipBlank t with
      | '"' :: rest => (readParts? rest).map fun (parts, rest) => (.string parts, rest)
      | '[' :: rest =>
          match skipBlank rest with
          | ']' :: rest => some (.array [], rest)
          | rest =>
              (readItems? (readWritten? depth) (rest.length + 1) rest).map
                fun (items, rest) => (.array items, rest)
      | '\x7b' :: rest =>
          match skipBlank rest with
          | '\x7d' :: rest => some (.object [], rest)
          | rest =>
              (readMembers? (readWritten? depth) (rest.length + 1) rest).map
                fun (members, rest) => (.object members, rest)
      | 'n' :: 'u' :: 'l' :: 'l' :: rest => some (.null, rest)
      | 't' :: 'r' :: 'u' :: 'e' :: rest => some (.bool true, rest)
      | 'f' :: 'a' :: 'l' :: 's' :: 'e' :: rest => some (.bool false, rest)
      | t => (readNumeral? t).map fun (n, rest) => (.number n, rest)

namespace Written

def ofText? (t : Text) : Option Written := do
  let (value, rest) ← readWritten? (t.length + 1) t
  if (skipBlank rest).isEmpty then some value else none

mutual
def nesting : Written → Nat
  | .array items => itemsNesting items + 1
  | .object members => membersNesting members + 1
  | _ => 0

def itemsNesting : List Written → Nat
  | [] => 0
  | item :: rest => max item.nesting (itemsNesting rest)

def membersNesting : List (List StringPart × Written) → Nat
  | [] => 0
  | (_, value) :: rest => max value.nesting (membersNesting rest)
end

end Written

def isLeadingUnit (u : Nat) : Bool := 0xD800 ≤ u && u < 0xDC00

def isTrailingUnit (u : Nat) : Bool := 0xDC00 ≤ u && u < 0xE000

def partsText? : List StringPart → Option Text
  | [] => some []
  | .char c :: rest => (partsText? rest).map (c :: ·)
  | .unit u :: rest =>
      if isLeadingUnit u then
        match rest with
        | .unit v :: rest =>
            if isTrailingUnit v then
              (partsText? rest).map
                (Char.ofNat (0x10000 + (u - 0xD800) * 0x400 + (v - 0xDC00)) :: ·)
            else none
        | _ => none
      else if isTrailingUnit u then none
      else (partsText? rest).map (Char.ofNat u :: ·)

namespace Written

mutual
/-- Of members with one key the first gives the place and the last the value. -/
def valueWith? (number? : Numeral → Option Number) : Written → Option Json
  | .null => some .null
  | .bool b => some (.bool b)
  | .number n => (number? n).map .number
  | .string parts => (partsText? parts).map .string
  | .array items => (itemValuesWith? number? items).map .array
  | .object members =>
      (memberValuesWith? number? members).map fun members => .object (Entries.collect members)

def itemValuesWith? (number? : Numeral → Option Number) : List Written → Option (List Json)
  | [] => some []
  | item :: rest => do
      let item ← item.valueWith? number?
      let rest ← itemValuesWith? number? rest
      return item :: rest

def memberValuesWith? (number? : Numeral → Option Number) :
    List (List StringPart × Written) → Option (List (Text × Json))
  | [] => some []
  | (key, value) :: rest => do
      let key ← partsText? key
      let value ← value.valueWith? number?
      let rest ← memberValuesWith? number? rest
      return (key, value) :: rest
end

def value? (written : Written) : Option Json := written.valueWith? Numeral.number?

def memberValues? (members : List (List StringPart × Written)) : Option (List (Text × Json)) :=
  memberValuesWith? Numeral.number? members

end Written

def maxNesting : Nat := 127

def ofTextWith? (number? : Numeral → Option Number) (t : Text) : Option Json :=
  (Written.ofText? t).bind fun written =>
    if written.nesting ≤ maxNesting then written.valueWith? number? else none

def ofText? (t : Text) : Option Json := ofTextWith? Numeral.number? t

end RouteTree.Json
