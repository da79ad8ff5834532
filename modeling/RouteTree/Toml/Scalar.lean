import RouteTree.Number.Decimal
import RouteTree.Text.Hex
import RouteTree.Toml

namespace RouteTree.Toml

/-! Strings, numbers, dates and times as they are written in TOML. -/

def isBlank (c : Char) : Bool := c == ' ' || c == '\t'

def skipBlank (t : Text) : Text := t.dropWhile isBlank

def lineEnd? : Text → Option Text
  | '\n' :: rest => some rest
  | '\r' :: '\n' :: rest => some rest
  | _ => none

/-- Characters that strings and comments can hold: no control characters but the tab. -/
def isTextual (c : Char) : Bool := c == '\t' || (0x20 ≤ c.toNat && c != '\x7f')

def readCode? (width : Nat) (t : Text) : Option (Char × Text) :=
  let digits := t.take width
  if digits.length < width then none
  else
    (Text.hexDigitsValue? digits).bind fun code =>
      (Text.charOfCode? code).map fun c => (c, t.drop width)

def readEscape? : Text → Option (Char × Text)
  | [] => none
  | c :: rest =>
      if c = 'b' then some ('\x08', rest)
      else if c = 't' then some ('\t', rest)
      else if c = 'n' then some ('\n', rest)
      else if c = 'f' then some ('\x0c', rest)
      else if c = 'r' then some ('\r', rest)
      else if c = '"' then some ('"', rest)
      else if c = '\\' then some ('\\', rest)
      else if c = 'u' then readCode? 4 rest
      else if c = 'U' then readCode? 8 rest
      else none

def readBasic? : Nat → Text → Option (Text × Text)
  | 0, _ => none
  | fuel + 1, t =>
      match t with
      | [] => none
      | '"' :: rest => some ([], rest)
      | '\\' :: rest => do
          let (c, rest) ← readEscape? rest
          let (s, rest) ← readBasic? fuel rest
          return (c :: s, rest)
      | c :: rest =>
          if isTextual c then (readBasic? fuel rest).map fun (s, rest) => (c :: s, rest)
          else none

def readLiteral? (t : Text) : Option (Text × Text) :=
  match t.dropWhile fun c => isTextual c && c != '\'' with
  | '\'' :: rest => some (t.takeWhile fun c => isTextual c && c != '\'', rest)
  | _ => none

/-- One or two more quotes in front of the closing three belong to the string. -/
def closing? (quote : Char) (t : Text) : Option (Text × Text) :=
  let row := (t.takeWhile (· == quote)).length
  if row < 3 then none
  else
    let extra := min (row - 3) 2
    some (List.replicate extra quote, t.drop (extra + 3))

def skipBlankLines : Text → Text
  | '\r' :: '\n' :: rest => skipBlankLines rest
  | c :: rest => if isBlank c || c == '\n' then skipBlankLines rest else c :: rest
  | [] => []

/-- Drops the line end after a backslash, with all blanks and line ends that follow it. -/
def dropFoldedLine? (t : Text) : Option Text := (lineEnd? (skipBlank t)).map skipBlankLines

def readLines? (quote : Char) (escapes : Bool) : Nat → Text → Option (Text × Text)
  | 0, _ => none
  | fuel + 1, t =>
      match closing? quote t with
      | some result => some result
      | none =>
          match lineEnd? t with
          | some rest => (readLines? quote escapes fuel rest).map fun (s, rest) => ('\n' :: s, rest)
          | none =>
              match t with
              | [] => none
              | c :: rest =>
                  if escapes && c == '\\' then
                    match dropFoldedLine? rest with
                    | some after => readLines? quote escapes fuel after
                    | none => do
                        let (c, rest) ← readEscape? rest
                        let (s, rest) ← readLines? quote escapes fuel rest
                        return (c :: s, rest)
                  else if isTextual c then
                    (readLines? quote escapes fuel rest).map fun (s, rest) => (c :: s, rest)
                  else none

/-- A line end right after the opening quotes does not count. -/
def dropFirstLineEnd (t : Text) : Text := (lineEnd? t).getD t

def readString? (t : Text) : Option (Text × Text) :=
  match t with
  | '"' :: '"' :: '"' :: rest => readLines? '"' true (rest.length + 1) (dropFirstLineEnd rest)
  | '\'' :: '\'' :: '\'' :: rest =>
      readLines? '\'' false (rest.length + 1) (dropFirstLineEnd rest)
  | '"' :: rest => readBasic? (rest.length + 1) rest
  | '\'' :: rest => readLiteral? rest
  | _ => none

def readField? (width low high : Nat) (t : Text) : Option (Nat × Text) :=
  let digits := t.take width
  if digits.length = width ∧ digits.all isDigit ∧ low ≤ digitsValue digits ∧
      digitsValue digits ≤ high then
    some (digitsValue digits, t.drop width)
  else none

def isLeapYear (year : Nat) : Bool := year % 4 == 0 && (year % 100 != 0 || year % 400 == 0)

def daysInMonth (year month : Nat) : Nat :=
  if month = 2 then if isLeapYear year then 29 else 28
  else if month = 4 ∨ month = 6 ∨ month = 9 ∨ month = 11 then 30
  else 31

def expect? (c : Char) : Text → Option Text
  | [] => none
  | d :: rest => if d = c then some rest else none

private def digitsOf (width n : Nat) : Text :=
  let digits := Nat.toDigits 10 n
  List.replicate (width - digits.length) '0' ++ digits

def readDate? (t : Text) : Option (Text × Text) := do
  let (year, t) ← readField? 4 0 9999 t
  let t ← expect? '-' t
  let (month, t) ← readField? 2 1 12 t
  let t ← expect? '-' t
  let (day, t) ← readField? 2 1 31 t
  if day ≤ daysInMonth year month then
    return (digitsOf 4 year ++ '-' :: digitsOf 2 month ++ '-' :: digitsOf 2 day, t)
  else none

/-- At most nine digits count, and zeros at the end do not. -/
def readSecondFraction? (t : Text) : Option (Text × Text) :=
  match t with
  | '.' :: rest =>
      let (digits, rest) := spanDigits rest
      if digits.isEmpty then none
      else
        let kept := (((digits.take 9).reverse.dropWhile (· == '0'))).reverse
        some (if kept.isEmpty then [] else '.' :: kept, rest)
  | rest => some ([], rest)

def readTime? (t : Text) : Option (Text × Text) := do
  let (hour, t) ← readField? 2 0 23 t
  let t ← expect? ':' t
  let (minute, t) ← readField? 2 0 59 t
  let t ← expect? ':' t
  let (second, t) ← readField? 2 0 60 t
  let (fraction, t) ← readSecondFraction? t
  return (digitsOf 2 hour ++ ':' :: digitsOf 2 minute ++ ':' :: digitsOf 2 second ++ fraction, t)

def readOffset? (t : Text) : Option (Text × Text) :=
  match t with
  | [] => some ([], [])
  | sign :: rest =>
      if sign = 'Z' ∨ sign = 'z' then some (['Z'], rest)
      else if sign = '+' ∨ sign = '-' then do
        let (hour, t) ← readField? 2 0 23 rest
        let t ← expect? ':' t
        let (minute, t) ← readField? 2 0 59 t
        let sign := if hour = 0 ∧ minute = 0 then '+' else sign
        return (sign :: digitsOf 2 hour ++ ':' :: digitsOf 2 minute, t)
      else some ([], sign :: rest)

/-- Whether a time must follow: two digits and a colon stand there. -/
def startsTime (t : Text) : Bool :=
  match readField? 2 0 23 t with
  | some (_, ':' :: _) => true
  | _ => false

def readMoment? (t : Text) : Option (Text × Text) :=
  if startsTime t then readTime? t
  else do
    let (day, rest) ← readDate? t
    match rest with
    | [] => return (day, [])
    | mark :: after =>
        if (mark = 'T' ∨ mark = 't' ∨ mark = ' ') ∧ startsTime after then
          let (time, rest) ← readTime? after
          let (offset, rest) ← readOffset? rest
          return (day ++ 'T' :: time ++ offset, rest)
        else return (day, rest)

/-- Whether a date stands there, well formed or not. -/
def startsDate (t : Text) : Bool :=
  match readField? 4 0 9999 t with
  | some (_, '-' :: _) => true
  | _ => false

/-- Single underscores can stand between the digits and are dropped. -/
def readDigits? (isDigit : Char → Bool) : Text → Option (Text × Text)
  | [] => none
  | c :: rest =>
      if isDigit c then
        match rest with
        | '_' :: rest => (readDigits? isDigit rest).map fun (digits, rest) => (c :: digits, rest)
        | d :: rest =>
            if isDigit d then
              (readDigits? isDigit (d :: rest)).map fun (digits, rest) => (c :: digits, rest)
            else some ([c], d :: rest)
        | [] => some ([c], [])
      else none

def radixDigit (radix : Nat) (c : Char) : Bool :=
  match Text.hexValue? c with
  | some value => value < radix
  | none => false

def radixValue (radix : Nat) (digits : Text) : Nat :=
  digits.foldl (fun value c => radix * value + (Text.hexValue? c).getD 0) 0

def whole? (n : Int) : Option Toml :=
  if -(2 ^ 63 : Int) ≤ n ∧ n < 2 ^ 63 then some (.whole n) else none

def readRadix? (radix : Nat) (t : Text) : Option (Toml × Text) := do
  let (digits, rest) ← readDigits? (radixDigit radix) t
  let value ← whole? (radixValue radix digits)
  return (value, rest)

def readWholeDigits? (t : Text) : Option (Text × Text) :=
  match t with
  | '0' :: rest => some (['0'], rest)
  | t => readDigits? isDigit t

def readFraction? (t : Text) : Option (Text × Text) :=
  match t with
  | '.' :: rest => readDigits? isDigit rest
  | rest => some ([], rest)

def readExponent? (t : Text) : Option (Option Int × Text) :=
  match t with
  | [] => some (none, [])
  | mark :: rest =>
      if mark = 'e' ∨ mark = 'E' then do
        let (digits, after) ← readDigits? isDigit (spanSign rest).2
        let value : Int := digitsValue digits
        return (some (if (spanSign rest).1 then -value else value), after)
      else some (none, mark :: rest)

/-- Reads a number in decimal notation; only a negative one can be too large. -/
def readDecimal? (negative : Bool) (t : Text) : Option (Toml × Text) := do
  let (digits, t) ← readWholeDigits? t
  let (fraction, t) ← readFraction? t
  let (exponent, t) ← readExponent? t
  if fraction.isEmpty && exponent.isNone then
    let value ← whole? (if negative then -(digitsValue digits : Int) else digitsValue digits)
    return (value, t)
  else
    let decimal : Decimal :=
      { negative := negative
        coefficient := digitsValue (digits ++ fraction)
        exponent := exponent.getD 0 - fraction.length }
    let x := decimal.toBinary64
    if x = .infinite false then none else return (.binary x, t)

def readNumeric? (t : Text) : Option (Toml × Text) :=
  if startsDate t || startsTime t then (readMoment? t).map fun (text, rest) => (.date text, rest)
  else
    match t with
    | '0' :: 'x' :: rest => readRadix? 16 rest
    | '0' :: 'o' :: rest => readRadix? 8 rest
    | '0' :: 'b' :: rest => readRadix? 2 rest
    | _ =>
        let signed := spanSign t
        match signed.2 with
        | 'i' :: 'n' :: 'f' :: rest => some (.binary (.infinite signed.1), rest)
        | 'n' :: 'a' :: 'n' :: rest => some (.binary .nan, rest)
        | digits => readDecimal? signed.1 digits

end RouteTree.Toml
