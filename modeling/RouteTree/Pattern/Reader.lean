import RouteTree.Number.Decimal
import RouteTree.Pattern.Property

namespace RouteTree.Pattern

/-! Reading patterns. A text that is no pattern is refused without a reason. -/

structure Flags where
  ignoreCase : Bool
  multiLine : Bool
  dotAll : Bool
  verbose : Bool
  unicode : Bool
  anyLineEnd : Bool
deriving DecidableEq, Repr

def Flags.initial : Flags := ⟨false, false, false, false, true, false⟩

/-- Drops blanks and comments up to the next character that counts. -/
def dropIgnored (inComment : Bool) : Text → Text
  | [] => []
  | c :: rest =>
      if inComment then dropIgnored (c != '\n') rest
      else if c = '#' then dropIgnored true rest
      else if Unicode.isBlank c then dropIgnored false rest
      else c :: rest

def skip (flags : Flags) (t : Text) : Text :=
  if flags.verbose then dropIgnored false t else t

def Flags.set? (flags : Flags) (letter : Char) (value : Bool) : Option Flags :=
  if letter = 'i' then some { flags with ignoreCase := value }
  else if letter = 'm' then some { flags with multiLine := value }
  else if letter = 's' then some { flags with dotAll := value }
  else if letter = 'x' then some { flags with verbose := value }
  else if letter = 'u' then some { flags with unicode := value }
  else if letter = 'R' then some { flags with anyLineEnd := value }
  else if letter = 'U' then some flags
  else none

/-- The flags, the character after their letters, and whether there was a letter. -/
def readFlags? (seen : List Char) (dangling : Bool) (flags : Flags) :
    Text → Option (Flags × Char × Bool × Text)
  | [] => none
  | c :: rest =>
      if c = ':' ∨ c = ')' then
        if dangling then none else some (flags, c, !seen.isEmpty, rest)
      else if seen.contains c then none
      else if c = '-' then readFlags? (c :: seen) true flags rest
      else
        (flags.set? c (!seen.contains '-')).bind fun flags =>
          readFlags? (c :: seen) false flags rest

inductive Escape
  /-- A character, and whether it was written as a byte. -/
  | char (c : Char) (isByte : Bool)
  | set (set : CharSet)
  | anchor (a : Anchor)

def isMeta (c : Char) : Bool := "\\.+*?()|[]\x7b\x7d^$#&-~".toList.contains c

/-- ASCII characters that stand for themselves after a backslash. -/
def isEscapable (c : Char) : Bool :=
  isMeta c || (c.toNat < 128 && !c.isAlphanum && c != '<' && c != '>')

def readHexDigits? (flags : Flags) : Nat → Text → Option (Text × Text)
  | 0, t => some ([], t)
  | n + 1, t =>
      match t with
      | [] => none
      | c :: rest =>
          if (Text.hexValue? c).isSome then
            (readHexDigits? flags n (skip flags rest)).map fun (digits, rest) =>
              (c :: digits, rest)
          else none

def readBracedHex? (flags : Flags) (t : Text) : Option (Text × Text) :=
  let inside := t.takeWhile (· != '\x7d')
  let digits := if flags.verbose then inside.filter (!Unicode.isBlank ·) else inside
  match t.dropWhile (· != '\x7d') with
  | [] => none
  | _ :: rest => if digits.isEmpty then none else some (digits, rest)

def readHex? (flags : Flags) (width : Nat) (isByte : Bool) (t : Text) :
    Option (Escape × Text) := do
  let (digits, isByte, rest) ←
    match skip flags t with
    | '\x7b' :: rest => (readBracedHex? flags rest).map fun (digits, rest) => (digits, false, rest)
    | t => (readHexDigits? flags width t).map fun (digits, rest) => (digits, isByte, rest)
  let code ← Text.hexDigitsValue? digits
  let c ← Text.charOfCode? code
  return (.char c isByte, rest)

def readProperty? (flags : Flags) (negated : Bool) (t : Text) : Option (Escape × Text) := do
  if !flags.unicode then none
  let (set, rest) ←
    match skip flags t with
    | [] => none
    | '\x7b' :: rest =>
        let inside := rest.takeWhile (· != '\x7d')
        match rest.dropWhile (· != '\x7d') with
        | [] => none
        | _ :: rest =>
            let set :=
              match Text.cut '!' inside with
              | (name, some ('=' :: value)) =>
                  (Named.propertyValue? name value).map CharSet.complement
              | _ =>
                  match Text.cut ':' inside, Text.cut '=' inside with
                  | (name, some value), _ => Named.propertyValue? name value
                  | _, (name, some value) => Named.propertyValue? name value
                  | (name, none), _ => Named.property? name
            set.map fun set => (set, rest)
    | c :: rest => (Named.property? [c]).map fun set => (set, rest)
  return (.set (if negated then .complement set else set), rest)

def readBoundary? (flags : Flags) (isWord : CharSet) : Text → Option (Anchor × Text)
  | '\x7b' :: rest =>
      let isNameCharacter (c : Char) : Bool := c.isAlpha || c == '-'
      let inside := skip flags rest
      match inside with
      | [] => none
      | c :: _ =>
          if isNameCharacter c then
            let name := String.ofList (inside.takeWhile isNameCharacter)
            match inside.dropWhile isNameCharacter with
            | '\x7d' :: rest =>
                if name = "start" then some (.wordStart isWord, rest)
                else if name = "end" then some (.wordEnd isWord, rest)
                else if name = "start-half" then some (.wordStartHalf isWord, rest)
                else if name = "end-half" then some (.wordEndHalf isWord, rest)
                else none
            | _ => none
          else some (.wordBoundary isWord, '\x7b' :: rest)
  | rest => some (.wordBoundary isWord, rest)

private def negatedSet? (flags : Flags) (set : CharSet) : Option CharSet :=
  if flags.unicode then some (.complement set) else none

def readEscape? (flags : Flags) : Text → Option (Escape × Text)
  | [] => none
  | c :: rest =>
      let isWord := Named.wordSet flags.unicode
      let char (c : Char) : Option (Escape × Text) := some (.char c false, rest)
      let set (set : Option CharSet) : Option (Escape × Text) :=
        set.map fun set => (.set set, rest)
      if c = 'x' then readHex? flags 2 true rest
      else if c = 'u' then readHex? flags 4 false rest
      else if c = 'U' then readHex? flags 8 false rest
      else if c = 'p' then readProperty? flags false rest
      else if c = 'P' then readProperty? flags true rest
      else if c = 'd' then set (some (Named.digitSet flags.unicode))
      else if c = 's' then set (some (Named.blankSet flags.unicode))
      else if c = 'w' then set (some isWord)
      else if c = 'D' then set (negatedSet? flags (Named.digitSet flags.unicode))
      else if c = 'S' then set (negatedSet? flags (Named.blankSet flags.unicode))
      else if c = 'W' then set (negatedSet? flags isWord)
      else if isEscapable c then char c
      else if c = 'a' then char '\x07'
      else if c = 'f' then char '\x0c'
      else if c = 't' then char '\t'
      else if c = 'n' then char '\n'
      else if c = 'r' then char '\r'
      else if c = 'v' then char '\x0b'
      else if c = 'A' then some (.anchor .textStart, rest)
      else if c = 'z' then some (.anchor .textEnd, rest)
      else if c = 'B' then some (.anchor (.noWordBoundary isWord), rest)
      else if c = '<' then some (.anchor (.wordStart isWord), rest)
      else if c = '>' then some (.anchor (.wordEnd isWord), rest)
      else if c = 'b' then
        (readBoundary? flags isWord rest).map fun (a, rest) => (.anchor a, rest)
      else none

def foldCase (flags : Flags) (set : CharSet) : CharSet :=
  if flags.ignoreCase then
    if flags.unicode then .anyCase set else .intersection (.anyCase set) Named.ascii
  else set

def readSetItem? (flags : Flags) : Text → Option ((Char ⊕ CharSet) × Text)
  | [] => none
  | '\\' :: rest =>
      match readEscape? flags rest with
      | some (.char c _, rest) =>
          if flags.unicode || c.toNat < 128 then some (.inl c, rest) else none
      | some (.set set, rest) => some (.inr set, rest)
      | _ => none
  | c :: rest => if flags.unicode || c.toNat < 128 then some (.inl c, rest) else none

def readSetRange? (flags : Flags) (t : Text) : Option (CharSet × Text) := do
  let (first, t) ← readSetItem? flags t
  let single : CharSet :=
    match first with
    | .inl c => .single c
    | .inr set => set
  match skip flags t with
  | [] => none
  | '-' :: rest =>
      match skip flags rest with
      | [] => none
      | d :: after =>
          if d = ']' ∨ d = '-' then return (single, skip flags t)
          else
            let (last, rest) ← readSetItem? flags (d :: after)
            match first, last with
            | .inl low, .inl high =>
                if low ≤ high then return (.ranges [(low.toNat, high.toNat)], rest) else none
            | _, _ => none
  | rest => return (single, rest)

/-- A class such as `[:alpha:]`, after its opening bracket. -/
def readAsciiClass? : Text → Option (CharSet × Text)
  | ':' :: rest =>
      let (negated, rest) :=
        match rest with
        | '^' :: rest => (true, rest)
        | rest => (false, rest)
      match rest.dropWhile (· != ':') with
      | ':' :: ']' :: after =>
          (Named.asciiClass? (rest.takeWhile (· != ':'))).map fun set =>
            (if negated then .complement set else set, after)
      | _ => none
  | _ => none

abbrev SetOperation := CharSet → CharSet → CharSet

private def finish (flags : Flags) (pending : Option (SetOperation × CharSet)) (items : CharSet) :
    CharSet :=
  match pending with
  | none => foldCase flags items
  | some (operation, left) => operation left (foldCase flags items)

/-- Hyphens, or else one closing bracket, that stand for themselves after the opening bracket. -/
def readLeading (flags : Flags) : Nat → CharSet → Text → CharSet × Text
  | fuel + 1, items, '-' :: rest =>
      let more := skip flags rest
      match more with
      | ']' :: _ => (.union items (.single '-'), more)
      | _ => readLeading flags fuel (.union items (.single '-')) more
  | _, items, ']' :: rest => (.union items (.single ']'), skip flags rest)
  | _, items, rest => (items, rest)

mutual
def readSet? : Nat → Flags → Text → Option (CharSet × Text)
  | 0, _, _ => none
  | fuel + 1, flags, t => do
      let (negated, t) :=
        match skip flags t with
        | '^' :: rest => (true, skip flags rest)
        | t => (false, t)
      let (items, t) := readLeading flags t.length .empty t
      let (set, rest) ← readSetItems? fuel flags none items t
      if negated then
        let set ← negatedSet? flags set
        return (set, rest)
      else return (set, rest)

def readSetItems? : Nat → Flags → Option (SetOperation × CharSet) → CharSet → Text →
    Option (CharSet × Text)
  | 0, _, _, _, _ => none
  | fuel + 1, flags, pending, items, t =>
      match skip flags t with
      | [] => none
      | ']' :: rest => some (finish flags pending items, rest)
      | '[' :: rest =>
          match readAsciiClass? rest with
          | some (set, rest) => readSetItems? fuel flags pending (.union items set) rest
          | none => do
              let (set, rest) ← readSet? fuel flags rest
              readSetItems? fuel flags pending (.union items set) rest
      | '&' :: '&' :: rest =>
          readSetItems? fuel flags (some (.intersection, finish flags pending items)) .empty rest
      | '-' :: '-' :: rest =>
          readSetItems? fuel flags (some (.difference, finish flags pending items)) .empty rest
      | '~' :: '~' :: rest =>
          readSetItems? fuel flags
            (some (.symmetricDifference, finish flags pending items)) .empty rest
      | t => do
          let (set, rest) ← readSetRange? flags t
          readSetItems? fuel flags pending (.union items set) rest
end

/-- A whole number below `2 ^ 32`, with blanks around it. -/
def readCount? (t : Text) : Option (Nat × Text) :=
  let split := spanDigits (t.dropWhile Unicode.isBlank)
  if split.1.isEmpty then none
  else if digitsValue split.1 < 2 ^ 32 then
    some (digitsValue split.1, split.2.dropWhile Unicode.isBlank)
  else none

def readBounds? (flags : Flags) (t : Text) : Option (Nat × Option Nat × Text) := do
  let (least, t) ← readCount? (skip flags t)
  match t with
  | '\x7d' :: rest => return (least, some least, rest)
  | ',' :: rest =>
      match skip flags rest with
      | '\x7d' :: rest => return (least, none, rest)
      | t => do
          let (most, t) ← readCount? t
          match t with
          | '\x7d' :: rest => if least ≤ most then return (least, some most, rest) else none
          | _ => none
  | _ => none

/-- Drops the mark that asks for the shortest match. -/
def dropLazyMark : Text → Text
  | '?' :: rest => rest
  | rest => rest

/-- What stands in a sequence: something to match, or a change of flags. -/
inductive Piece
  | pattern (p : Pattern)
  | flags

structure State where
  rest : Text
  flags : Flags
  names : List Text
  depth : Nat

def maxDepth : Nat := 250

private def sequenceOf (pieces : List Piece) : Pattern :=
  pieces.foldl (fun later piece =>
    match piece, later with
    | .flags, later => later
    | .pattern p, .empty => p
    | .pattern p, later => .sequence p later) .empty

private def eitherOf (alternatives : List Pattern) (last : Pattern) : Pattern :=
  alternatives.foldl (fun right left => .either left right) last

def literal? (flags : Flags) (c : Char) : Option Pattern :=
  if flags.ignoreCase && !flags.unicode && 128 ≤ c.toNat then none
  else some (.char (foldCase flags (.single c)))

def dot? (flags : Flags) : Option Pattern :=
  if !flags.unicode then none
  else if flags.dotAll then some (.char Named.any)
  else if flags.anyLineEnd then some (.char (.complement (.ranges [(0xA, 0xA), (0xD, 0xD)])))
  else some (.char (.complement (.single '\n')))

def lineStart (flags : Flags) : Anchor :=
  if !flags.multiLine then .textStart
  else if flags.anyLineEnd then .anyLineStart else .lineStart

def lineEnd (flags : Flags) : Anchor :=
  if !flags.multiLine then .textEnd
  else if flags.anyLineEnd then .anyLineEnd else .lineEnd

def escaped? (flags : Flags) : Escape → Option Pattern
  | .char c isByte =>
      if isByte && !flags.unicode && 128 ≤ c.toNat then none else literal? flags c
  | .set set => some (.char set)
  | .anchor a => some (.anchor a)

def readName? (names : List Text) (t : Text) : Option (Text × Text) :=
  let name := t.takeWhile (· != '>')
  match name, t.dropWhile (· != '>') with
  | first :: more, _ :: rest =>
      if Named.startsName first && more.all Named.continuesName && !names.contains name then
        some (name, rest)
      else none
  | _, _ => none

/-- How a parenthesis goes on: a change of flags for what follows, or a group. -/
inductive Opening
  | change (flags : Flags) (rest : Text)
  | group (flags : Flags) (names : List Text) (rest : Text)

def readOpening? (s : State) (t : Text) : Option Opening :=
  let named (t : Text) : Option Opening :=
    (readName? s.names t).map fun (name, rest) => .group s.flags (name :: s.names) rest
  match skip s.flags t with
  | '?' :: '=' :: _ => none
  | '?' :: '!' :: _ => none
  | '?' :: '<' :: '=' :: _ => none
  | '?' :: '<' :: '!' :: _ => none
  | '?' :: 'P' :: '<' :: rest => named rest
  | '?' :: '<' :: rest => named rest
  | '?' :: rest => do
      let (flags, last, changed, rest) ← readFlags? [] false s.flags rest
      if last = ')' then
        if changed then return .change flags rest else none
      else return .group flags s.names rest
  | rest => some (.group s.flags s.names rest)

private def repeatLast? (pieces : List Piece) (least : Nat) (most : Option Nat) :
    Option (List Piece) :=
  match pieces with
  | .pattern p :: earlier => some (.pattern (.repeated p least most) :: earlier)
  | _ => none

/-- The earlier alternatives and the earlier pieces of this one come in reverse. -/
def readBody? : Nat → State → List Pattern → List Piece → Option (Pattern × State)
  | 0, _, _, _ => none
  | fuel + 1, s, alternatives, pieces =>
      let goOn (pieces : List Piece) (rest : Text) : Option (Pattern × State) :=
        readBody? fuel { s with rest := rest } alternatives pieces
      let repetition (least : Nat) (most : Option Nat) (rest : Text) :
          Option (Pattern × State) :=
        (repeatLast? pieces least most).bind fun pieces => goOn pieces (dropLazyMark rest)
      let piece (p : Option Pattern) (rest : Text) : Option (Pattern × State) :=
        p.bind fun p => goOn (.pattern p :: pieces) rest
      match skip s.flags s.rest with
      | [] => some (eitherOf alternatives (sequenceOf pieces), { s with rest := [] })
      | ')' :: rest => some (eitherOf alternatives (sequenceOf pieces), { s with rest := ')' :: rest })
      | '|' :: rest =>
          readBody? fuel { s with rest := rest } (sequenceOf pieces :: alternatives) []
      | '(' :: rest => do
          match ← readOpening? s rest with
          | .change flags rest =>
              readBody? fuel { s with rest := rest, flags := flags } alternatives (.flags :: pieces)
          | .group flags names rest =>
              if maxDepth ≤ s.depth then none
              let (p, inner) ← readBody? fuel ⟨rest, flags, names, s.depth + 1⟩ [] []
              match inner.rest with
              | ')' :: rest =>
                  readBody? fuel { s with rest := rest, names := inner.names } alternatives
                    (.pattern p :: pieces)
              | _ => none
      | '[' :: rest => do
          let (set, rest) ← readSet? (rest.length + 1) s.flags rest
          goOn (.pattern (.char set) :: pieces) rest
      | '*' :: rest => repetition 0 none rest
      | '+' :: rest => repetition 1 none rest
      | '?' :: rest => repetition 0 (some 1) rest
      | '\x7b' :: rest => do
          let (least, most, rest) ← readBounds? s.flags rest
          repetition least most rest
      | '.' :: rest => piece (dot? s.flags) rest
      | '^' :: rest => piece (some (.anchor (lineStart s.flags))) rest
      | '$' :: rest => piece (some (.anchor (lineEnd s.flags))) rest
      | '\\' :: rest => do
          let (escape, rest) ← readEscape? s.flags rest
          piece (escaped? s.flags escape) rest
      | c :: rest => piece (literal? s.flags c) rest

private def rangesCost (table : Unicode.Ranges) : Nat :=
  table.foldl (fun cost range => cost + if range.2 < 128 then 8 else 64) 0

private def setCost : CharSet → Nat
  | .ranges table => rangesCost table
  | .union left right => setCost left + setCost right
  | .intersection left right => setCost left + setCost right
  | .difference left right => setCost left + setCost right
  | .symmetricDifference left right => setCost left + setCost right
  | .complement set => setCost set + 400
  | .anyCase set => 2 * setCost set

/-- An estimate of the memory that a pattern takes when its repetitions are written out. -/
def cost : Pattern → Nat
  | .empty => 0
  | .char set => 32 + setCost set
  | .anchor _ => 32
  | .sequence first second => cost first + cost second
  | .either left right => cost left + cost right + 40
  | .repeated p least none => (cost p + 8) * max least 1 + 40
  | .repeated p _ (some most) => (cost p + 8) * most + 40

def maxCost : Nat := 10 * 2 ^ 20

def ofText? (t : Text) : Option Pattern := do
  let (p, s) ← readBody? (t.length + 1) ⟨t, .initial, [], 0⟩ [] []
  if s.rest.isEmpty && p.cost ≤ maxCost then return p else none

end RouteTree.Pattern
