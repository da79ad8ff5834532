import RouteTree.Bindings
import RouteTree.Number.Shortest

namespace RouteTree

/-- A number is whole when it was written so and is small enough, else binary. -/
inductive Json.Number
  | whole (n : Int)
  | binary (x : Binary64)
deriving DecidableEq, Repr

inductive Json
  | null
  | bool (b : Bool)
  | number (n : Json.Number)
  | string (s : Text)
  | array (items : List Json)
  | object (members : List (Text × Json))
deriving Repr

def wholeText (n : Int) : Text := signed (decide (n < 0)) (Nat.toDigits 10 n.natAbs)

namespace Json

/-- Positional with a fraction between a hundred-thousandth and `10 ^ 16`, else with an exponent. -/
def binaryText : Binary64 → Text
  | .finite negative m =>
      if m = .zero then signed negative "0.0".toList
      else
        let shortest := m.shortest .even
        if -5 ≤ shortest.exponent ∧ shortest.exponent < 16 then
          signed negative (shortest.positional ".0".toList)
        else signed negative shortest.exponential
  | _ => "null".toList

def Number.text : Number → Text
  | .whole n => wholeText n
  | .binary x => binaryText x

def hexDigit (n : Nat) : Char := Nat.digitChar n

def escape (c : Char) : Text :=
  if c = '"' then ['\\', '"']
  else if c = '\\' then ['\\', '\\']
  else if c = '\x08' then ['\\', 'b']
  else if c = '\x0c' then ['\\', 'f']
  else if c = '\n' then ['\\', 'n']
  else if c = '\r' then ['\\', 'r']
  else if c = '\t' then ['\\', 't']
  else if c.toNat < 32 then
    ['\\', 'u', '0', '0', hexDigit (c.toNat / 16), hexDigit (c.toNat % 16)]
  else [c]

def quote (s : Text) : Text := '"' :: (s.flatMap escape ++ ['"'])

mutual
def text : Json → Text
  | .null => "null".toList
  | .bool b => if b then "true".toList else "false".toList
  | .number n => n.text
  | .string s => quote s
  | .array items => '[' :: (Text.join [','] (itemTexts items) ++ [']'])
  | .object members => '\x7b' :: (Text.join [','] (memberTexts members) ++ ['\x7d'])

def itemTexts : List Json → List Text
  | [] => []
  | item :: rest => item.text :: itemTexts rest

def memberTexts : List (Text × Json) → List Text
  | [] => []
  | (key, value) :: rest => (quote key ++ ':' :: value.text) :: memberTexts rest
end

end Json

end RouteTree
