import RouteTree.Unicode.Category

namespace RouteTree.Text

/-! Names in quotes, with the characters escaped that would not be seen as they are. -/

open Unicode

private def isInvisible (c : Char) : Bool :=
  c != ' ' &&
    [controls, formats, privateUse, spaceSeparators, lineSeparators, paragraphSeparators,
      nonspacingMarks, enclosingMarks].any (Ranges.contains · c)

private def lowerHex (n : Nat) : Text := Nat.toDigits 16 n

private def quotedChar (c : Char) : Text :=
  if c = '"' ∨ c = '\\' then ['\\', c]
  else if c = '\x00' then ['\\', '0']
  else if c = '\t' then ['\\', 't']
  else if c = '\n' then ['\\', 'n']
  else if c = '\r' then ['\\', 'r']
  else if isInvisible c then '\\' :: 'u' :: '\x7b' :: (lowerHex c.toNat ++ ['\x7d'])
  else [c]

def quoted (t : Text) : Text := '"' :: (t.flatMap quotedChar ++ ['"'])

end RouteTree.Text
