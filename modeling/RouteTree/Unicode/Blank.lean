import RouteTree.Text
import RouteTree.Unicode.Ranges

namespace RouteTree.Unicode

/-! The characters with the property White_Space. -/

def blankRanges : Ranges :=
  [(0x9, 0xD), (0x20, 0x20), (0x85, 0x85), (0xA0, 0xA0), (0x1680, 0x1680), (0x2000, 0x200A),
    (0x2028, 0x2029), (0x202F, 0x202F), (0x205F, 0x205F), (0x3000, 0x3000)]

def isBlank (c : Char) : Bool := blankRanges.contains c

end RouteTree.Unicode

namespace RouteTree.Text

def trim (t : Text) : Text := t.strip Unicode.isBlank

end RouteTree.Text
