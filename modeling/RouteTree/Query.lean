import RouteTree.PathTemplate
import RouteTree.Unicode.Blank

namespace RouteTree

namespace Text

/-- The texts that occur, in the order of their first occurrences. -/
def firstOccurrences : List Text → List Text
  | [] => []
  | t :: rest => t :: (firstOccurrences rest).filter (· != t)

end Text

namespace Query

def declaredKey (piece : Text) : Text := (piece.cut '=').1.trim

/-- The keys declared by pieces between ampersands, each once; empty keys do not count. -/
def declaredKeys (declaration : Text) : List Text :=
  Text.firstOccurrences
    (((declaration.splitOn '&').map declaredKey).filter fun key => !key.isEmpty)

private def renderedKey (encode : Bool) (key : Text) : Text :=
  if encode then key.percentEncode else key

def pairText (encode : Bool) (entry : Text × Value) : Text :=
  renderedKey encode entry.1 ++ '=' :: entry.2.rendered encode

/-- The query string with its question mark; empty without values. -/
def text (encode : Bool) (values : Bindings Value) : Text :=
  if values.isEmpty then []
  else '?' :: Text.join ['&'] (values.entries.map (pairText encode))

def optionalText (encode : Bool) : Option (Bindings Value) → Text
  | none => []
  | some values => text encode values

def checkKeys (expected : List Text) (values : Bindings Value) (route : Text) :
    Except RouteError Unit :=
  if values.size == expected.length && values.keys.all expected.contains then .ok ()
  else .error (.queryKeys route expected values.keys)

/-- The keys are checked when `strict` and when keys are declared. -/
def checkedText (expected : List Text) (strict encode : Bool) (route : Text) :
    Option (Bindings Value) → Except RouteError Text
  | none => .ok []
  | some values => do
      if strict && !expected.isEmpty then checkKeys expected values route
      return text encode values

end Query

end RouteTree
