import RouteTree.Text

namespace RouteTree

inductive RouteError
  | missingBase (label : Text)
  | reservedKey (key label : Text)
  | parameterCount (route : Text) (expected found : Nat)
  | missingParameter (key route : Text)
  | queryKeys (route : Text) (expected found : List Text)
  | refusedUrl (url : Text)
  | missingSlash (fragment label : Text)
  | badPattern (pattern : Text)
deriving DecidableEq, Repr

namespace RouteError

private def keyList (keys : List Text) : Text := Text.join [',', ' '] keys

private def strictOption : Text := "Option strict_key_names is set but ".toList

def message : RouteError → Text
  | .missingBase label =>
      "Base key must exist on every object and the value must be a string: ".toList ++ label
  | .reservedKey key label =>
      "Key \"".toList ++ key ++ "\" under \"".toList ++ label ++
        "\" collides with the base key".toList
  | .parameterCount route expected found =>
      strictOption ++ "the number of keys on the value object (".toList ++
        Nat.toDigits 10 found ++ ") did not match the number of URL parameters (".toList ++
        Nat.toDigits 10 expected ++ ") for route \"".toList ++ route ++ ['"']
  | .missingParameter key route =>
      strictOption ++ '"' :: key ++
        "\" was not present on the value object for route \"".toList ++ route ++ ['"']
  | .queryKeys route expected found =>
      strictOption ++ "the query keys [".toList ++ keyList found ++
        "] did not match the declared keys [".toList ++ keyList expected ++
        "] for route \"".toList ++ route ++ ['"']
  | .refusedUrl url =>
      "URL \"".toList ++ url ++ "\" failed to pass validation".toList
  | .missingSlash fragment label =>
      "Path \"".toList ++ fragment ++ "\" under \"".toList ++ label ++
        "\" must begin with a forward slash".toList
  | .badPattern pattern =>
      "Invalid URL validation pattern \"".toList ++ pattern ++ "\": ".toList

end RouteError

end RouteTree
