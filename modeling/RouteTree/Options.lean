import RouteTree.Json

namespace RouteTree

inductive UrlCheck
  | off
  | standard
  | pattern (source : Text)
deriving DecidableEq, Repr

structure FormatOptions where
  strictKeys : Bool
  check : UrlCheck
  sigil : Char
  percentEncode : Bool
deriving DecidableEq, Repr

structure Options where
  prepend : Option Text
  baseKey : Text
  enforceLeadingSlash : Bool
  format : FormatOptions
deriving DecidableEq, Repr

def FormatOptions.initial : FormatOptions := ⟨true, .off, ':', false⟩

def Options.initial : Options := ⟨none, ['_'], false, .initial⟩

namespace Options

def prependKey : Text := "prepend".toList
def baseKeyKey : Text := "base_key".toList
def leadingSlashKey : Text := "enforce_leading_slash".toList
def strictKeysKey : Text := "strict_key_names".toList
def checkKey : Text := "regex".toList
def sigilKey : Text := "sigil".toList
def percentEncodeKey : Text := "percent_encode".toList

end Options

def UrlCheck.toJson : UrlCheck → Json
  | .off => .bool false
  | .standard => .bool true
  | .pattern source => .string source

namespace Options

def members (o : Options) : List (Text × Json) :=
  [(prependKey, match o.prepend with
      | none => .null
      | some text => .string text),
    (baseKeyKey, .string o.baseKey),
    (leadingSlashKey, .bool o.enforceLeadingSlash),
    (strictKeysKey, .bool o.format.strictKeys),
    (checkKey, o.format.check.toJson),
    (sigilKey, .string [o.format.sigil]),
    (percentEncodeKey, .bool o.format.percentEncode)]

def toJson (o : Options) : Json := .object o.members

/-- What a member can hold as far as options can tell. -/
inductive Field
  | null
  | flag (b : Bool)
  | text (t : Text)
  | other
deriving DecidableEq, Repr

namespace Field

def text? : Field → Option Text
  | .text t => some t
  | _ => none

def flag? : Field → Option Bool
  | .flag b => some b
  | _ => none

def optionalText? : Field → Option (Option Text)
  | .null => some none
  | .text t => some (some t)
  | _ => none

def check? : Field → Option UrlCheck
  | .flag b => some (if b then .standard else .off)
  | .text t => some (.pattern t)
  | _ => none

def character? : Field → Option Char
  | .text [c] => some c
  | _ => none

def ofJson : Json → Field
  | .null => .null
  | .bool b => .flag b
  | .string t => .text t
  | _ => .other

end Field

/-- The value of the only member with a key, or the default when there is none. -/
def member? {α : Type} (read? : Field → Option α) (default : α) (key : Text)
    (fields : List (Text × Field)) : Option α :=
  match fields.filter fun field => field.1 == key with
  | [] => some default
  | [field] => read? field.2
  | _ => none

def ofFields? (fields : List (Text × Field)) : Option Options := do
  let prepend ← member? Field.optionalText? initial.prepend prependKey fields
  let baseKey ← member? Field.text? initial.baseKey baseKeyKey fields
  let enforceLeadingSlash ←
    member? Field.flag? initial.enforceLeadingSlash leadingSlashKey fields
  let strictKeys ← member? Field.flag? initial.format.strictKeys strictKeysKey fields
  let check ← member? Field.check? initial.format.check checkKey fields
  let sigil ← member? Field.character? initial.format.sigil sigilKey fields
  let percentEncode ← member? Field.flag? initial.format.percentEncode percentEncodeKey fields
  return ⟨prepend, baseKey, enforceLeadingSlash, strictKeys, check, sigil, percentEncode⟩

end Options

end RouteTree
