import RouteTree.Options

namespace RouteTree

inductive Toml
  | string (s : Text)
  | whole (n : Int)
  | binary (x : Binary64)
  | bool (b : Bool)
  | date (text : Text)
  | array (items : List Toml)
  | table (entries : List (Text × Toml))
deriving Repr

namespace Toml

/-- The key under which the text of a date or a time stands in JSON. -/
def dateKey : Text := "$__toml_private_datetime".toList

mutual
def toJson : Toml → Json
  | .string s => .string s
  | .whole n => .number (.whole n)
  | .binary x => if x.isFinite then .number (.binary x) else .null
  | .bool b => .bool b
  | .date text => .object [(dateKey, .string text)]
  | .array items => .array (itemsToJson items)
  | .table entries => .object (entriesToJson entries)

def itemsToJson : List Toml → List Json
  | [] => []
  | item :: rest => item.toJson :: itemsToJson rest

def entriesToJson : List (Text × Toml) → List (Text × Json)
  | [] => []
  | (key, value) :: rest => (key, value.toJson) :: entriesToJson rest
end

def toField : Toml → Options.Field
  | .string s => .text s
  | .bool b => .flag b
  | _ => .other

/-- The members of a table; a date counts as a table of its text. -/
def members? : Toml → Option (List (Text × Toml))
  | .table entries => some entries
  | .date text => some [(dateKey, .string text)]
  | _ => none

end Toml

end RouteTree
