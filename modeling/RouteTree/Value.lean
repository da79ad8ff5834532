import RouteTree.Instant
import RouteTree.Json

namespace RouteTree

inductive Value
  | undefined
  | null
  | bool (b : Bool)
  | number (n : Binary64)
  | string (s : Text)
  | date (d : Instant)
  | array (items : List Value)
  | object (members : List (Text × Value))
deriving Repr

namespace Value

def isObject : Value → Bool
  | .object _ => true
  | _ => false

def ofInt (n : Int) : Value := .number (Binary64.ofInt n)

def ofMembers (members : List (Text × Value)) : Value := .object (Entries.collect members)

/-- Numbers without a fraction below `2 ^ 53` are whole, and those that are not finite are
null. -/
def numberJson : Binary64 → Json
  | .finite negative m =>
      if m.isWhole && decide (m.truncate < 2 ^ 53) then
        .number (.whole (if negative then -(m.truncate : Int) else m.truncate))
      else .number (.binary (.finite negative m))
  | _ => .null

mutual
/-- Undefined members are left out, and undefined values elsewhere are null. -/
def toJson : Value → Json
  | .undefined => .null
  | .null => .null
  | .bool b => .bool b
  | .number n => numberJson n
  | .string s => .string s
  | .date d => .string d.text
  | .array items => .array (itemsToJson items)
  | .object members => .object (membersToJson members)

def itemsToJson : List Value → List Json
  | [] => []
  | item :: rest => item.toJson :: itemsToJson rest

def membersToJson : List (Text × Value) → List (Text × Json)
  | [] => []
  | (_, .undefined) :: rest => membersToJson rest
  | (key, value) :: rest => (key, value.toJson) :: membersToJson rest
end

def text : Value → Text
  | .undefined => "undefined".toList
  | .null => "null".toList
  | .bool b => if b then "true".toList else "false".toList
  | .number n => n.text
  | .string s => s
  | .date d => d.text
  | .array items => (Value.array items).toJson.text
  | .object members => (Value.object members).toJson.text

mutual
/-- Equality with members in order; a number that is not a number differs from itself. -/
def same : Value → Value → Bool
  | .undefined, .undefined => true
  | .null, .null => true
  | .bool a, .bool b => a == b
  | .number a, .number b => a.equal b
  | .string a, .string b => a == b
  | .date a, .date b => a == b
  | .array a, .array b => sameItems a b
  | .object a, .object b => sameMembers a b
  | _, _ => false

def sameItems : List Value → List Value → Bool
  | [], [] => true
  | a :: as, b :: bs => same a b && sameItems as bs
  | _, _ => false

def sameMembers : List (Text × Value) → List (Text × Value) → Bool
  | [], [] => true
  | (k, a) :: as, (l, b) :: bs => k == l && same a b && sameMembers as bs
  | _, _ => false
end

def ofNumber : Json.Number → Binary64
  | .whole n => Binary64.ofInt n
  | .binary x => x

mutual
def ofJson : Json → Value
  | .null => .null
  | .bool b => .bool b
  | .number n => .number (ofNumber n)
  | .string s => .string s
  | .array items => .array (itemsOfJson items)
  | .object members => ofMembers (membersOfJson members)

def itemsOfJson : List Json → List Value
  | [] => []
  | item :: rest => ofJson item :: itemsOfJson rest

def membersOfJson : List (Text × Json) → List (Text × Value)
  | [] => []
  | (key, value) :: rest => (key, ofJson value) :: membersOfJson rest
end

end Value

inductive PathArguments
  | scalar (value : Value)
  | named (values : Bindings Value)

namespace PathArguments

/-- An object gives its members as named values, any other value stands for all parameters. -/
def ofValue : Value → PathArguments
  | .object members => .named (Bindings.ofList members)
  | value => .scalar value

end PathArguments

end RouteTree
