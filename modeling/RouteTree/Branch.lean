import RouteTree.Json
import RouteTree.RouteError

namespace RouteTree

inductive Node
  | leaf (fragment : Text)
  | branch (base : Text) (children : List (Text × Node))
deriving Repr

structure Branch where
  base : Text
  children : Entries Node
deriving Repr

def rootLabel : Text := "<root>".toList

namespace Branch

def ofBase (base : Text) : Branch := ⟨base, []⟩

def toNode (b : Branch) : Node := .branch b.base b.children

/-- Puts a child at the end, or in the place of the child with its key. -/
def insert (key : Text) (node : Node) (b : Branch) : Branch :=
  { b with children := b.children.insert key node }

def get? (key : Text) (b : Branch) : Option Node := b.children.get? key

def keys (b : Branch) : List Text := b.children.keys

def size (b : Branch) : Nat := b.children.length

def isEmpty (b : Branch) : Bool := b.children.isEmpty

end Branch

namespace Node

mutual
def same : Node → Node → Bool
  | .leaf a, .leaf b => a == b
  | .branch a as, .branch b bs => a == b && sameChildren as bs
  | _, _ => false

def sameChildren : List (Text × Node) → List (Text × Node) → Bool
  | [], [] => true
  | (k, a) :: as, (l, b) :: bs => k == l && same a b && sameChildren as bs
  | _, _ => false
end

def base? (baseKey : Text) (members : List (Text × Json)) : Option Text :=
  match Entries.get? baseKey members with
  | some (.string base) => some base
  | _ => none

mutual
/-- Reads a child: a string is a leaf, and an object with a base is a branch. -/
def ofJson (baseKey label : Text) : Json → Except RouteError Node
  | .string fragment => .ok (.leaf fragment)
  | .object members =>
      match base? baseKey members with
      | none => .error (.missingBase label)
      | some base => do
          let children ← childrenOfJson baseKey members
          return .branch base (Entries.collect children)
  | _ => .error (.missingBase label)

def childrenOfJson (baseKey : Text) :
    List (Text × Json) → Except RouteError (List (Text × Node))
  | [] => .ok []
  | (key, value) :: rest =>
      if key = baseKey then childrenOfJson baseKey rest
      else do
        let node ← ofJson baseKey key value
        let rest ← childrenOfJson baseKey rest
        return (key, node) :: rest
end

end Node

namespace Branch

/-- Every object in the value has a string under the base key. -/
def ofJson (baseKey : Text) (j : Json) : Except RouteError Branch :=
  match Node.ofJson baseKey rootLabel j with
  | .ok (.branch base children) => .ok ⟨base, children⟩
  | .ok (.leaf _) => .error (.missingBase rootLabel)
  | .error e => .error e

end Branch

end RouteTree
