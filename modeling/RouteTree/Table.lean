import RouteTree.Branch
import RouteTree.Route

namespace RouteTree

/-! Compiled trees: keys lead to routes or further tables, the base key to the route of the base. -/

inductive Entry
  | route (r : Route)
  | table (baseKey : Text) (entries : List (Text × Entry))

structure Table where
  baseKey : Text
  entries : Entries Entry

namespace Entry

def ofTable (t : Table) : Entry := .table t.baseKey t.entries

def route? : Entry → Option Route
  | .route r => some r
  | .table _ _ => none

def table? : Entry → Option Table
  | .route _ => none
  | .table baseKey entries => some ⟨baseKey, entries⟩

mutual
/-- The number of routes below an entry, those of bases excepted. -/
def leafCount : Entry → Nat
  | .route _ => 1
  | .table baseKey entries => entriesLeafCount baseKey entries

def entriesLeafCount (baseKey : Text) : List (Text × Entry) → Nat
  | [] => 0
  | (key, entry) :: rest =>
      (if key = baseKey then 0 else entry.leafCount) + entriesLeafCount baseKey rest
end

end Entry

namespace Table

def get? (key : Text) (t : Table) : Option Entry := t.entries.get? key

def route? (key : Text) (t : Table) : Option Route := (t.get? key).bind Entry.route?

def table? (key : Text) (t : Table) : Option Table := (t.get? key).bind Entry.table?

def keys (t : Table) : List Text := t.entries.keys

def size (t : Table) : Nat := t.entries.length

def isEmpty (t : Table) : Bool := t.entries.isEmpty

def leafCount (t : Table) : Nat := Entry.entriesLeafCount t.baseKey t.entries

def base (t : Table) : Text := ((t.route? t.baseKey).bind Route.constant).getD []

end Table

theorem Text.length_cut_snd {d : Char} {t rest : Text} (h : (Text.cut d t).2 = some rest) :
    rest.length < t.length := by
  have hlength := congrArg List.length (Text.cut_eq_some h)
  rw [List.length_append, List.length_cons] at hlength
  omega

namespace Table

def lookup? (t : Table) (dotted : Text) : Option Entry :=
  match _h : (Text.cut '.' dotted).2 with
  | none => t.get? (Text.cut '.' dotted).1
  | some rest =>
      match t.get? (Text.cut '.' dotted).1 with
      | some (.table baseKey entries) => lookup? ⟨baseKey, entries⟩ rest
      | _ => none
termination_by dotted.length
decreasing_by exact Text.length_cut_snd _h

def lookupRoute? (t : Table) (dotted : Text) : Option Route :=
  (t.lookup? dotted).bind Entry.route?

end Table

structure Compiler where
  baseKey : Text
  enforceLeadingSlash : Bool
  format : Format

namespace Compiler

def ofOptions (options : Options) : Except RouteError Compiler := do
  let format ← Format.ofOptions options.format options.prepend
  return ⟨options.baseKey, options.enforceLeadingSlash, format⟩

/-- A fragment that is not empty begins with a slash, if that is enforced. -/
def checkSlash (c : Compiler) (fragment label : Text) : Except RouteError Unit :=
  if c.enforceLeadingSlash && !fragment.isEmpty && fragment.head? != some '/' then
    .error (.missingSlash fragment label)
  else .ok ()

/-- An error in the base comes before one in the entries. -/
def table (c : Compiler) (base : Text) (entries : Except RouteError (List (Text × Entry))) :
    Except RouteError Table := do
  let root ← Route.ofBase c.format base
  let entries ← entries
  return ⟨c.baseKey, (c.baseKey, .route root) :: entries⟩

mutual
/-- The label is that of the branch around the child, and `above` the joined bases. -/
def compileNode (c : Compiler) (above label key : Text) : Node → Except RouteError Entry
  | .leaf fragment => do
      c.checkSlash fragment label
      let route ← Route.ofTemplate c.format (above ++ fragment)
      return .route route
  | .branch base children => do
      c.checkSlash base label
      let table ← c.table (above ++ base) (compileChildren c (above ++ base) key children)
      return .ofTable table

def compileChildren (c : Compiler) (above label : Text) :
    List (Text × Node) → Except RouteError (List (Text × Entry))
  | [] => .ok []
  | (key, node) :: rest =>
      if key = c.baseKey then .error (.reservedKey key label)
      else do
        let entry ← compileNode c above label key node
        let rest ← compileChildren c above label rest
        return (key, entry) :: rest
end

end Compiler

/-- Compiles a tree; the first thing that is wrong with it is reported. -/
def Branch.compile (b : Branch) (options : Options) : Except RouteError Table := do
  let c ← Compiler.ofOptions options
  c.checkSlash b.base rootLabel
  c.table b.base (c.compileChildren b.base rootLabel b.children)

def Json.compile (j : Json) (options : Options) : Except RouteError Table := do
  let b ← Branch.ofJson options.baseKey j
  b.compile options

end RouteTree
