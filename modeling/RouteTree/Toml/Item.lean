import RouteTree.Toml

namespace RouteTree.Toml

/-! Tables while they are put together from headers and dotted keys. -/

inductive Item
  | value (v : Toml)
  /-- Implicit when only longer keys have named it, dotted when an equals sign followed them. -/
  | table (implicit dotted : Bool) (entries : List (Text × Item))
  | tables (items : List (List (Text × Item)))

namespace Item

mutual
def toToml : Item → Toml
  | .value v => v
  | .table _ _ entries => .table (entriesToToml entries)
  | .tables items => .array (tablesToToml items)

def entriesToToml : List (Text × Item) → List (Text × Toml)
  | [] => []
  | (key, item) :: rest => (key, item.toToml) :: entriesToToml rest

def tablesToToml : List (List (Text × Item)) → List Toml
  | [] => []
  | entries :: rest => .table (entriesToToml entries) :: tablesToToml rest
end

/-- Missing tables are made on the way, and of an array the last table is taken. Keys in front of an
equals sign, `inKey`, do not enter a table that a header has named. -/
def modify {β : Type} (inKey : Bool)
    (change : Bool → Entries Item → Option (Entries Item × β)) :
    List Text → Bool → Entries Item → Option (Entries Item × β)
  | [], dotted, entries => change dotted entries
  | key :: path, _, entries =>
      match entries.get? key with
      | none =>
          (modify inKey change path inKey []).map fun (inner, result) =>
            (entries.insert key (.table true inKey inner), result)
      | some (.value _) => none
      | some (.table implicit dotted inner) =>
          if inKey && !implicit then none
          else
            (modify inKey change path dotted inner).map fun (inner, result) =>
              (entries.insert key (.table implicit dotted inner), result)
      | some (.tables items) =>
          (modify inKey change path false (items.getLast?.getD [])).map fun (inner, result) =>
            (entries.insert key (.tables (items.dropLast ++ [inner])), result)

/-- A key is given once, and a table holds the values of dotted keys or those under a header. -/
def addValue? (path : List Text) (key : Text) (v : Toml) (entries : Entries Item) :
    Option (Entries Item) :=
  (modify true (fun dotted entries =>
    if dotted == path.isEmpty || (entries.get? key).isSome then none
    else some (entries.insert key (.value v), ())) path false entries).map Prod.fst

end Item

/-- A document while it is read: the finished tables, and the one that the last header began. -/
structure Document where
  root : Entries Item
  path : List Text
  isArray : Bool
  current : Entries Item

namespace Document

def empty : Document := ⟨[], [], false, []⟩

def finish? (d : Document) : Option (Entries Item) :=
  match d.path.getLast? with
  | none => some d.current
  | some key =>
      (Item.modify false (fun _ entries =>
        if d.isArray then
          match entries.get? key with
          | some (.tables items) =>
              some (entries.insert key (.tables (items ++ [d.current])), ())
          | some _ => none
          | none => some (entries.insert key (.tables [d.current]), ())
        else some (entries.insert key (.table false false d.current), ()))
        d.path.dropLast false d.root).map Prod.fst

/-- A table that longer headers have named before is gone on with, as the last of its siblings. -/
def startTable? (path : List Text) (d : Document) : Option Document := do
  let root ← d.finish?
  let key ← path.getLast?
  let (root, current) ← Item.modify false (fun _ entries =>
    match entries.get? key with
    | none => some (entries, [])
    | some (.table true false inner) => some (entries.filter fun entry => entry.1 != key, inner)
    | some _ => none) path.dropLast false root
  return ⟨root, path, false, current⟩

def startArrayTable? (path : List Text) (d : Document) : Option Document := do
  let root ← d.finish?
  let key ← path.getLast?
  let (root, ()) ← Item.modify false (fun _ entries =>
    match entries.get? key with
    | none => some (entries.insert key (.tables []), ())
    | some (.tables _) => some (entries, ())
    | some _ => none) path.dropLast false root
  return ⟨root, path, true, []⟩

def addValue? (path : List Text) (key : Text) (v : Toml) (d : Document) : Option Document :=
  (Item.addValue? path key v d.current).map fun current => { d with current := current }

end Document

end RouteTree.Toml
