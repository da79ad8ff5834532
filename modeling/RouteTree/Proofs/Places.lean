import RouteTree.Proofs.Compilation
import RouteTree.Proofs.Trees

namespace RouteTree

/-! Places in a tree and in the table that it becomes, both found by going from key to key. -/

namespace Entries

variable {α β : Type}

theorem get?_rel {R : Text × α → Text × β → Prop} (hkey : ∀ a b, R a b → b.1 = a.1)
    {left : Entries α} {right : Entries β} (h : List.Forall₂ R left right) (key : Text) :
    Option.Rel (fun a b => R (key, a) (key, b)) (left.get? key) (right.get? key) := by
  induction h with
  | nil => exact .none
  | @cons a b left right hhead _ ih =>
      obtain ⟨first, a⟩ := a
      obtain ⟨first', b⟩ := b
      obtain rfl : first' = first := hkey _ _ hhead
      by_cases hfirst : first' = key
      · subst hfirst
        simpa [get?] using Option.Rel.some hhead
      · simpa [get?, hfirst] using ih

theorem keys_eq_of_rel {R : Text × α → Text × β → Prop} (hkey : ∀ a b, R a b → b.1 = a.1)
    {left : Entries α} {right : Entries β} (h : List.Forall₂ R left right) :
    right.keys = left.keys := by
  induction h with
  | nil => rfl
  | cons hhead _ ih =>
      simp only [keys, List.map_cons] at ih ⊢
      rw [hkey _ _ hhead, ih]

end Entries

theorem rel_of_common {α β γ : Type} {R : α → β → Prop} {S : α → γ → Prop} {T : β → γ → Prop}
    {a : Option α} {b : Option β} {c : Option γ} (hb : Option.Rel R a b)
    (hc : Option.Rel S a c) (h : ∀ a b c, R a b → S a c → T b c) : Option.Rel T b c := by
  cases hb with
  | none =>
      cases hc with
      | none => exact .none
  | some hb =>
      cases hc with
      | some hc => exact .some (h _ _ _ hb hc)

theorem rel_imp {α β : Type} {R S : α → β → Prop} (himp : ∀ a b, R a b → S a b) {a : Option α}
    {b : Option β} (h : Option.Rel R a b) : Option.Rel S a b := by
  cases h with
  | none => exact .none
  | some h => exact .some (himp _ _ h)

theorem exists_of_rel_some {α β : Type} {R : α → β → Prop} {a : α} {b : Option β}
    (h : Option.Rel R (some a) b) : ∃ b', b = some b' ∧ R a b' := by
  cases h with
  | some h => exact ⟨_, rfl, h⟩

theorem exists_of_rel_some_right {α β : Type} {R : α → β → Prop} {a : Option α} {b : β}
    (h : Option.Rel R a (some b)) : ∃ a', a = some a' ∧ R a' b := by
  cases h with
  | some h => exact ⟨_, rfl, h⟩

/-- A node with the bases of the branches above it, or a base with those down to it. -/
inductive Place
  | node (bases : List Text) (n : Node)
  | base (bases : List Text)

/-- The base key of a branch leads to its base. -/
def Node.place? (baseKey : Text) (bases : List Text) (n : Node) (keys : List Text) :
    Option Place :=
  match keys, n with
  | [], n => some (.node bases n)
  | _ :: _, .leaf _ => none
  | key :: keys, .branch base children =>
      if key = baseKey then if keys = [] then some (.base (bases ++ [base])) else none
      else (Entries.get? key children).bind fun child =>
        child.place? baseKey (bases ++ [base]) keys

def Branch.place? (baseKey : Text) (b : Branch) (keys : List Text) : Option Place :=
  b.toNode.place? baseKey [] keys

def Entry.follow? (entry : Entry) (keys : List Text) : Option Entry :=
  match keys, entry with
  | [], entry => some entry
  | _ :: _, .route _ => none
  | key :: keys, .table _ entries => (Entries.get? key entries).bind fun child =>
      child.follow? keys

namespace Entry

/-- Nothing stands below a route. -/
def get? (key : Text) : Entry → Option Entry
  | .route _ => none
  | .table _ entries => Entries.get? key entries

theorem follow?_cons (entry : Entry) (key : Text) (keys : List Text) :
    entry.follow? (key :: keys) = (entry.get? key).bind fun child => child.follow? keys := by
  cases entry with
  | route r => rfl
  | table baseKey entries => rfl

theorem follow?_append (entry : Entry) (keys others : List Text) :
    entry.follow? (keys ++ others) =
      (entry.follow? keys).bind fun child => child.follow? others := by
  induction keys generalizing entry with
  | nil => rfl
  | cons key keys ih =>
      rw [List.cons_append, follow?_cons, follow?_cons, Option.bind_assoc]
      exact Option.bind_congr fun child _ => ih child

theorem follow?_map {f : Entry → Entry} {keys : List Text}
    (h : ∀ key ∈ keys, ∀ entry : Entry, (f entry).get? key = (entry.get? key).map f)
    (entry : Entry) : (f entry).follow? keys = (entry.follow? keys).map f := by
  induction keys generalizing entry with
  | nil => rfl
  | cons key keys ih =>
      rw [List.forall_mem_cons] at h
      rw [follow?_cons, follow?_cons, h.1, Option.map_bind]
      cases entry.get? key with
      | none => rfl
      | some child => exact ih h.2 child

end Entry

def Table.follow? (t : Table) (keys : List Text) : Option Entry := (Entry.ofTable t).follow? keys

theorem Table.constant_root (key : Text) (r : Route) (rest : Entries Entry) :
    (Table.route? key ⟨key, (key, .route r) :: rest⟩).bind Route.constant = r.constant := by
  simp [Table.route?, Table.get?, Entries.get?, Entry.route?]

theorem Table.base_root (key : Text) (r : Route) (rest : Entries Entry) :
    Table.base ⟨key, (key, .route r) :: rest⟩ = r.constant.getD [] :=
  congrArg (Option.getD · []) (Table.constant_root key r rest)

namespace Compiler

/-- The entry is what a place becomes. -/
inductive Yields (c : Compiler) : Place → Entry → Prop
  | node {bases : List Text} {n : Node} {label key : Text} {entry : Entry}
      (compiled : c.compileNode bases.flatten label key n = .ok entry) :
      Yields c (.node bases n) entry
  | base {bases : List Text} {r : Route} (compiled : Route.ofBase c.format bases.flatten = .ok r) :
      Yields c (.base bases) (.route r)

variable {c : Compiler}

theorem Yields.leaf {bases : List Text} {fragment : Text} {entry : Entry}
    (h : c.Yields (.node bases (.leaf fragment)) entry) :
    ∃ r, Route.ofTemplate c.format (bases.flatten ++ fragment) = .ok r ∧ entry = .route r := by
  cases h with
  | node hcompiled => exact (compileNode_leaf_eq_ok.mp hcompiled).2

theorem Yields.branch {bases : List Text} {base : Text} {children : List (Text × Node)}
    {entry : Entry} (h : c.Yields (.node bases (.branch base children)) entry) :
    ∃ root rest, Route.ofBase c.format (bases ++ [base]).flatten = .ok root ∧
      entry = .table c.baseKey ((c.baseKey, .route root) :: rest) := by
  cases h with
  | node hcompiled =>
      obtain ⟨_, root, rest, hroot, _, rfl⟩ := compileNode_branch_eq_ok.mp hcompiled
      rw [← List.flatten_concat] at hroot
      exact ⟨root, rest, hroot, rfl⟩

theorem exists_of_compileChildren {above label key : Text} {children : List (Text × Node)}
    {entries : List (Text × Entry)} (h : c.compileChildren above label children = .ok entries)
    {child : Node} (hchild : Entries.get? key children = some child) :
    ∃ entry, Entries.get? key entries = some entry ∧
      c.Child above label (key, child) (key, entry) := by
  have hrel := Entries.get?_rel (fun _ _ hchild => hchild.key) (compileChildren_eq_ok.mp h) key
  exact exists_of_rel_some (hchild ▸ hrel)

theorem compileNode_yields {n : Node} {bases : List Text} {label key : Text} {entry : Entry}
    (h : c.compileNode bases.flatten label key n = .ok entry) (keys : List Text) :
    Option.Rel c.Yields (n.place? c.baseKey bases keys) (entry.follow? keys) := by
  induction keys generalizing n bases label key entry with
  | nil => exact .some (.node h)
  | cons first rest ih =>
      cases n with
      | leaf fragment =>
          obtain ⟨_, r, _, rfl⟩ := compileNode_leaf_eq_ok.mp h
          exact .none
      | branch base children =>
          obtain ⟨_, root, entries, hroot, hentries, rfl⟩ := compileNode_branch_eq_ok.mp h
          rw [← List.flatten_concat] at hroot hentries
          simp only [Node.place?, Entry.follow?, Entries.get?]
          by_cases hfirst : first = c.baseKey
          · rw [if_pos hfirst, if_pos hfirst.symm]
            cases rest with
            | nil => exact .some (.base hroot)
            | cons second rest => exact .none
          · rw [if_neg hfirst, if_neg (Ne.symm hfirst)]
            have hchild := Entries.get?_rel (fun _ _ hchild => hchild.key)
              (compileChildren_eq_ok.mp hentries) first
            generalize Entries.get? first children = child,
              Entries.get? first entries = entry at hchild ⊢
            cases hchild with
            | none => exact .none
            | some hchild => exact ih hchild.compiled

end Compiler

theorem Branch.compile_yields {b : Branch} {options : Options} {t : Table}
    (h : b.compile options = .ok t) :
    ∃ c, Compiler.ofOptions options = .ok c ∧
      ∀ keys, Option.Rel c.Yields (b.place? options.baseKey keys) (t.follow? keys) := by
  obtain ⟨c, hc, hroot⟩ := compile_eq_ok.mp h
  refine ⟨c, hc, ?_⟩
  intro keys
  have hbaseKey : c.baseKey = options.baseKey := by
    obtain ⟨_, _, rfl⟩ := Compiler.ofOptions_eq_ok.mp hc
    rfl
  rw [← hbaseKey]
  change c.compileNode ([] : List Text).flatten rootLabel rootLabel b.toNode = _ at hroot
  exact Compiler.compileNode_yields hroot keys

end RouteTree
