import RouteTree.Proofs.DottedKeys
import Mathlib.Data.List.Nodup

namespace RouteTree

namespace Node

mutual
/-- The rows of keys that lead from a node to the leaves in it. -/
def leafRows : Node → List (List Text)
  | .leaf _ => [[]]
  | .branch _ children => childrenLeafRows children

def childrenLeafRows : List (Text × Node) → List (List Text)
  | [] => []
  | (key, n) :: rest => n.leafRows.map (key :: ·) ++ childrenLeafRows rest
end

theorem mem_childrenLeafRows {children : List (Text × Node)} {row : List Text} :
    row ∈ childrenLeafRows children ↔
      ∃ key n below, (key, n) ∈ children ∧ below ∈ n.leafRows ∧ key :: below = row := by
  induction children with
  | nil => simp [childrenLeafRows]
  | cons child rest ih =>
      obtain ⟨first, firstNode⟩ := child
      rw [childrenLeafRows, List.mem_append, List.mem_map, ih]
      constructor
      · intro h
        rcases h with ⟨below, hbelow, rfl⟩ | ⟨key, n, below, hchild, hbelow⟩
        · exact ⟨first, firstNode, below, List.mem_cons_self, hbelow, rfl⟩
        · exact ⟨key, n, below, List.mem_cons_of_mem _ hchild, hbelow⟩
      · intro h
        obtain ⟨key, n, below, hchild, hbelow, hrow⟩ := h
        rcases List.mem_cons.mp hchild with heq | hrest
        · cases heq
          exact .inl ⟨below, hbelow, hrow⟩
        · exact .inr ⟨key, n, below, hrest, hbelow, hrow⟩

theorem contains_of_mem_leafRows {n : Node} {row : List Text} (h : row ∈ n.leafRows) :
    ∃ bases fragment, n.Contains row bases (.leaf fragment) := by
  induction row generalizing n with
  | nil =>
      cases n with
      | leaf fragment => exact ⟨[], fragment, .self _⟩
      | branch base children =>
          obtain ⟨_, _, _, _, _, hrow⟩ := mem_childrenLeafRows.mp h
          cases hrow
  | cons key below ih =>
      cases n with
      | leaf fragment => simp [leafRows] at h
      | branch base children =>
          obtain ⟨_, child, _, hchild, hbelow, hrow⟩ := mem_childrenLeafRows.mp h
          cases hrow
          obtain ⟨bases, fragment, hcontains⟩ := ih hbelow
          exact ⟨base :: bases, fragment, .child hchild hcontains⟩

theorem Contains.mem_leafRows {n m : Node} {row bases : List Text} (h : n.Contains row bases m)
    {fragment : Text} (hleaf : m = .leaf fragment) : row ∈ n.leafRows := by
  induction h with
  | self n =>
      subst hleaf
      exact List.mem_singleton_self []
  | child hchild _ ih => exact mem_childrenLeafRows.mpr ⟨_, _, _, hchild, ih hleaf, rfl⟩

theorem mem_leafRows {n : Node} {row : List Text} :
    row ∈ n.leafRows ↔ ∃ bases fragment, n.Contains row bases (.leaf fragment) := by
  refine ⟨contains_of_mem_leafRows, ?_⟩
  intro h
  obtain ⟨bases, fragment, hcontains⟩ := h
  exact hcontains.mem_leafRows rfl

mutual
theorem nodup_leafRows (n : Node) (h : n.Built) : n.leafRows.Nodup := by
  cases n with
  | leaf fragment => exact List.nodup_singleton []
  | branch base children =>
      obtain ⟨hnodup, hbelow⟩ := h.children rfl
      refine nodup_childrenLeafRows children hnodup ?_
      intro key child hchild
      exact hbelow key child ((Entries.get?_eq_some_iff hnodup).mpr hchild)

theorem nodup_childrenLeafRows (children : List (Text × Node))
    (hnodup : (Entries.keys children).Nodup)
    (hbuilt : ∀ key child, (key, child) ∈ children → child.Built) :
    (childrenLeafRows children).Nodup := by
  cases children with
  | nil => exact List.nodup_nil
  | cons child rest =>
      obtain ⟨key, n⟩ := child
      rw [Entries.keys_cons, List.nodup_cons] at hnodup
      have hfirst := nodup_leafRows n (hbuilt key n List.mem_cons_self)
      have hrest := nodup_childrenLeafRows rest hnodup.2
        fun other m hother => hbuilt other m (List.mem_cons_of_mem _ hother)
      rw [childrenLeafRows, List.nodup_append]
      refine ⟨hfirst.map List.cons_injective, hrest, ?_⟩
      intro row hrow other hother heq
      obtain ⟨below, _, rfl⟩ := List.mem_map.mp hrow
      obtain ⟨_, m, _, hchild, _, rfl⟩ := mem_childrenLeafRows.mp hother
      cases heq
      exact hnodup.1 (List.mem_map_of_mem hchild)
end

variable {baseKey : Text}

theorem contains_of_place? {n m : Node} {bases bases' keys : List Text}
    (h : n.place? baseKey bases keys = some (.node bases' m)) :
    baseKey ∉ keys ∧ ∃ below, n.Contains keys below m := by
  induction keys generalizing n bases with
  | nil =>
      cases h
      exact ⟨List.not_mem_nil, [], .self _⟩
  | cons key keys ih =>
      cases n with
      | leaf fragment => cases h
      | branch base children =>
          rw [place?] at h
          split at h
          · split at h <;> cases h
          · rename_i hkey
            obtain ⟨child, hchild, hrest⟩ := Option.bind_eq_some_iff.mp h
            obtain ⟨hkeys, below, hcontains⟩ := ih hrest
            refine ⟨?_, base :: below, .child (Entries.mem_of_get? hchild) hcontains⟩
            rw [List.mem_cons, not_or]
            exact ⟨Ne.symm hkey, hkeys⟩

theorem mem_of_place?_base {n : Node} {bases bases' keys : List Text}
    (h : n.place? baseKey bases keys = some (.base bases')) : baseKey ∈ keys := by
  induction keys generalizing n bases with
  | nil => cases h
  | cons key keys ih =>
      cases n with
      | leaf fragment => cases h
      | branch base children =>
          rw [place?] at h
          split at h
          · rename_i hkey
            exact hkey ▸ List.mem_cons_self
          · obtain ⟨child, _, hrest⟩ := Option.bind_eq_some_iff.mp h
            exact List.mem_cons_of_mem key (ih hrest)

end Node

namespace Compiler

variable {c : Compiler}

mutual
theorem leafCount_compileNode (n : Node) {above label key : Text} {entry : Entry}
    (h : c.compileNode above label key n = .ok entry) :
    entry.leafCount = n.leafRows.length := by
  cases n with
  | leaf fragment =>
      obtain ⟨_, r, _, rfl⟩ := compileNode_leaf_eq_ok.mp h
      rfl
  | branch base children =>
      obtain ⟨_, root, entries, _, hentries, rfl⟩ := compileNode_branch_eq_ok.mp h
      rw [Entry.leafCount, Entry.entriesLeafCount, if_pos rfl, Nat.zero_add]
      exact leafCount_compileChildren children (compileChildren_eq_ok.mp hentries)

theorem leafCount_compileChildren (children : List (Text × Node)) {above label : Text}
    {entries : List (Text × Entry)} (h : List.Forall₂ (c.Child above label) children entries) :
    Entry.entriesLeafCount c.baseKey entries = (Node.childrenLeafRows children).length := by
  cases children with
  | nil =>
      cases h
      rfl
  | cons child rest =>
      cases h with
      | @cons _ entry _ entries hchild hrest =>
          obtain ⟨key, n⟩ := child
          obtain ⟨key', entry⟩ := entry
          obtain rfl : key' = key := hchild.key
          rw [Entry.entriesLeafCount, if_neg hchild.unreserved,
            leafCount_compileNode n hchild.compiled, leafCount_compileChildren rest hrest,
            Node.childrenLeafRows, List.length_append, List.length_map]
end

variable {bases : List Text} {n : Node} {entry : Entry}

theorem Yields.leafCount (h : c.Yields (.node bases n) entry) :
    entry.leafCount = n.leafRows.length := by
  cases h with
  | node hcompiled => exact leafCount_compileNode n hcompiled

theorem Yields.exists_branch {place : Place} {u : Table} (h : c.Yields place (.ofTable u)) :
    ∃ bases base children, place = .node bases (.branch base children) := by
  generalize hentry : Entry.ofTable u = entry at h
  cases h with
  | base hcompiled => cases hentry
  | @node bases n label key entry hcompiled =>
      cases n with
      | leaf fragment =>
          obtain ⟨_, r, _, rfl⟩ := compileNode_leaf_eq_ok.mp hcompiled
          cases hentry
      | branch base children => exact ⟨bases, base, children, rfl⟩

theorem Yields.mem_leafRows (h : c.Yields (.node bases n) entry) (hbuilt : n.Built)
    {row : List Text} :
    row ∈ n.leafRows ↔ c.baseKey ∉ row ∧ ∃ r, entry.follow? row = some (.route r) := by
  obtain ⟨hcompiled⟩ := h
  have hrel := compileNode_yields hcompiled row
  constructor
  · intro hrow
    obtain ⟨below, fragment, hcontains⟩ := Node.mem_leafRows.mp hrow
    have hplace := place?_of_contains hcontains hbuilt hcompiled bases
    obtain ⟨_, hentry, hyielded⟩ := exists_of_rel_some (hplace ▸ hrel)
    obtain ⟨r, _, rfl⟩ := hyielded.leaf
    exact ⟨(Node.contains_of_place? hplace).1, r, hentry⟩
  · intro hroute
    -- A route is a leaf or a base, and rows to bases have the base key.
    obtain ⟨hbase, r, hr⟩ := hroute
    obtain ⟨place, hplace, hyielded⟩ := exists_of_rel_some_right (hr ▸ hrel)
    cases place with
    | base bases' => exact absurd (Node.mem_of_place?_base hplace) hbase
    | node bases' m =>
        obtain ⟨_, below, hcontains⟩ := Node.contains_of_place? hplace
        cases m with
        | leaf fragment => exact hcontains.mem_leafRows rfl
        | branch base children =>
            obtain ⟨_, _, _, hentry⟩ := hyielded.branch
            cases hentry

end Compiler

/-- Every table counts the leaves of the branch that its keys lead to. In a tree that is built by
insertion their rows are distinct, and lead to the routes that are not those of bases. -/
theorem Branch.compile_counts_leaves {b : Branch} {options : Options} {t : Table}
    (h : b.compile options = .ok t) {keys : List Text} {u : Table}
    (hu : t.follow? keys = some (.ofTable u)) :
    ∃ bases base children,
      let n : Node := .branch base children
      b.place? options.baseKey keys = some (.node bases n) ∧
        u.leafCount = n.leafRows.length ∧
        (∀ row, row ∈ n.leafRows ↔ ∃ below fragment, n.Contains row below (.leaf fragment)) ∧
        (b.Built → n.leafRows.Nodup ∧
          ∀ row, row ∈ n.leafRows ↔ u.baseKey ∉ row ∧ ∃ r, u.follow? row = some (.route r)) := by
  obtain ⟨c, _, hyields⟩ := compile_yields h
  obtain ⟨place, hplace, hyielded⟩ := exists_of_rel_some_right (hu ▸ hyields keys)
  obtain ⟨bases, base, children, rfl⟩ := hyielded.exists_branch
  refine ⟨bases, base, children, hplace, hyielded.leafCount, fun row => Node.mem_leafRows, ?_⟩
  intro hbuilt
  have hnode := Node.Built.place hbuilt hplace
  have hbaseKey : u.baseKey = c.baseKey := by
    obtain ⟨_, _, _, hentry⟩ := hyielded.branch
    exact (Entry.table.inj hentry).1
  rw [hbaseKey]
  exact ⟨Node.nodup_leafRows _ hnode, fun row => hyielded.mem_leafRows hnode⟩

theorem Branch.compile_counts_leaves_twoLevels :
    let options : Options := ⟨none, ['/', 'p'], false, .initial⟩
    let n : Node := .branch ['/', 'p'] [(['G'], .leaf ['/', ':', 'i', '/', ':', 'i'])]
    ∃ t u, twoLevels.compile options = .ok t ∧ t.follow? [['P']] = some (.ofTable u) ∧
      t.leafCount = 2 ∧ u.leafCount = 1 ∧ u.leafCount = n.leafRows.length ∧
      ∀ row, row ∈ n.leafRows ↔
        ['/', 'p'] ∉ row ∧ ∃ r, u.follow? row = some (.route r) := by
  intro options n
  obtain ⟨bases, base, children, hplace, hcount, _, hbuilt⟩ :=
    @compile_counts_leaves twoLevels options _ rfl [['P']] _ rfl
  cases hplace
  exact ⟨_, _, rfl, rfl, rfl, rfl, hcount, (hbuilt twoLevels_built).2⟩

end RouteTree
