import RouteTree.Proofs.Mirror

namespace RouteTree

/-! A lookup goes from key to key through the pieces of its text, and so sees no key with a dot. -/

/-- A node stands under a row of keys, and the bases are those of the branches above it. -/
inductive Node.Contains : Node → List Text → List Text → Node → Prop
  | self (n : Node) : Contains n [] [] n
  | child {base : Text} {children : List (Text × Node)} {key : Text} {child n : Node}
      {keys bases : List Text} (hchild : (key, child) ∈ children)
      (hrest : child.Contains keys bases n) :
      Contains (.branch base children) (key :: keys) (base :: bases) n

namespace Entry

mutual
/-- The entry without all that stands under keys with a dot. -/
def undotted : Entry → Entry
  | .route r => .route r
  | .table baseKey entries => .table baseKey (allUndotted entries)

def allUndotted : List (Text × Entry) → List (Text × Entry)
  | [] => []
  | (key, entry) :: rest =>
      if '.' ∈ key then allUndotted rest else (key, entry.undotted) :: allUndotted rest
end

theorem get?_allUndotted {key : Text} (hkey : '.' ∉ key) (entries : List (Text × Entry)) :
    Entries.get? key (allUndotted entries) = (Entries.get? key entries).map undotted := by
  induction entries with
  | nil => rfl
  | cons entry rest ih =>
      obtain ⟨first, entry⟩ := entry
      rw [allUndotted]
      by_cases hfirst : first = key
      · subst hfirst
        rw [if_neg hkey]
        simp [Entries.get?]
      · split <;> simpa [Entries.get?, hfirst] using ih

theorem get?_undotted {key : Text} (hkey : '.' ∉ key) (entry : Entry) :
    entry.undotted.get? key = (entry.get? key).map undotted := by
  cases entry with
  | route r => rfl
  | table baseKey entries => exact get?_allUndotted hkey entries

end Entry

namespace Table

def undotted (t : Table) : Table := ⟨t.baseKey, Entry.allUndotted t.entries⟩

theorem follow?_cons (t : Table) (key : Text) (keys : List Text) :
    t.follow? (key :: keys) = (t.get? key).bind fun child => child.follow? keys :=
  Entry.follow?_cons (Entry.ofTable t) key keys

theorem follow?_append (t : Table) (keys others : List Text) :
    t.follow? (keys ++ others) = (t.follow? keys).bind fun entry => entry.follow? others :=
  Entry.follow?_append (Entry.ofTable t) keys others

theorem lookup?_eq_follow? (t : Table) (dotted : Text) :
    t.lookup? dotted = t.follow? (dotted.splitOn '.') := by
  fun_induction lookup? t dotted with
  | case1 t dotted hlast =>
      rw [Text.splitOn_eq_cut, hlast, Option.map_none, Option.getD_none, follow?_cons]
      exact (Option.bind_fun_some (t.get? (dotted.cut '.').1)).symm
  | case2 t dotted rest hrest baseKey entries hget ih =>
      rw [Text.splitOn_eq_cut, hrest, Option.map_some, Option.getD_some, follow?_cons, hget, ih]
      rfl
  | case3 t dotted rest hrest hget =>
      -- Pieces are left, and nothing or a route stands under the first one.
      rw [Text.splitOn_eq_cut, hrest, Option.map_some, Option.getD_some, follow?_cons]
      obtain ⟨next, others, hsplit⟩ := List.exists_cons_of_ne_nil (List.splitOn_ne_nil '.' rest)
      rw [hsplit]
      cases hchild : t.get? (dotted.cut '.').1 with
      | none => rfl
      | some child =>
          cases child with
          | route r => rfl
          | table baseKey entries => exact absurd hchild (hget baseKey entries)

theorem lookup?_undotted (t : Table) (dotted : Text) :
    t.undotted.lookup? dotted = (t.lookup? dotted).map Entry.undotted := by
  rw [lookup?_eq_follow?, lookup?_eq_follow?]
  refine Entry.follow?_map (f := Entry.undotted) ?_ (Entry.ofTable t)
  intro key hkey entry
  exact Entry.get?_undotted (Text.not_mem_of_mem_splitOn hkey) entry

theorem lookup?_join (t : Table) {keys : List Text} (hdots : ∀ key ∈ keys, '.' ∉ key)
    (hkeys : keys ≠ []) : t.lookup? (Text.join ['.'] keys) = t.follow? keys := by
  rw [lookup?_eq_follow?, Text.join, List.splitOn_intercalate '.' hdots hkeys]

end Table

namespace Compiler

variable {c : Compiler}

theorem place?_of_contains {n m : Node} {keys below : List Text} (h : n.Contains keys below m)
    (hbuilt : n.Built) {above label key : Text} {entry : Entry}
    (hcompiled : c.compileNode above label key n = .ok entry) (bases : List Text) :
    n.place? c.baseKey bases keys = some (.node (bases ++ below) m) := by
  -- A child that compiles does not have the base key, and the keys beside it are others.
  induction h generalizing above label key entry bases with
  | self n => rw [Node.place?, List.append_nil]
  | @child base children first child m keys below hchild _ ih =>
      obtain ⟨_, _, entries, _, hentries, _⟩ := compileNode_branch_eq_ok.mp hcompiled
      obtain ⟨hnodup, hbelow⟩ := hbuilt.children rfl
      have hfound := (Entries.get?_eq_some_iff hnodup).mpr hchild
      obtain ⟨_, _, hrest⟩ := exists_of_compileChildren hentries hfound
      rw [Node.place?, if_neg hrest.unreserved, hfound, Option.bind_some,
        ih (hbelow first child hfound) hrest.compiled, List.append_assoc]
      rfl

end Compiler

theorem Branch.place?_of_contains {b : Branch} {options : Options} {t : Table} (hbuilt : b.Built)
    (h : b.compile options = .ok t) {keys bases : List Text} {n : Node}
    (hcontains : b.toNode.Contains keys bases n) :
    b.place? options.baseKey keys = some (.node bases n) := by
  obtain ⟨c, hc, hroot⟩ := compile_eq_ok.mp h
  obtain ⟨_, _, rfl⟩ := Compiler.ofOptions_eq_ok.mp hc
  exact Compiler.place?_of_contains hcontains hbuilt hroot []

theorem Table.lookupRoute?_join {t : Table} {keys : List Text} {r : Route}
    (hdots : ∀ key ∈ keys, '.' ∉ key) (h : t.follow? keys = some (.route r)) :
    t.lookupRoute? (Text.join ['.'] keys) = some r := by
  have hkeys : keys ≠ [] := by
    rintro rfl
    cases h
  rw [lookupRoute?, lookup?_join t hdots hkeys, h]
  rfl

/-- Lookups come to every leaf, and to the base of every branch, under keys without a dot. -/
structure Branch.Reached (b : Branch) (c : Compiler) (t : Table) : Prop where
  leaf : ∀ keys bases fragment, (∀ key ∈ keys, '.' ∉ key) →
    b.toNode.Contains keys bases (.leaf fragment) →
      ∃ r, t.follow? keys = some (.route r) ∧ t.lookupRoute? (Text.join ['.'] keys) = some r ∧
        Route.ofTemplate c.format (bases.flatten ++ fragment) = .ok r ∧
        r.template = bases.flatten ++ fragment
  base : ∀ keys bases base children, (∀ key ∈ keys ++ [c.baseKey], '.' ∉ key) →
    b.toNode.Contains keys bases (.branch base children) →
      ∃ u r, t.follow? keys = some (.ofTable u) ∧
        t.lookupRoute? (Text.join ['.'] (keys ++ [c.baseKey])) = some r ∧
        r.constant = some u.base ∧ u.base = c.format.prepend ++ (bases ++ [base]).flatten

theorem Branch.reached {b : Branch} {options : Options} {t : Table} (hbuilt : b.Built)
    (h : b.compile options = .ok t) :
    ∃ c, Compiler.ofOptions options = .ok c ∧ c.baseKey = options.baseKey ∧ b.Reached c t := by
  obtain ⟨c, hc, hyields⟩ := compile_yields h
  have hbaseKey : c.baseKey = options.baseKey := by
    obtain ⟨_, _, rfl⟩ := Compiler.ofOptions_eq_ok.mp hc
    rfl
  refine ⟨c, hc, hbaseKey, ?_, ?_⟩
  · intro keys bases fragment hdots hcontains
    have hplace := place?_of_contains hbuilt h hcontains
    obtain ⟨entry, hentry, hyielded⟩ := exists_of_rel_some (hplace ▸ hyields keys)
    obtain ⟨r, hr, rfl⟩ := hyielded.leaf
    exact ⟨r, hentry, Table.lookupRoute?_join hdots hentry, hr,
      Compiler.template_of_ofTemplate hr⟩
  · intro keys bases base children hdots hcontains
    have hplace := place?_of_contains hbuilt h hcontains
    obtain ⟨entry, hentry, hyielded⟩ := exists_of_rel_some (hplace ▸ hyields keys)
    obtain ⟨root, rest, hroot, rfl⟩ := hyielded.branch
    have hfollow : t.follow? (keys ++ [c.baseKey]) = some (.route root) := by
      rw [Table.follow?_append, hentry, Option.bind_some, Entry.follow?_cons, Entry.get?,
        Entries.get?, if_pos rfl]
      rfl
    have hbase := Compiler.base_of_root hroot rest
    exact ⟨⟨_, _⟩, root, hentry, Table.lookupRoute?_join hdots hfollow,
      hbase ▸ Compiler.constant_of_ofBase hroot, hbase⟩

/-- A lookup follows the pieces of its text, and keys with a dot have no part in it. -/
theorem Table.dotted_lookup (t : Table) :
    (∀ dotted, t.lookup? dotted = t.follow? (dotted.splitOn '.') ∧
        t.lookupRoute? dotted = (t.follow? (dotted.splitOn '.')).bind Entry.route? ∧
        (∀ key ∈ dotted.splitOn '.', '.' ∉ key) ∧
        t.undotted.lookup? dotted = (t.lookup? dotted).map Entry.undotted) ∧
      ∀ (b : Branch) (options : Options), b.Built → b.compile options = .ok t →
        ∃ c, Compiler.ofOptions options = .ok c ∧ c.baseKey = options.baseKey ∧
          b.Reached c t := by
  refine ⟨?_, fun b options hbuilt h => Branch.reached hbuilt h⟩
  intro dotted
  have hlookup := t.lookup?_eq_follow? dotted
  exact ⟨hlookup, congrArg (Option.bind · Entry.route?) hlookup,
    fun _ => Text.not_mem_of_mem_splitOn, t.lookup?_undotted dotted⟩

/-- The leaf under `P` and `G` is found beside one whose own key is `P.G`. -/
theorem Table.dotted_lookup_sameSpelling :
    let b := Branch.twoLevels.insert ['P', '.', 'G'] (.leaf ['x'])
    let options : Options := ⟨none, ['_'], false, .initial⟩
    let above : List Text := [['/', 'a'], ['/', 'p']]
    let fragment : Text := ['/', ':', 'i', '/', ':', 'i']
    ∃ t, b.Built ∧ b.compile options = .ok t ∧
      b.toNode.Contains [['P'], ['G']] above (.leaf fragment) ∧
      (∃ r, t.lookupRoute? ['P', '.', 'G'] = some r ∧ r.template = above.flatten ++ fragment) ∧
      ∃ u r, t.follow? [['P']] = some (.ofTable u) ∧ t.lookupRoute? ['P', '.', '_'] = some r ∧
        r.constant = some u.base := by
  intro b options above fragment
  have hbuilt : b.Built := .insert _ Branch.twoLevels_built (.leaf _)
  have hbranch : b.toNode.Contains [['P']] [['/', 'a']]
      (.branch ['/', 'p'] [(['G'], .leaf fragment)]) :=
    .child (.tail _ (.head _)) (.self _)
  have hleaf : b.toNode.Contains [['P'], ['G']] above (.leaf fragment) :=
    .child (.tail _ (.head _)) (.child (.head _) (.self _))
  obtain ⟨c, _, hbaseKey, hreached⟩ := (dotted_lookup _).2 b options hbuilt rfl
  have hbaseDots : ∀ key ∈ [['P'], c.baseKey], '.' ∉ key := by
    rw [hbaseKey]
    decide
  obtain ⟨r, _, hr, _, htemplate⟩ := hreached.leaf _ _ _ (by decide) hleaf
  obtain ⟨u, root, hu, hroot, hconstant, _⟩ := hreached.base _ _ _ _ hbaseDots hbranch
  rw [hbaseKey] at hroot
  exact ⟨_, hbuilt, rfl, hleaf, ⟨r, hr, htemplate⟩, u, root, hu, hroot, hconstant⟩

end RouteTree
