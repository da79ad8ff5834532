import RouteTree.Proofs.Places

namespace RouteTree

namespace Node

theorem Built.place {n : Node} (h : n.Built) {baseKey : Text} {bases : List Text}
    {keys : List Text} {bases' : List Text} {n' : Node}
    (hplace : n.place? baseKey bases keys = some (.node bases' n')) : n'.Built := by
  induction keys generalizing n bases with
  | nil =>
      cases hplace
      exact h
  | cons first rest ih =>
      cases n with
      | leaf fragment => cases hplace
      | branch base children =>
          rw [place?] at hplace
          split at hplace
          · split at hplace <;> cases hplace
          · obtain ⟨child, hchild, hrest⟩ := Option.bind_eq_some_iff.mp hplace
            exact ih ((h.children rfl).2 first child hchild) hrest

end Node

namespace Compiler

inductive Mirrors (c : Compiler) : Place → Entry → Prop
  | leaf {bases : List Text} {fragment : Text} {r : Route}
      (compiled : Route.ofTemplate c.format (bases.flatten ++ fragment) = .ok r)
      (template : r.template = bases.flatten ++ fragment) :
      Mirrors c (.node bases (.leaf fragment)) (.route r)
  | branch {bases : List Text} {base : Text} {children : List (Text × Node)} {t : Table}
      (baseKey : t.baseKey = c.baseKey)
      (keys : t.keys = c.baseKey :: Entries.keys children)
      (nodup : t.keys.Nodup)
      (constant : (t.route? c.baseKey).bind Route.constant =
        some (c.format.prepend ++ (bases ++ [base]).flatten))
      (prefixed : t.base = c.format.prepend ++ (bases ++ [base]).flatten)
      (below : ∀ key child, Entries.get? key children = some child →
        ∃ entry, t.get? key = some entry ∧ c.Yields (.node (bases ++ [base]) child) entry) :
      Mirrors c (.node bases (.branch base children)) (.ofTable t)
  | base {bases : List Text} {r : Route}
      (constant : r.constant = some (c.format.prepend ++ bases.flatten))
      (template : r.template = bases.flatten) :
      Mirrors c (.base bases) (.route r)

variable {c : Compiler}

theorem constant_of_ofBase {format : Format} {base : Text} {r : Route}
    (h : Route.ofBase format base = .ok r) : r.constant = some (format.prepend ++ base) := by
  obtain ⟨_, rfl⟩ := Route.ofBase_eq_ok.mp h
  exact Formatter.route_constant_eq_some.mpr ⟨Formatter.ofBase_isConstant format base, rfl⟩

theorem base_of_root {base : Text} {root : Route} (h : Route.ofBase c.format base = .ok root)
    (rest : Entries Entry) :
    Table.base ⟨c.baseKey, (c.baseKey, .route root) :: rest⟩ = c.format.prepend ++ base := by
  rw [Table.base_root, constant_of_ofBase h]
  rfl

theorem template_of_ofTemplate {format : Format} {template : Text} {r : Route}
    (h : Route.ofTemplate format template = .ok r) : r.template = template := by
  obtain ⟨_, rfl⟩ := Route.ofTemplate_eq_ok.mp h
  rfl

theorem baseKey_not_mem_keys {above label : Text} {children : List (Text × Node)}
    {entries : List (Text × Entry)}
    (h : List.Forall₂ (c.Child above label) children entries) :
    c.baseKey ∉ Entries.keys children := by
  induction h with
  | nil => simp
  | cons hhead _ ih =>
      intro hmem
      rcases List.mem_cons.mp hmem with heq | hrest
      · exact hhead.unreserved heq.symm
      · exact ih hrest

theorem mirrors_branch {bases : List Text} {label key base : Text}
    {children : List (Text × Node)} {entry : Entry}
    (hbuilt : (Node.branch base children).Built)
    (h : c.compileNode bases.flatten label key (.branch base children) = .ok entry) :
    c.Mirrors (.node bases (.branch base children)) entry := by
  obtain ⟨_, root, entries, hroot, hentries, rfl⟩ := compileNode_branch_eq_ok.mp h
  rw [← List.flatten_concat] at hroot hentries
  have hrel := compileChildren_eq_ok.mp hentries
  let t : Table := ⟨c.baseKey, (c.baseKey, .route root) :: entries⟩
  have hkeys : t.keys = c.baseKey :: Entries.keys children :=
    congrArg (c.baseKey :: ·) (Entries.keys_eq_of_rel (fun _ _ hchild => hchild.key) hrel)
  have hnew := baseKey_not_mem_keys hrel
  have hconstant : (t.route? c.baseKey).bind Route.constant =
      some (c.format.prepend ++ (bases ++ [base]).flatten) :=
    (Table.constant_root c.baseKey root entries).trans (constant_of_ofBase hroot)
  refine .branch (t := t) rfl hkeys ?_ hconstant ?_ ?_
  · rw [hkeys, List.nodup_cons]
    exact ⟨hnew, (hbuilt.children rfl).1⟩
  · exact congrArg (Option.getD · []) hconstant
  · intro key child hchild
    obtain ⟨entry, hentry, hcompiled⟩ := exists_of_compileChildren hentries hchild
    have hne : c.baseKey ≠ key := by
      intro heq
      exact hcompiled.unreserved heq.symm
    exact ⟨entry, by simpa [t, Table.get?, Entries.get?, hne] using hentry,
      .node hcompiled.compiled⟩

theorem Yields.mirrors {place : Place} {entry : Entry} (h : c.Yields place entry)
    (hbuilt : ∀ bases n, place = .node bases n → n.Built) : c.Mirrors place entry := by
  cases h with
  | @node bases n label key entry hcompiled =>
      cases n with
      | leaf fragment =>
          obtain ⟨_, r, hroute, rfl⟩ := compileNode_leaf_eq_ok.mp hcompiled
          exact .leaf hroute (template_of_ofTemplate hroute)
      | branch base children => exact mirrors_branch (hbuilt _ _ rfl) hcompiled
  | base hcompiled =>
      refine .base (constant_of_ofBase hcompiled) ?_
      obtain ⟨_, rfl⟩ := Route.ofBase_eq_ok.mp hcompiled
      rfl

end Compiler

/-- A row of keys leads nowhere in both, or to a place in the tree and an entry that mirrors it. -/
theorem Branch.compile_mirrors {b : Branch} {options : Options} {t : Table} (hbuilt : b.Built)
    (h : b.compile options = .ok t) :
    ∃ c, Compiler.ofOptions options = .ok c ∧ c.baseKey = options.baseKey ∧
      c.format.prepend = options.prepend.getD [] ∧
      ∀ keys, Option.Rel c.Mirrors (b.place? options.baseKey keys) (t.follow? keys) := by
  obtain ⟨c, hc, hyields⟩ := compile_yields h
  obtain ⟨rule, hrule, heq⟩ := Compiler.ofOptions_eq_ok.mp hc
  have hbaseKey : c.baseKey = options.baseKey := by rw [heq]
  have hprepend : c.format.prepend = options.prepend.getD [] := by
    rw [heq]
    rfl
  refine ⟨c, hc, hbaseKey, hprepend, ?_⟩
  intro keys
  have hrel := hyields keys
  generalize hplace : b.place? options.baseKey keys = place, t.follow? keys = entry at hrel ⊢
  cases hrel with
  | none => exact .none
  | some hentry =>
      refine .some (hentry.mirrors ?_)
      intro bases n heq
      subst heq
      exact Node.Built.place hbuilt hplace

theorem Branch.compile_mirrors_twoLevels :
    let options : Options := ⟨some ['h'], ['_'], true, .initial⟩
    ∃ t, twoLevels.compile options = .ok t ∧
      ∃ c, Compiler.ofOptions options = .ok c ∧ c.baseKey = ['_'] ∧ c.format.prepend = ['h'] ∧
        ∀ keys, Option.Rel c.Mirrors (twoLevels.place? ['_'] keys) (t.follow? keys) :=
  ⟨_, rfl, compile_mirrors twoLevels_built rfl⟩

end RouteTree
