import RouteTree.Proofs.Calls
import RouteTree.Proofs.Places

namespace RouteTree

/-! Checks refuse and do nothing else. -/

/-- The second options make no check, and agree with the first otherwise. -/
structure Options.RelaxedBy (o p : Options) : Prop where
  prepend : p.prepend = o.prepend
  baseKey : p.baseKey = o.baseKey
  sigil : p.format.sigil = o.format.sigil
  percentEncode : p.format.percentEncode = o.format.percentEncode
  strictKeys : p.format.strictKeys = false
  check : p.format.check = .off
  leadingSlash : p.enforceLeadingSlash = false

structure Format.RelaxedBy (f g : Format) : Prop where
  prepend : g.prepend = f.prepend
  sigil : g.sigil = f.sigil
  encode : g.encode = f.encode
  strict : g.strict = false
  rule : g.rule = .off

structure Formatter.RelaxedBy (f g : Formatter) : Prop where
  template : g.template = f.template
  path : g.path = f.path
  queryKeys : g.queryKeys = f.queryKeys
  format : f.format.RelaxedBy g.format

structure Compiler.RelaxedBy (c d : Compiler) : Prop where
  baseKey : d.baseKey = c.baseKey
  leadingSlash : d.enforceLeadingSlash = false
  format : c.format.RelaxedBy d.format

/-- The second route answers every call, and the first gives that answer or an error of the call. -/
structure Route.RelaxedBy (r s : Route) : Prop where
  kind : s.kind = r.kind
  template : s.template = r.template
  parameters : s.parameters = r.parameters
  queryKeys : s.queryKeys = r.queryKeys
  constant : s.constant = r.constant
  answers : ∀ arguments search, ∃ url, s.url arguments search = .ok url ∧
    (r.url arguments search = .ok url ∨ ∃ e, r.url arguments search = .error e ∧ e.OfCall)

inductive Entry.RelaxedBy : Entry → Entry → Prop
  | route {r s : Route} (h : r.RelaxedBy s) : RelaxedBy (.route r) (.route s)
  | table {t u : Table} (keys : u.keys = t.keys) (base : u.base = t.base) :
      RelaxedBy (.ofTable t) (.ofTable u)

namespace Formatter

variable {f g : Formatter}

theorem RelaxedBy.draft (h : f.RelaxedBy g) (arguments : Option PathArguments)
    (search : Option (Bindings Value)) :
    ∃ draft, g.draft arguments search = .ok draft ∧
      ∀ draft', f.draft arguments search = .ok draft' → draft' = draft := by
  have hpath : ∃ path,
      g.path.fill g.format.strict g.format.encode g.template arguments = .ok path ∧
        ∀ path', f.path.fill f.format.strict f.format.encode f.template arguments = .ok path' →
          path' = path := by
    rw [h.path, h.format.strict, h.format.encode]
    cases arguments with
    | none => exact ⟨_, rfl, fun _ hpath' => (Except.ok.inj hpath').symm⟩
    | some arguments =>
        exact ⟨_, PathTemplate.fill_eq_ok.mpr ⟨nofun, rfl⟩,
          fun _ hpath' => (PathTemplate.fill_eq_ok.mp hpath').2.symm⟩
  obtain ⟨path, hpath, hsame⟩ := hpath
  have hquery : Query.checkedText g.queryKeys g.format.strict g.format.encode g.template search =
      .ok (Query.optionalText f.format.encode search) := by
    rw [h.format.strict, h.format.encode]
    exact Query.checkedText_eq_ok.mpr ⟨nofun, rfl⟩
  refine ⟨_, draft_eq_ok.mpr ⟨_, _, hpath, hquery, rfl⟩, ?_⟩
  intro draft' hdraft'
  obtain ⟨path', query', hpath', hquery', rfl⟩ := draft_eq_ok.mp hdraft'
  rw [hsame path' hpath', (Query.checkedText_eq_ok.mp hquery').2]

theorem RelaxedBy.url (h : f.RelaxedBy g) (arguments : Option PathArguments)
    (search : Option (Bindings Value)) :
    ∃ url, g.url arguments search = .ok url ∧
      (f.url arguments search = .ok url ∨ ∃ e, f.url arguments search = .error e ∧ e.OfCall) := by
  obtain ⟨draft, hdraft, hsame⟩ := h.draft arguments search
  have haccepts : g.format.rule.accepts draft = true := by
    rw [h.format.rule]
    rfl
  refine ⟨_, url_eq_ok.mpr ⟨draft, hdraft, fun _ => haccepts, rfl⟩, ?_⟩
  cases hurl : f.url arguments search with
  | error e => exact .inr ⟨e, rfl, url_error_ofCall hurl⟩
  | ok url' =>
      obtain ⟨draft', hdraft', _, rfl⟩ := url_eq_ok.mp hurl
      rw [hsame draft' hdraft', h.format.prepend]
      exact .inl rfl

theorem RelaxedBy.isConstant (h : f.RelaxedBy g) : g.isConstant = f.isConstant := by
  rw [Formatter.isConstant, Formatter.isConstant, h.path, h.queryKeys]

theorem RelaxedBy.constant (h : f.RelaxedBy g) : g.route.constant = f.route.constant := by
  simp only [Formatter.route, h.isConstant, h.format.prepend, h.path]

theorem RelaxedBy.route (h : f.RelaxedBy g) : f.route.RelaxedBy g.route where
  kind := by
    rw [Route.kind, Route.kind, Formatter.route, Formatter.route]
    dsimp only
    rw [h.path, h.queryKeys]
  template := h.template
  parameters := congrArg PathTemplate.parameters h.path
  queryKeys := h.queryKeys
  constant := h.constant
  answers := by
    intro arguments search
    have hurl := h.url arguments search
    simp only [Route.url, h.constant]
    split
    · exact ⟨_, rfl, .inl rfl⟩
    · exact hurl

theorem RelaxedBy.compile (h : f.RelaxedBy g) {r : Route} (hr : f.compile = .ok r) :
    ∃ s, g.compile = .ok s ∧ r.RelaxedBy s := by
  obtain ⟨_, rfl⟩ := compile_eq_ok.mp hr
  have hadmitted : g.isAdmitted = true := by
    rw [isAdmitted, h.format.rule]
    simp [UrlRule.accepts]
  exact ⟨_, compile_eq_ok.mpr ⟨hadmitted, rfl⟩, h.route⟩

end Formatter

namespace Compiler

variable {c d : Compiler}

theorem RelaxedBy.checkSlash (h : c.RelaxedBy d) (fragment label : Text) :
    d.checkSlash fragment label = .ok () := by
  simp [Compiler.checkSlash, h.leadingSlash]

theorem RelaxedBy.ofTemplate (h : c.RelaxedBy d) {template : Text} {r : Route}
    (hr : Route.ofTemplate c.format template = .ok r) :
    ∃ s, Route.ofTemplate d.format template = .ok s ∧ r.RelaxedBy s := by
  rw [Route.ofTemplate_eq] at hr ⊢
  have hrelaxed :
      (Formatter.ofTemplate c.format template).RelaxedBy (Formatter.ofTemplate d.format template) :=
    ⟨rfl, by simp only [Formatter.ofTemplate, h.format.sigil], rfl, h.format⟩
  exact hrelaxed.compile hr

theorem RelaxedBy.ofBase (h : c.RelaxedBy d) {base : Text} {r : Route}
    (hr : Route.ofBase c.format base = .ok r) :
    ∃ s, Route.ofBase d.format base = .ok s ∧ r.RelaxedBy s := by
  rw [Route.ofBase_eq] at hr ⊢
  have hrelaxed :
      (Formatter.ofBase c.format base).RelaxedBy (Formatter.ofBase d.format base) :=
    ⟨rfl, by simp only [Formatter.ofBase, h.format.sigil], rfl, h.format⟩
  exact hrelaxed.compile hr

mutual
theorem RelaxedBy.compileNode (h : c.RelaxedBy d) {above label key : Text} (n : Node)
    {entry : Entry} (hentry : c.compileNode above label key n = .ok entry) :
    ∃ entry', d.compileNode above label key n = .ok entry' := by
  cases n with
  | leaf fragment =>
      obtain ⟨_, r, hr, rfl⟩ := compileNode_leaf_eq_ok.mp hentry
      obtain ⟨s, hs, _⟩ := h.ofTemplate hr
      exact ⟨_, compileNode_leaf_eq_ok.mpr ⟨h.checkSlash fragment label, s, hs, rfl⟩⟩
  | branch base children =>
      obtain ⟨_, root, entries, hroot, hentries, rfl⟩ := compileNode_branch_eq_ok.mp hentry
      obtain ⟨root', hroot', _⟩ := h.ofBase hroot
      obtain ⟨entries', hentries'⟩ := RelaxedBy.compileChildren h children hentries
      exact ⟨_, compileNode_branch_eq_ok.mpr
        ⟨h.checkSlash base label, root', entries', hroot', hentries', rfl⟩⟩

theorem RelaxedBy.compileChildren (h : c.RelaxedBy d) {above label : Text}
    (children : List (Text × Node)) {entries : List (Text × Entry)}
    (hentries : c.compileChildren above label children = .ok entries) :
    ∃ entries', d.compileChildren above label children = .ok entries' := by
  cases children with
  | nil => exact ⟨[], rfl⟩
  | cons child rest =>
      obtain ⟨key, n⟩ := child
      rw [compileChildren_eq_ok, List.forall₂_cons_left_iff] at hentries
      obtain ⟨entry, entries, hchild, hrest, rfl⟩ := hentries
      obtain ⟨entry', hentry'⟩ := RelaxedBy.compileNode h n hchild.compiled
      obtain ⟨entries', hentries'⟩ :=
        RelaxedBy.compileChildren h rest (compileChildren_eq_ok.mpr hrest)
      have hunreserved : key ≠ d.baseKey := h.baseKey ▸ hchild.unreserved
      exact ⟨(key, entry') :: entries', compileChildren_eq_ok.mpr
        (.cons ⟨rfl, hunreserved, hentry'⟩ (compileChildren_eq_ok.mp hentries'))⟩
end

theorem RelaxedBy.yields (h : c.RelaxedBy d) {place : Place} {entry entry' : Entry}
    (hc : c.Yields place entry) (hd : d.Yields place entry') : entry.RelaxedBy entry' := by
  cases hc with
  | base hr =>
      cases hd with
      | base hs =>
          obtain ⟨s, hs', hrelaxed⟩ := h.ofBase hr
          obtain rfl := Except.ok.inj (hs.symm.trans hs')
          exact .route hrelaxed
  | @node bases n _ _ entry hentry =>
      cases hd with
      | node hentry' =>
          cases n with
          | leaf fragment =>
              obtain ⟨_, r, hr, rfl⟩ := compileNode_leaf_eq_ok.mp hentry
              obtain ⟨_, s, hs, rfl⟩ := compileNode_leaf_eq_ok.mp hentry'
              obtain ⟨s', hs', hrelaxed⟩ := h.ofTemplate hr
              obtain rfl := Except.ok.inj (hs.symm.trans hs')
              exact .route hrelaxed
          | branch base children =>
              obtain ⟨_, root, entries, hroot, hentries, rfl⟩ :=
                compileNode_branch_eq_ok.mp hentry
              obtain ⟨_, root', entries', hroot', hentries', rfl⟩ :=
                compileNode_branch_eq_ok.mp hentry'
              obtain ⟨root'', hroot'', hrelaxed⟩ := h.ofBase hroot
              obtain rfl := Except.ok.inj (hroot'.symm.trans hroot'')
              have hkeys := Entries.keys_eq_of_rel (fun _ _ hchild => hchild.key)
                (compileChildren_eq_ok.mp hentries)
              have hkeys' := Entries.keys_eq_of_rel (fun _ _ hchild => hchild.key)
                (compileChildren_eq_ok.mp hentries')
              refine .table (t := ⟨_, _⟩) (u := ⟨_, _⟩) ?_ ?_
              · simp only [Table.keys, Entries.keys_cons, hkeys, hkeys', h.baseKey]
              · rw [Table.base_root, Table.base_root, hrelaxed.constant]

theorem RelaxedBy.ofOptions {o p : Options} (h : o.RelaxedBy p)
    (hc : Compiler.ofOptions o = .ok c) :
    ∃ d, Compiler.ofOptions p = .ok d ∧ c.RelaxedBy d := by
  obtain ⟨rule, _, rfl⟩ := ofOptions_eq_ok.mp hc
  have hrule : UrlRule.ofCheck p.format.check = .ok .off := by
    rw [h.check]
    rfl
  refine ⟨_, ofOptions_eq_ok.mpr ⟨.off, hrule, rfl⟩, h.baseKey, h.leadingSlash, ?_⟩
  exact ⟨congrArg (Option.getD · []) h.prepend, h.sigil, h.percentEncode, h.strictKeys, rfl⟩

end Compiler

/-- Two compilations of one tree, the second without checks, are alike along every row of keys. -/
theorem Branch.compile_relaxed {b : Branch} {o p : Options} {t : Table} (h : o.RelaxedBy p)
    (ht : b.compile o = .ok t) :
    ∃ u, b.compile p = .ok u ∧
      ∀ keys, Option.Rel Entry.RelaxedBy (t.follow? keys) (u.follow? keys) := by
  obtain ⟨c, hc, hroot⟩ := compile_eq_ok.mp ht
  obtain ⟨d, hd, hrelaxed⟩ := Compiler.RelaxedBy.ofOptions h hc
  obtain ⟨entry, hentry⟩ := hrelaxed.compileNode b.toNode hroot
  obtain ⟨_, root, entries, _, _, rfl⟩ := Compiler.compileNode_branch_eq_ok.mp hentry
  let u : Table := ⟨d.baseKey, (d.baseKey, .route root) :: entries⟩
  have hu : b.compile p = .ok u := compile_eq_ok.mpr ⟨d, hd, hentry⟩
  refine ⟨u, hu, ?_⟩
  intro keys
  obtain ⟨c', hc', hyields⟩ := compile_yields ht
  obtain ⟨d', hd', hyields'⟩ := compile_yields hu
  obtain rfl := Except.ok.inj (hc.symm.trans hc')
  obtain rfl := Except.ok.inj (hd.symm.trans hd')
  rw [h.baseKey] at hyields'
  exact rel_of_common (hyields keys) (hyields' keys) fun _ _ _ hc hd => hrelaxed.yields hc hd

theorem Branch.compile_relaxed_twoLevels :
    let o : Options := ⟨some ['h'], ['_'], true, ⟨true, .standard, ':', false⟩⟩
    let p : Options := ⟨some ['h'], ['_'], false, ⟨false, .off, ':', false⟩⟩
    ∃ t, o.RelaxedBy p ∧ twoLevels.compile o = .ok t ∧
      ∃ u, twoLevels.compile p = .ok u ∧
        ∀ keys, Option.Rel Entry.RelaxedBy (t.follow? keys) (u.follow? keys) := by
  intro o p
  have h : o.RelaxedBy p := ⟨rfl, rfl, rfl, rfl, rfl, rfl, rfl⟩
  exact ⟨_, h, rfl, compile_relaxed h rfl⟩

end RouteTree
