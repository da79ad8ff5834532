import RouteTree.Proofs.Answers

namespace RouteTree

def Format.prepended (text : Text) (format : Format) : Format :=
  { format with prepend := text ++ format.prepend }

def Formatter.prepended (text : Text) (f : Formatter) : Formatter :=
  { f with format := f.format.prepended text }

def Route.prepended (text : Text) (r : Route) : Route :=
  ⟨r.formatter.prepended text, r.constant.map (text ++ ·)⟩

mutual
def Entry.prepended (text : Text) : Entry → Entry
  | .route r => .route (r.prepended text)
  | .table baseKey entries => .table baseKey (Entry.allPrepended text entries)

def Entry.allPrepended (text : Text) : List (Text × Entry) → List (Text × Entry)
  | [] => []
  | (key, entry) :: rest => (key, entry.prepended text) :: Entry.allPrepended text rest
end

def Table.prepended (text : Text) (t : Table) : Table :=
  ⟨t.baseKey, Entry.allPrepended text t.entries⟩

def Compiler.prepended (text : Text) (c : Compiler) : Compiler :=
  { c with format := c.format.prepended text }

section Calls

variable (text : Text) (arguments : Option PathArguments) (search : Option (Bindings Value))

theorem Formatter.url_prepended (f : Formatter) :
    (f.prepended text).url arguments search = (text ++ ·) <$> f.url arguments search := by
  have hdraft : (f.prepended text).draft arguments search = f.draft arguments search := rfl
  rw [Formatter.url, Formatter.url, hdraft, map_bind]
  apply bind_congr
  intro draft
  simp only [Formatter.prepended, Format.prepended, List.append_assoc]
  by_cases hchecked : (arguments.isSome || f.path.parameterCount == 0) = true
  · simp only [if_pos hchecked, map_bind, map_pure]
  · simp only [if_neg hchecked, map_pure]

theorem Route.url_prepended (r : Route) :
    (r.prepended text).url arguments search = (text ++ ·) <$> r.url arguments search := by
  obtain ⟨f, constant⟩ := r
  have hurl := f.url_prepended text arguments search
  cases constant with
  | none => exact hurl
  | some url =>
      cases arguments with
      | some arguments => exact hurl
      | none =>
          cases search with
          | some search => exact hurl
          | none => rfl

end Calls

section Compilation

variable (text : Text)

theorem Formatter.route_prepended (f : Formatter) :
    (f.prepended text).route = f.route.prepended text := by
  have hsame : (f.prepended text).isConstant = f.isConstant := rfl
  rw [Formatter.route, Formatter.route, Route.prepended, hsame]
  by_cases hconstant : f.isConstant = true
  · rw [if_pos hconstant, if_pos hconstant, Option.map_some, ← List.append_assoc]
    rfl
  · rw [if_neg hconstant, if_neg hconstant]
    rfl

theorem Formatter.compile_prepended (f : Formatter) :
    (f.prepended text).compile = Route.prepended text <$> f.compile := by
  have hadmitted : (f.prepended text).isAdmitted = f.isAdmitted := rfl
  rw [compile, compile, hadmitted, route_prepended]
  split
  · rfl
  · rfl

theorem Route.ofTemplate_prepended (format : Format) (template : Text) :
    ofTemplate (format.prepended text) template =
      Route.prepended text <$> ofTemplate format template := by
  rw [ofTemplate_eq, ofTemplate_eq, ← Formatter.compile_prepended]
  rfl

theorem Route.ofBase_prepended (format : Format) (base : Text) :
    ofBase (format.prepended text) base = Route.prepended text <$> ofBase format base := by
  rw [ofBase_eq, ofBase_eq, ← Formatter.compile_prepended]
  rfl

namespace Compiler

theorem table_prepended (c : Compiler) (base : Text)
    (entries : Except RouteError (List (Text × Entry))) :
    (c.prepended text).table base (Entry.allPrepended text <$> entries) =
      Table.prepended text <$> c.table base entries := by
  simp only [table, prepended, Route.ofBase_prepended, map_bind, bind_map_left, map_pure]
  rfl

mutual
theorem compileNode_prepended (c : Compiler) (above label key : Text) (n : Node) :
    (c.prepended text).compileNode above label key n =
      Entry.prepended text <$> c.compileNode above label key n := by
  cases n with
  | leaf fragment =>
      have hroute := Route.ofTemplate_prepended text c.format (above ++ fragment)
      simp only [compileNode, map_bind, map_pure]
      apply bind_congr
      intro _
      rw [prepended, hroute, bind_map_left]
      rfl
  | branch base children =>
      have hchildren := compileChildren_prepended c (above ++ base) key children
      simp only [compileNode, map_bind, map_pure]
      apply bind_congr
      intro _
      rw [hchildren, table_prepended, bind_map_left]
      rfl

theorem compileChildren_prepended (c : Compiler) (above label : Text)
    (children : List (Text × Node)) :
    (c.prepended text).compileChildren above label children =
      Entry.allPrepended text <$> c.compileChildren above label children := by
  cases children with
  | nil => rfl
  | cons child rest =>
      obtain ⟨key, n⟩ := child
      have hnode := compileNode_prepended c above label key n
      have hrest := compileChildren_prepended c above label rest
      rw [compileChildren, compileChildren]
      change (if key = c.baseKey then _ else _) = _
      split
      · rfl
      · simp only [hnode, hrest, map_bind, bind_map_left, map_pure]
        rfl
end

theorem ofOptions_prepended (o : Options) :
    ofOptions { o with prepend := some text } =
      prepended text <$> ofOptions { o with prepend := none } := by
  simp only [ofOptions, Format.ofOptions, map_bind, bind_assoc, map_pure, pure_bind]
  apply bind_congr
  intro rule
  simp [prepended, Format.prepended]

end Compiler

theorem Branch.compile_prepended (b : Branch) (o : Options) :
    b.compile { o with prepend := some text } =
      Table.prepended text <$> b.compile { o with prepend := none } := by
  simp only [compile, Compiler.ofOptions_prepended, map_bind, bind_map_left]
  apply bind_congr
  intro c
  apply bind_congr
  intro _
  rw [Compiler.compileChildren_prepended, Compiler.table_prepended]

end Compilation

section Places

variable (text : Text)

theorem Entry.get?_allPrepended (key : Text) (entries : List (Text × Entry)) :
    Entries.get? key (Entry.allPrepended text entries) =
      (Entries.get? key entries).map (Entry.prepended text) := by
  induction entries with
  | nil => rfl
  | cons entry rest ih =>
      obtain ⟨first, entry⟩ := entry
      by_cases hfirst : first = key
      · simp [Entry.allPrepended, Entries.get?, hfirst]
      · simpa [Entry.allPrepended, Entries.get?, hfirst] using ih

theorem Entry.get?_prepended (key : Text) (entry : Entry) :
    (entry.prepended text).get? key = (entry.get? key).map (Entry.prepended text) := by
  cases entry with
  | route r => rfl
  | table baseKey entries => exact get?_allPrepended text key entries

theorem Table.follow?_prepended (t : Table) (keys : List Text) :
    (t.prepended text).follow? keys = (t.follow? keys).map (Entry.prepended text) :=
  Entry.follow?_map (fun key _ => Entry.get?_prepended text key) (Entry.ofTable t)

end Places

/-- Every call has the answer of the second route with a text in front, or the same error. -/
def Route.Prefixes (text : Text) (r s : Route) : Prop :=
  ∀ arguments search,
    r.url arguments search = (text ++ ·) <$> s.url arguments search

/-- Two tables of one tree, the first with a text prepended. A leaf of the second is the route of
its whole template. -/
structure Branch.Prefixed (b : Branch) (o : Options) (text : Text) (t u : Table) : Prop where
  leaf : ∀ keys bases fragment,
    b.place? o.baseKey keys = some (.node bases (.leaf fragment)) →
      ∃ r s, t.follow? keys = some (.route r) ∧ u.follow? keys = some (.route s) ∧
        Route.ofPath (bases.flatten ++ fragment) o.format = .ok s ∧ r.Prefixes text s
  base : ∀ keys bases, b.place? o.baseKey keys = some (.base bases) →
    ∃ r s, t.follow? keys = some (.route r) ∧ u.follow? keys = some (.route s) ∧
      r.Prefixes text s

theorem Branch.prefixed {b : Branch} {o : Options} {text : Text} {u : Table}
    (h : b.compile { o with prepend := none } = .ok u) :
    b.Prefixed o text (u.prepended text) u := by
  obtain ⟨c, hc, hyields⟩ := compile_yields h
  obtain ⟨rule, hrule, rfl⟩ := Compiler.ofOptions_eq_ok.mp hc
  have hfollow : ∀ keys s, u.follow? keys = some (.route s) →
      (u.prepended text).follow? keys = some (.route (s.prepended text)) := by
    intro keys s hs
    rw [Table.follow?_prepended, hs]
    rfl
  constructor
  · intro keys bases fragment hplace
    obtain ⟨entry, hentry, hyielded⟩ := exists_of_rel_some (hplace ▸ hyields keys)
    obtain ⟨s, hs, rfl⟩ := hyielded.leaf
    exact ⟨s.prepended text, s, hfollow keys s hentry, hentry,
      Route.ofPath_eq_ok.mpr ⟨rule, hrule, hs⟩,
      fun arguments search => s.url_prepended text arguments search⟩
  · intro keys bases hplace
    obtain ⟨entry, hentry, hyielded⟩ := exists_of_rel_some (hplace ▸ hyields keys)
    cases hyielded with
    | @base _ s _ =>
        exact ⟨s.prepended text, s, hfollow keys s hentry, hentry,
          fun arguments search => s.url_prepended text arguments search⟩

/-- With and without a prepended text a tree fails to compile with one error, or else compiles to
tables that answer every call alike but for that text. -/
theorem Branch.compile_prefixed (b : Branch) (o : Options) (text : Text) :
    Outcome.Rel (b.Prefixed o text) (b.compile { o with prepend := some text })
      (b.compile { o with prepend := none }) := by
  rw [compile_prepended]
  cases h : b.compile { o with prepend := none } with
  | error e => exact .error e
  | ok u => exact .ok (prefixed h)

end RouteTree
