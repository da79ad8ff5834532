import RouteTree.Proofs.Outcome
import RouteTree.Table

namespace RouteTree

/-! What a compilation that succeeds has done, step by step. -/

theorem RouteKind.ofCounts_eq_constant {m n : Nat} :
    RouteKind.ofCounts m n = .constant ↔ m = 0 ∧ n = 0 := by
  cases m <;> cases n <;> simp [RouteKind.ofCounts]

def FormatOptions.toFormat (options : FormatOptions) (rule : UrlRule) (prepend : Option Text) :
    Format where
  strict := options.strictKeys
  encode := options.percentEncode
  sigil := options.sigil
  rule := rule
  prepend := prepend.getD []

theorem Format.ofOptions_eq_ok {options : FormatOptions} {prepend : Option Text}
    {format : Format} :
    Format.ofOptions options prepend = .ok format ↔
      ∃ rule, UrlRule.ofCheck options.check = .ok rule ∧
        options.toFormat rule prepend = format := by
  rw [Format.ofOptions, Outcome.bind_eq_ok]
  exact exists_congr fun _ => and_congr_right fun _ => Outcome.pure_eq_ok

namespace Formatter

def ofTemplate (format : Format) (template : Text) : Formatter where
  template := template
  path := .parse format.sigil (template.cut '?').1
  queryKeys := ((template.cut '?').2.map Query.declaredKeys).getD []
  format := format

def ofBase (format : Format) (base : Text) : Formatter where
  template := base
  path := .verbatim format.sigil base
  queryKeys := []
  format := format

/-- Nothing in the URL can change. -/
def isConstant (f : Formatter) : Bool := f.path.parameterCount == 0 && f.queryKeys.isEmpty

theorem isConstant_iff {f : Formatter} :
    f.isConstant = true ↔
      RouteKind.ofCounts f.path.parameterCount f.queryKeys.length = .constant := by
  rw [RouteKind.ofCounts_eq_constant]
  simp [isConstant]

def route (f : Formatter) : Route where
  formatter := f
  constant := if f.isConstant then some (f.format.prepend ++ f.path.source) else none

theorem route_constant_eq_some {f : Formatter} {url : Text} :
    f.route.constant = some url ↔
      f.isConstant = true ∧ f.format.prepend ++ f.path.source = url := by
  rw [route]
  dsimp only
  rw [Option.ite_none_right_eq_some, Option.some.injEq]

theorem isSome_route_constant {f : Formatter} :
    f.route.constant.isSome = true ↔ f.isConstant = true := by
  rw [route]
  split <;> simp_all

theorem route_kind_eq_constant {f : Formatter} :
    f.route.kind = .constant ↔ f.isConstant = true :=
  isConstant_iff.symm

/-- The path is one that the rule accepts, if it is the URL. -/
def isAdmitted (f : Formatter) : Bool := !f.isConstant || f.format.rule.accepts f.path.source

def compile (f : Formatter) : Except RouteError Route :=
  if f.isAdmitted then .ok f.route else .error (.refusedUrl f.path.source)

theorem compile_eq_ok {f : Formatter} {r : Route} :
    f.compile = .ok r ↔ f.isAdmitted = true ∧ r = f.route := by
  unfold compile
  split
  · rename_i hadmitted
    exact ⟨fun h => ⟨hadmitted, (Except.ok.inj h).symm⟩, fun h => congrArg Except.ok h.2.symm⟩
  · rename_i hrefused
    exact ⟨nofun, fun h => False.elim (hrefused h.1)⟩

@[simp] theorem ofBase_isConstant (format : Format) (base : Text) :
    (ofBase format base).isConstant = true := by
  simp [isConstant, ofBase, PathTemplate.parameterCount, PathTemplate.parameters,
    PathTemplate.verbatim, List.filterMap_map, Function.comp_def, Segment.parameter?]

end Formatter

namespace Route

theorem fixed_eq_compile {f : Formatter} (h : f.isConstant = true) :
    fixed f.format f.path.source f = f.compile := by
  by_cases haccepts : f.format.rule.accepts f.path.source = true
  · simp [fixed, UrlRule.check, Formatter.compile, Formatter.isAdmitted, Formatter.route, h,
      haccepts, bind, Except.bind, pure, Except.pure]
  · simp [fixed, UrlRule.check, Formatter.compile, Formatter.isAdmitted, h, haccepts, bind,
      Except.bind]

theorem ofBase_eq (format : Format) (base : Text) :
    ofBase format base = (Formatter.ofBase format base).compile :=
  fixed_eq_compile (Formatter.ofBase_isConstant format base)

theorem ofTemplate_eq (format : Format) (template : Text) :
    ofTemplate format template = (Formatter.ofTemplate format template).compile := by
  have hkind := Formatter.isConstant_iff (f := Formatter.ofTemplate format template)
  unfold ofTemplate
  dsimp only
  split
  · rename_i hconstant
    exact fixed_eq_compile (hkind.mpr hconstant)
  · rename_i hvaries
    have hfalse : (Formatter.ofTemplate format template).isConstant = false := by
      rw [Bool.eq_false_iff]
      exact fun h => hvaries (hkind.mp h)
    simp [Formatter.compile, Formatter.isAdmitted, Formatter.route, hfalse]
    rfl

theorem ofBase_eq_ok {format : Format} {base : Text} {r : Route} :
    ofBase format base = .ok r ↔
      (Formatter.ofBase format base).isAdmitted = true ∧
        r = (Formatter.ofBase format base).route := by
  rw [ofBase_eq, Formatter.compile_eq_ok]

theorem ofTemplate_eq_ok {format : Format} {template : Text} {r : Route} :
    ofTemplate format template = .ok r ↔
      (Formatter.ofTemplate format template).isAdmitted = true ∧
        r = (Formatter.ofTemplate format template).route := by
  rw [ofTemplate_eq, Formatter.compile_eq_ok]

theorem ofPath_eq_ok {template : Text} {options : FormatOptions} {r : Route} :
    ofPath template options = .ok r ↔
      ∃ rule, UrlRule.ofCheck options.check = .ok rule ∧
        ofTemplate (options.toFormat rule none) template = .ok r := by
  simp only [ofPath, Outcome.bind_eq_ok, Format.ofOptions_eq_ok]
  constructor
  · intro h
    obtain ⟨_, ⟨rule, hrule, rfl⟩, hr⟩ := h
    exact ⟨rule, hrule, hr⟩
  · intro h
    obtain ⟨rule, hrule, hr⟩ := h
    exact ⟨_, ⟨rule, hrule, rfl⟩, hr⟩

end Route

namespace Compiler

variable {c : Compiler} {above label key base fragment : Text}

theorem compileNode_leaf_eq_ok {entry : Entry} :
    c.compileNode above label key (.leaf fragment) = .ok entry ↔
      c.checkSlash fragment label = .ok () ∧
        ∃ r, Route.ofTemplate c.format (above ++ fragment) = .ok r ∧ entry = .route r := by
  simp only [compileNode, Outcome.bind_eq_ok, Outcome.pure_eq_ok]
  constructor
  · intro h
    obtain ⟨_, hslash, r, hroute, rfl⟩ := h
    exact ⟨hslash, r, hroute, rfl⟩
  · intro h
    obtain ⟨hslash, r, hroute, rfl⟩ := h
    exact ⟨(), hslash, r, hroute, rfl⟩

theorem compileNode_branch_eq_ok {children : List (Text × Node)} {entry : Entry} :
    c.compileNode above label key (.branch base children) = .ok entry ↔
      c.checkSlash base label = .ok () ∧
        ∃ root rest, Route.ofBase c.format (above ++ base) = .ok root ∧
          c.compileChildren (above ++ base) key children = .ok rest ∧
          entry = .table c.baseKey ((c.baseKey, .route root) :: rest) := by
  simp only [compileNode, table, Outcome.bind_eq_ok, Outcome.pure_eq_ok]
  constructor
  · intro h
    obtain ⟨_, hslash, _, ⟨root, hroot, rest, hrest, rfl⟩, rfl⟩ := h
    exact ⟨hslash, root, rest, hroot, hrest, rfl⟩
  · intro h
    obtain ⟨hslash, root, rest, hroot, hrest, rfl⟩ := h
    exact ⟨(), hslash, _, ⟨root, hroot, rest, hrest, rfl⟩, rfl⟩

structure Child (c : Compiler) (above label : Text) (child : Text × Node)
    (entry : Text × Entry) : Prop where
  key : entry.1 = child.1
  unreserved : child.1 ≠ c.baseKey
  compiled : c.compileNode above label child.1 child.2 = .ok entry.2

theorem compileChildren_eq_ok {children : List (Text × Node)} {entries : List (Text × Entry)} :
    c.compileChildren above label children = .ok entries ↔
      List.Forall₂ (c.Child above label) children entries := by
  induction children generalizing entries with
  | nil => simp [compileChildren, eq_comm]
  | cons child rest ih =>
      obtain ⟨key, node⟩ := child
      rw [compileChildren, List.forall₂_cons_left_iff]
      by_cases hkey : key = c.baseKey
      · rw [if_pos hkey]
        constructor
        · intro h
          cases h
        · intro h
          obtain ⟨entry, _, hchild, _, _⟩ := h
          exact False.elim (hchild.unreserved hkey)
      · simp only [if_neg hkey, Outcome.bind_eq_ok, Outcome.pure_eq_ok]
        constructor
        · intro h
          obtain ⟨entry, hentry, entries, hentries, rfl⟩ := h
          exact ⟨(key, entry), entries, ⟨rfl, hkey, hentry⟩, ih.mp hentries, rfl⟩
        · intro h
          obtain ⟨⟨key', entry⟩, entries, hchild, hentries, rfl⟩ := h
          obtain rfl : key' = key := hchild.key
          exact ⟨entry, hchild.compiled, entries, ih.mpr hentries, rfl⟩

theorem ofOptions_eq_ok {options : Options} :
    ofOptions options = .ok c ↔
      ∃ rule, UrlRule.ofCheck options.format.check = .ok rule ∧
        c = ⟨options.baseKey, options.enforceLeadingSlash,
          options.format.toFormat rule options.prepend⟩ := by
  simp only [ofOptions, Outcome.bind_eq_ok, Outcome.pure_eq_ok, Format.ofOptions_eq_ok]
  constructor
  · intro h
    obtain ⟨_, ⟨rule, hrule, rfl⟩, rfl⟩ := h
    exact ⟨rule, hrule, rfl⟩
  · intro h
    obtain ⟨rule, hrule, rfl⟩ := h
    exact ⟨_, ⟨rule, hrule, rfl⟩, rfl⟩

end Compiler

theorem Branch.compile_eq_ok {b : Branch} {options : Options} {t : Table} :
    b.compile options = .ok t ↔
      ∃ c, Compiler.ofOptions options = .ok c ∧
        c.compileNode [] rootLabel rootLabel b.toNode = .ok (.ofTable t) := by
  simp only [compile, Compiler.compileNode, toNode, List.nil_append, Outcome.bind_eq_ok,
    Outcome.pure_eq_ok]
  constructor
  · intro h
    obtain ⟨c, hc, u, hslash, htable⟩ := h
    exact ⟨c, hc, u, hslash, t, htable, rfl⟩
  · intro h
    obtain ⟨c, hc, u, hslash, t', htable, heq⟩ := h
    cases t
    cases t'
    cases heq
    exact ⟨c, hc, u, hslash, htable⟩

end RouteTree
