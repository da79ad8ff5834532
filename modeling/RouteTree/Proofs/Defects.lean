import RouteTree.Proofs.Compilation

namespace RouteTree

/-! The nodes of a tree are visited each before what is below it, and a compilation reports the
first defect that is met. -/

/-- A node with its key, the label of the branch it belongs to, and the joined bases above it. -/
structure Visit where
  above : Text
  label : Text
  key : Option Text
  node : Node

def Node.fragment : Node → Text
  | .leaf fragment => fragment
  | .branch base _ => base

mutual
def Node.visitsBelow (above key : Text) : Node → List Visit
  | .leaf _ => []
  | .branch base children => childVisits (above ++ base) key children

def Node.childVisits (above label : Text) : List (Text × Node) → List Visit
  | [] => []
  | (key, node) :: rest =>
      ⟨above, label, some key, node⟩ :: (node.visitsBelow above key ++ childVisits above label rest)
end

/-- The root has its own label in the place of a branch around it. -/
def Branch.visits (b : Branch) : List Visit :=
  ⟨[], rootLabel, none, b.toNode⟩ :: b.toNode.visitsBelow [] rootLabel

namespace Compiler

def reservedKey? (c : Compiler) (v : Visit) : Option RouteError :=
  if v.key = some c.baseKey then some (.reservedKey c.baseKey v.label) else none

def missingSlash? (c : Compiler) (v : Visit) : Option RouteError :=
  if c.enforceLeadingSlash = true ∧ v.node.fragment ≠ [] ∧ v.node.fragment.head? ≠ some '/' then
    some (.missingSlash v.node.fragment v.label)
  else none

/-- The whole base of a branch is checked, and of a leaf the path if nothing in it can change. -/
def refusedUrl? (c : Compiler) (v : Visit) : Option RouteError :=
  let whole := v.above ++ v.node.fragment
  match v.node with
  | .branch _ _ =>
      if c.format.rule.accepts whole = false then some (.refusedUrl whole) else none
  | .leaf _ =>
      let path := (whole.cut '?').1
      if (PathTemplate.parse c.format.sigil path).parameters = [] ∧
          ((whole.cut '?').2.map Query.declaredKeys).getD [] = [] ∧
          c.format.rule.accepts path = false then
        some (.refusedUrl path)
      else none

def defect? (c : Compiler) (v : Visit) : Option RouteError :=
  (c.reservedKey? v).or ((c.missingSlash? v).or (c.refusedUrl? v))

variable (c : Compiler)

theorem reports_checkSlash (v : Visit) :
    Outcome.Reports (c.checkSlash v.node.fragment v.label) (c.missingSlash? v) := by
  have hcheck : c.checkSlash v.node.fragment v.label = Outcome.orError () (c.missingSlash? v) := by
    rw [checkSlash, missingSlash?, Outcome.orError_ite]
    exact if_congr (by simp [and_assoc]) rfl rfl
  rw [hcheck]
  exact Outcome.reports_orError () _

theorem reports_compile (f : Formatter) :
    Outcome.Reports f.compile
      (if f.isConstant = true ∧ f.format.rule.accepts f.path.source = false then
        some (.refusedUrl f.path.source)
      else none) := by
  have hcompile : f.compile = Outcome.orError f.route
      (if f.isConstant = true ∧ f.format.rule.accepts f.path.source = false then
        some (.refusedUrl f.path.source)
      else none) := by
    rw [Formatter.compile, Outcome.orError_ite, ← ite_not]
    exact if_congr (by simp [Formatter.isAdmitted]) rfl rfl
  rw [hcompile]
  exact Outcome.reports_orError f.route _

theorem reports_ofBase (above label : Text) (key : Option Text) (base : Text)
    (children : List (Text × Node)) :
    Outcome.Reports (Route.ofBase c.format (above ++ base))
      (c.refusedUrl? ⟨above, label, key, .branch base children⟩) := by
  have hbase := reports_compile (Formatter.ofBase c.format (above ++ base))
  simp only [Formatter.ofBase_isConstant, true_and] at hbase
  rw [Route.ofBase_eq]
  exact hbase

theorem reports_ofTemplate (above label : Text) (key : Option Text) (fragment : Text) :
    Outcome.Reports (Route.ofTemplate c.format (above ++ fragment))
      (c.refusedUrl? ⟨above, label, key, .leaf fragment⟩) := by
  have hleaf := reports_compile (Formatter.ofTemplate c.format (above ++ fragment))
  simp only [Formatter.isConstant, Bool.and_eq_true, beq_iff_eq, List.isEmpty_iff,
    PathTemplate.parameterCount, List.length_eq_zero_iff, and_assoc] at hleaf
  rw [Route.ofTemplate_eq]
  exact hleaf

theorem findSome?_cons (v : Visit) (rest : List Visit) :
    (v :: rest).findSome? c.defect? = (c.defect? v).or (rest.findSome? c.defect?) := by
  rw [List.findSome?_cons]
  cases c.defect? v <;> rfl

theorem reports_table (above label : Text) (key : Option Text) (base : Text)
    (children : List (Text × Node)) {entries : Except RouteError (List (Text × Entry))}
    {e? : Option RouteError} (hentries : Outcome.Reports entries e?) :
    Outcome.Reports (c.table (above ++ base) entries)
      ((c.refusedUrl? ⟨above, label, key, .branch base children⟩).or e?) :=
  (c.reports_ofBase above label key base children).bind fun root _ =>
    hentries.map fun rest => (⟨c.baseKey, (c.baseKey, .route root) :: rest⟩ : Table)

mutual
theorem reports_compileNode (above label key : Text) (key? : Option Text) (n : Node) :
    Outcome.Reports (c.compileNode above label key n)
      (((c.missingSlash? ⟨above, label, key?, n⟩).or (c.refusedUrl? ⟨above, label, key?, n⟩)).or
        ((n.visitsBelow above key).findSome? c.defect?)) := by
  cases n with
  | leaf fragment =>
      have hslash := c.reports_checkSlash ⟨above, label, key?, .leaf fragment⟩
      have hroute := c.reports_ofTemplate above label key? fragment
      rw [Node.visitsBelow, List.findSome?_nil, Option.or_none]
      exact hslash.bind fun _ _ => hroute.map Entry.route
  | branch base children =>
      have hslash := c.reports_checkSlash ⟨above, label, key?, .branch base children⟩
      have htable := c.reports_table above label key? base children
        (reports_compileChildren (above ++ base) key children)
      rw [Option.or_assoc, compileNode]
      exact hslash.bind fun _ _ => htable.map Entry.ofTable

theorem reports_compileChildren (above label : Text) (children : List (Text × Node)) :
    Outcome.Reports (c.compileChildren above label children)
      ((Node.childVisits above label children).findSome? c.defect?) := by
  cases children with
  | nil => exact ⟨[], rfl⟩
  | cons child rest =>
      obtain ⟨key, n⟩ := child
      have hnode := reports_compileNode above label key (some key) n
      have hrest := reports_compileChildren above label rest
      rw [compileChildren, Node.childVisits, findSome?_cons, List.findSome?_append, defect?,
        Option.or_assoc]
      by_cases hkey : key = c.baseKey
      · rw [if_pos hkey, reservedKey?, if_pos (congrArg some hkey), hkey]
        rfl
      · have hkey' : ¬ some key = some c.baseKey := fun h => hkey (Option.some.inj h)
        rw [if_neg hkey, reservedKey?, if_neg hkey', Option.none_or, ← Option.or_assoc]
        exact hnode.bind fun entry _ => hrest.map ((key, entry) :: ·)
end

end Compiler

theorem UrlRule.ofCheck_eq_error {check : UrlCheck} {e : RouteError} :
    ofCheck check = .error e ↔
      ∃ source, check = .pattern source ∧ Pattern.ofText? source = none ∧
        .badPattern source = e := by
  cases check with
  | off => simp [ofCheck]
  | standard => simp [ofCheck]
  | pattern source => cases hsource : Pattern.ofText? source <;> simp [ofCheck, hsource]

namespace Branch

theorem reports_compile {b : Branch} {options : Options} {c : Compiler}
    (hc : Compiler.ofOptions options = .ok c) :
    Outcome.Reports (b.compile options) (b.visits.findSome? c.defect?) := by
  have hslash := c.reports_checkSlash ⟨[], rootLabel, none, b.toNode⟩
  have htable := c.reports_table [] rootLabel none b.base b.children
    (c.reports_compileChildren b.base rootLabel b.children)
  have hkey : c.reservedKey? ⟨[], rootLabel, none, b.toNode⟩ = none := rfl
  rw [compile, hc, visits, Compiler.findSome?_cons, Compiler.defect?, hkey, Option.none_or,
    Option.or_assoc]
  exact hslash.bind fun _ _ => htable

/-- A tree compiles exactly when no visit meets a defect, and else the first one is reported; but a
pattern that cannot be read is reported before anything else. -/
theorem compile_reports_first_defect (b : Branch) (options : Options) :
    (∃ source, options.format.check = .pattern source ∧ Pattern.ofText? source = none ∧
        b.compile options = .error (.badPattern source)) ∨
      ∃ rule, UrlRule.ofCheck options.format.check = .ok rule ∧
        let c : Compiler := ⟨options.baseKey, options.enforceLeadingSlash,
          options.format.toFormat rule options.prepend⟩
        ((∃ t, b.compile options = .ok t) ↔ ∀ v ∈ b.visits, c.defect? v = none) ∧
          ∀ e, b.compile options = .error e ↔ b.visits.findSome? c.defect? = some e := by
  cases hrule : UrlRule.ofCheck options.format.check with
  | error e =>
      obtain ⟨source, hcheck, hsource, rfl⟩ := UrlRule.ofCheck_eq_error.mp hrule
      refine .inl ⟨source, hcheck, hsource, ?_⟩
      rw [compile, Compiler.ofOptions, Format.ofOptions, hrule]
      rfl
  | ok rule =>
      have hc := Compiler.ofOptions_eq_ok.mpr ⟨rule, hrule, rfl⟩
      have hreports := reports_compile (b := b) hc
      refine .inr ⟨rule, rfl, ?_, fun e => hreports.eq_error_iff⟩
      rw [hreports.exists_eq_ok_iff, List.findSome?_eq_none_iff]

end Branch

end RouteTree
