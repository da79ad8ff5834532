import RouteTree.Proofs.Defects

namespace RouteTree

theorem Node.base?_eq_some {baseKey : Text} {members : List (Text × Json)} {base : Text} :
    base? baseKey members = some base ↔ Entries.get? baseKey members = some (.string base) := by
  unfold base?
  split <;> simp_all

namespace Json

mutual
/-- No object in the value has two members with one key. -/
def Distinct : Json → Prop
  | .array items => ItemsDistinct items
  | .object members => (Entries.keys members).Nodup ∧ MembersDistinct members
  | _ => True

def ItemsDistinct : List Json → Prop
  | [] => True
  | item :: rest => item.Distinct ∧ ItemsDistinct rest

def MembersDistinct : List (Text × Json) → Prop
  | [] => True
  | (_, value) :: rest => value.Distinct ∧ MembersDistinct rest
end

/-- What is reached through members of objects, but not through bases. -/
inductive Reaches (baseKey : Text) : Json → Json → Prop
  | refl (j : Json) : Reaches baseKey j j
  | member {members : List (Text × Json)} {key : Text} {value j : Json}
      (hmember : (key, value) ∈ members) (hkey : key ≠ baseKey) (hrest : Reaches baseKey value j) :
      Reaches baseKey (.object members) j

structure WellFormed (baseKey : Text) (j : Json) : Prop where
  object : ∃ members, j = .object members
  base : ∀ members, Reaches baseKey j (.object members) →
    ∃ base, Entries.get? baseKey members = some (.string base)
  member : ∀ members, Reaches baseKey j (.object members) → ∀ key value,
    (key, value) ∈ members → key ≠ baseKey →
      (∃ fragment, value = .string fragment) ∨ ∃ members, value = .object members

mutual
/-- The nodes below a value with their keys, each before what is below it. -/
def nodesBelow (baseKey : Text) : Json → List (Text × Json)
  | .object members => memberNodes baseKey members
  | _ => []

def memberNodes (baseKey : Text) : List (Text × Json) → List (Text × Json)
  | [] => []
  | (key, value) :: rest =>
      if key = baseKey then memberNodes baseKey rest
      else (key, value) :: (nodesBelow baseKey value ++ memberNodes baseKey rest)
end

def isLeaf : Json → Bool
  | .string _ => true
  | _ => false

def isBranch (baseKey : Text) : Json → Bool
  | .object members => (Node.base? baseKey members).isSome
  | _ => false

def offends (baseKey : Text) (node : Text × Json) : Bool :=
  !node.2.isLeaf && !node.2.isBranch baseKey

/-- The root cannot be a leaf. -/
def firstOffence? (baseKey : Text) (j : Json) : Option Text :=
  if j.isBranch baseKey then ((j.nodesBelow baseKey).find? (offends baseKey)).map Prod.fst
  else some rootLabel

variable {baseKey : Text}

theorem isBranch_object (members : List (Text × Json)) :
    isBranch baseKey (.object members) = true ↔
      ∃ base, Entries.get? baseKey members = some (.string base) := by
  rw [isBranch, Option.isSome_iff_exists]
  exact exists_congr fun _ => Node.base?_eq_some

theorem not_offends_iff {node : Text × Json} :
    offends baseKey node = false ↔ node.2.isLeaf = true ∨ node.2.isBranch baseKey = true := by
  simp only [offends, Bool.and_eq_false_iff, Bool.not_eq_false']

theorem Reaches.snoc {j value : Json} {members : List (Text × Json)} {key : Text}
    (h : Reaches baseKey j (.object members)) (hmember : (key, value) ∈ members)
    (hkey : key ≠ baseKey) : Reaches baseKey j value := by
  generalize hobject : Json.object members = object at h
  induction h with
  | refl j =>
      subst hobject
      exact .member hmember hkey (.refl value)
  | member hfirst hfirstKey _ ih => exact .member hfirst hfirstKey (ih hobject)

theorem mem_memberNodes {members : List (Text × Json)} {key : Text} {value : Json}
    (hmember : (key, value) ∈ members) (hkey : key ≠ baseKey) :
    (key, value) ∈ memberNodes baseKey members ∧
      ∀ node ∈ nodesBelow baseKey value, node ∈ memberNodes baseKey members := by
  induction members with
  | nil => cases hmember
  | cons member rest ih =>
      obtain ⟨first, firstValue⟩ := member
      rw [memberNodes]
      rcases List.mem_cons.mp hmember with heq | hrest
      · cases heq
        rw [if_neg hkey]
        refine ⟨List.mem_cons_self, ?_⟩
        intro node hnode
        exact List.mem_cons_of_mem _ (List.mem_append_left _ hnode)
      · obtain ⟨hhere, hbelow⟩ := ih hrest
        by_cases hfirst : first = baseKey
        · rw [if_pos hfirst]
          exact ⟨hhere, hbelow⟩
        · rw [if_neg hfirst]
          refine ⟨List.mem_cons_of_mem _ (List.mem_append_right _ hhere), ?_⟩
          intro node hnode
          exact List.mem_cons_of_mem _ (List.mem_append_right _ (hbelow node hnode))

theorem mem_nodesBelow_of_reaches {j k : Json} (h : Reaches baseKey j k) :
    k = j ∨ ∃ key, (key, k) ∈ nodesBelow baseKey j := by
  induction h with
  | refl j => exact .inl rfl
  | @member members key value k hmember hkey _ ih =>
      obtain ⟨hhere, hbelow⟩ := mem_memberNodes hmember hkey
      rcases ih with rfl | ⟨key', hnode⟩
      · exact .inr ⟨key, hhere⟩
      · exact .inr ⟨key', hbelow _ hnode⟩

mutual
theorem exists_parent (j : Json) {node : Text × Json} (h : node ∈ nodesBelow baseKey j) :
    ∃ members, Reaches baseKey j (.object members) ∧ node ∈ members ∧ node.1 ≠ baseKey := by
  cases j with
  | object members =>
      rcases exists_parent_of_member members h with hmember | ⟨member, hmember, hkey, hparent⟩
      · exact ⟨members, .refl _, hmember⟩
      · obtain ⟨members', hreaches, hnode⟩ := hparent
        exact ⟨members', .member hmember hkey hreaches, hnode⟩
  | null => cases h
  | bool b => cases h
  | number n => cases h
  | string s => cases h
  | array items => cases h

theorem exists_parent_of_member (members : List (Text × Json)) {node : Text × Json}
    (h : node ∈ memberNodes baseKey members) :
    (node ∈ members ∧ node.1 ≠ baseKey) ∨
      ∃ member ∈ members, member.1 ≠ baseKey ∧ ∃ members',
        Reaches baseKey member.2 (.object members') ∧ node ∈ members' ∧ node.1 ≠ baseKey := by
  cases members with
  | nil => cases h
  | cons member rest =>
      obtain ⟨key, value⟩ := member
      have hlater : node ∈ memberNodes baseKey rest →
          (node ∈ (key, value) :: rest ∧ node.1 ≠ baseKey) ∨
            ∃ member ∈ (key, value) :: rest, member.1 ≠ baseKey ∧ ∃ members',
              Reaches baseKey member.2 (.object members') ∧ node ∈ members' ∧
                node.1 ≠ baseKey := by
        intro hrest
        rcases exists_parent_of_member rest hrest with ⟨hmem, hkey⟩ | ⟨member, hmem, hparent⟩
        · exact .inl ⟨List.mem_cons_of_mem _ hmem, hkey⟩
        · exact .inr ⟨member, List.mem_cons_of_mem _ hmem, hparent⟩
      rw [memberNodes] at h
      by_cases hkey : key = baseKey
      · rw [if_pos hkey] at h
        exact hlater h
      · rw [if_neg hkey, List.mem_cons, List.mem_append] at h
        rcases h with rfl | hbelow | hrest
        · exact .inl ⟨List.mem_cons_self, hkey⟩
        · exact .inr ⟨(key, value), List.mem_cons_self, hkey, exists_parent value hbelow⟩
        · exact hlater hrest
end

theorem firstOffence?_eq_none {j : Json} :
    j.firstOffence? baseKey = none ↔
      j.isBranch baseKey = true ∧ ∀ node ∈ j.nodesBelow baseKey, offends baseKey node = false := by
  unfold firstOffence?
  split <;> simp_all

theorem wellFormed_iff {j : Json} : j.WellFormed baseKey ↔ j.firstOffence? baseKey = none := by
  rw [firstOffence?_eq_none]
  constructor
  · intro h
    obtain ⟨members, rfl⟩ := h.object
    refine ⟨(isBranch_object members).mpr (h.base members (.refl _)), ?_⟩
    intro node hnode
    obtain ⟨parent, hreaches, hmember, hkey⟩ := exists_parent _ hnode
    obtain ⟨key, value⟩ := node
    rw [not_offends_iff]
    rcases h.member parent hreaches key value hmember hkey with ⟨fragment, rfl⟩ | ⟨members', rfl⟩
    · exact .inl rfl
    · exact .inr ((isBranch_object members').mpr (h.base members' (hreaches.snoc hmember hkey)))
  · intro h
    obtain ⟨hbranch, hbelow⟩ := h
    have hsound : ∀ k, Reaches baseKey j k → k.isLeaf = true ∨ k.isBranch baseKey = true := by
      intro k hreaches
      rcases mem_nodesBelow_of_reaches hreaches with rfl | ⟨key, hnode⟩
      · exact .inr hbranch
      · exact not_offends_iff.mp (hbelow _ hnode)
    refine ⟨?_, ?_, ?_⟩
    · cases j with
      | object members => exact ⟨members, rfl⟩
      | _ => cases hbranch
    · intro members hreaches
      rcases hsound _ hreaches with hleaf | hobject
      · cases hleaf
      · exact (isBranch_object members).mp hobject
    · intro members hreaches key value hmember hkey
      have hvalue := hsound value (hreaches.snoc hmember hkey)
      cases value with
      | string fragment => exact .inl ⟨fragment, rfl⟩
      | object members' => exact .inr ⟨members', rfl⟩
      | _ => simp [isLeaf, isBranch] at hvalue

end Json

mutual
/-- The node has the bases, and the members in the order, that the value says. -/
inductive Node.Reads (baseKey : Text) : Json → Node → Prop
  | leaf (fragment : Text) : Reads baseKey (.string fragment) (.leaf fragment)
  | branch {members : List (Text × Json)} {base : Text} {children : List (Text × Node)}
      (hbase : Entries.get? baseKey members = some (.string base))
      (hchildren :
        Node.ReadsAll baseKey (members.filter fun member => member.1 ≠ baseKey) children) :
      Reads baseKey (.object members) (.branch base children)

inductive Node.ReadsAll (baseKey : Text) : List (Text × Json) → List (Text × Node) → Prop
  | nil : ReadsAll baseKey [] []
  | cons {key : Text} {value : Json} {n : Node} {members : List (Text × Json)}
      {children : List (Text × Node)} (hvalue : Node.Reads baseKey value n)
      (hrest : ReadsAll baseKey members children) :
      ReadsAll baseKey ((key, value) :: members) ((key, n) :: children)
end

namespace Node

variable {baseKey : Text}

def missingBase? (baseKey : Text) (nodes : List (Text × Json)) : Option RouteError :=
  (nodes.find? (Json.offends baseKey)).map fun node => .missingBase node.1

theorem missingBase?_cons (node : Text × Json) (rest : List (Text × Json)) :
    missingBase? baseKey (node :: rest) =
      if Json.offends baseKey node then some (.missingBase node.1)
      else missingBase? baseKey rest := by
  cases hnode : Json.offends baseKey node <;> simp [missingBase?, hnode]

theorem missingBase?_append (nodes rest : List (Text × Json)) :
    missingBase? baseKey (nodes ++ rest) =
      (missingBase? baseKey nodes).or (missingBase? baseKey rest) := by
  rw [missingBase?, List.find?_append]
  cases hnodes : nodes.find? (Json.offends baseKey) <;> simp [missingBase?, hnodes]

mutual
theorem reports_ofJson (label : Text) (j : Json) :
    Outcome.Reports (ofJson baseKey label j)
      (missingBase? baseKey ((label, j) :: j.nodesBelow baseKey)) := by
  cases j with
  | string fragment => exact ⟨.leaf fragment, rfl⟩
  | object members =>
      have hmembers := reports_childrenOfJson members
      rw [missingBase?_cons, ofJson]
      cases hbase : base? baseKey members with
      | none => simp [Json.offends, Json.isLeaf, Json.isBranch, hbase, Outcome.Reports]
      | some base =>
          simp only [Json.offends, Json.isLeaf, Json.isBranch, hbase, Option.isSome_some,
            Bool.not_true, Bool.and_false, Bool.false_eq_true, if_false]
          exact hmembers.map fun children => Node.branch base (Entries.collect children)
  | null => exact rfl
  | bool b => exact rfl
  | number n => exact rfl
  | array items => exact rfl

theorem reports_childrenOfJson (members : List (Text × Json)) :
    Outcome.Reports (childrenOfJson baseKey members)
      (missingBase? baseKey (Json.memberNodes baseKey members)) := by
  cases members with
  | nil => exact ⟨[], rfl⟩
  | cons member rest =>
      obtain ⟨key, value⟩ := member
      have hvalue := reports_ofJson key value
      have hrest := reports_childrenOfJson rest
      rw [childrenOfJson, Json.memberNodes]
      by_cases hkey : key = baseKey
      · rw [if_pos hkey, if_pos hkey]
        exact hrest
      · rw [if_neg hkey, if_neg hkey, ← List.cons_append, missingBase?_append]
        exact hvalue.bind fun n _ => hrest.map ((key, n) :: ·)
end

theorem ReadsAll.keys {members : List (Text × Json)} {children : List (Text × Node)}
    (h : ReadsAll baseKey members children) : Entries.keys children = Entries.keys members := by
  induction children generalizing members with
  | nil =>
      cases h
      rfl
  | cons child rest ih =>
      cases h with
      | cons _ hrest => rw [Entries.keys_cons, Entries.keys_cons, ih hrest]

mutual
theorem reads_ofJson {label : Text} (j : Json) (hdistinct : j.Distinct) {n : Node}
    (h : ofJson baseKey label j = .ok n) : Reads baseKey j n := by
  cases j with
  | string fragment =>
      cases h
      exact .leaf fragment
  | object members =>
      obtain ⟨hnodup, hmembers⟩ := hdistinct
      rw [ofJson] at h
      split at h
      · cases h
      · rename_i base hbase
        simp only [Outcome.bind_eq_ok, Outcome.pure_eq_ok] at h
        obtain ⟨children, hchildren, rfl⟩ := h
        have hreads := readsAll_childrenOfJson members hmembers hchildren
        have hkeys : (Entries.keys children).Nodup := by
          rw [hreads.keys]
          exact hnodup.sublist (List.filter_sublist.map Prod.fst)
        rw [Entries.collect_of_nodup hkeys]
        exact .branch (base?_eq_some.mp hbase) hreads
  | null => cases h
  | bool b => cases h
  | number n => cases h
  | array items => cases h

theorem readsAll_childrenOfJson (members : List (Text × Json))
    (hdistinct : Json.MembersDistinct members) {children : List (Text × Node)}
    (h : childrenOfJson baseKey members = .ok children) :
    ReadsAll baseKey (members.filter fun member => member.1 ≠ baseKey) children := by
  cases members with
  | nil =>
      cases h
      exact .nil
  | cons member rest =>
      obtain ⟨key, value⟩ := member
      obtain ⟨hvalue, hrest⟩ := hdistinct
      rw [childrenOfJson] at h
      by_cases hkey : key = baseKey
      · rw [if_pos hkey] at h
        rw [List.filter_cons_of_neg (by simp [hkey])]
        exact readsAll_childrenOfJson rest hrest h
      · rw [if_neg hkey] at h
        simp only [Outcome.bind_eq_ok, Outcome.pure_eq_ok] at h
        obtain ⟨n, hn, children, hchildren, rfl⟩ := h
        rw [List.filter_cons_of_pos (by simp [hkey])]
        exact .cons (reads_ofJson value hvalue hn) (readsAll_childrenOfJson rest hrest hchildren)
end

mutual
theorem Reads.key_ne {j : Json} {n : Node} (h : Reads baseKey j n) (above key : Text) :
    ∀ v ∈ n.visitsBelow above key, v.key ≠ some baseKey := by
  cases n with
  | leaf fragment => nofun
  | branch base children =>
      cases h with
      | @branch members _ _ _ hchildren =>
          exact ReadsAll.key_ne hchildren (by simp) (above ++ base) key

theorem ReadsAll.key_ne {members : List (Text × Json)} {children : List (Text × Node)}
    (h : ReadsAll baseKey members children) (hkeys : ∀ member ∈ members, member.1 ≠ baseKey)
    (above label : Text) : ∀ v ∈ childVisits above label children, v.key ≠ some baseKey := by
  cases children with
  | nil => nofun
  | cons child rest =>
      cases h with
      | @cons key value n members _ hvalue hrest =>
          rw [List.forall_mem_cons] at hkeys
          intro v hv
          rw [childVisits, List.mem_cons, List.mem_append] at hv
          rcases hv with rfl | hbelow | hlater
          · exact fun heq => hkeys.1 (Option.some.inj heq)
          · exact Reads.key_ne hvalue above key v hbelow
          · exact ReadsAll.key_ne hrest hkeys.2 above label v hlater
end

end Node

namespace Branch

variable {baseKey : Text}

theorem ofJson_eq_ok {j : Json} {b : Branch} :
    ofJson baseKey j = .ok b ↔ Node.ofJson baseKey rootLabel j = .ok b.toNode := by
  obtain ⟨base, children⟩ := b
  rw [ofJson, toNode]
  split <;> simp_all

theorem ofJson_object {members : List (Text × Json)} {base : Text}
    (hbase : Node.base? baseKey members = some base) :
    ofJson baseKey (.object members) =
      (do let children ← Node.childrenOfJson baseKey members
          pure ⟨base, Entries.collect children⟩) := by
  rw [ofJson, Node.ofJson, hbase]
  cases Node.childrenOfJson baseKey members <;> rfl

theorem reports_ofJson (j : Json) :
    Outcome.Reports (ofJson baseKey j) ((j.firstOffence? baseKey).map .missingBase) := by
  cases j with
  | object members =>
      rw [Json.firstOffence?, Json.isBranch]
      cases hbase : Node.base? baseKey members with
      | none =>
          rw [ofJson, Node.ofJson, hbase]
          rfl
      | some base =>
          have hmembers : Outcome.Reports (Node.childrenOfJson baseKey members) _ :=
            Node.reports_childrenOfJson members
          rw [ofJson_object hbase, Option.isSome_some, if_pos rfl, Option.map_map]
          exact hmembers.map fun children => (⟨base, Entries.collect children⟩ : Branch)
  | null => exact rfl
  | bool b => exact rfl
  | number n => exact rfl
  | string s => exact rfl
  | array items => exact rfl

theorem key_of_defect?_eq_reservedKey {c : Compiler} {v : Visit} {key label : Text}
    (h : c.defect? v = some (.reservedKey key label)) : v.key = some c.baseKey := by
  by_contra hkey
  have hslash : c.missingSlash? v ≠ some (.reservedKey key label) := by
    unfold Compiler.missingSlash?
    split <;> simp
  have hurl : c.refusedUrl? v ≠ some (.reservedKey key label) := by
    unfold Compiler.refusedUrl?
    split <;> dsimp only <;> split <;> simp
  rw [Compiler.defect?, Compiler.reservedKey?, if_neg hkey, Option.none_or,
    Option.or_eq_some_iff] at h
  rcases h with h | ⟨-, h⟩
  · exact hslash h
  · exact hurl h

theorem reservedKey_not_reported {j : Json} {b : Branch} (h : Node.Reads baseKey j b.toNode)
    {options : Options} (hbaseKey : options.baseKey = baseKey) (key label : Text) :
    b.compile options ≠ .error (.reservedKey key label) := by
  intro herror
  cases hrule : UrlRule.ofCheck options.format.check with
  | error e =>
      obtain ⟨source, -, -, rfl⟩ := UrlRule.ofCheck_eq_error.mp hrule
      rw [compile, Compiler.ofOptions, Format.ofOptions, hrule] at herror
      cases herror
  | ok rule =>
      have hc := Compiler.ofOptions_eq_ok.mpr ⟨rule, hrule, rfl⟩
      rw [(reports_compile hc).eq_error_iff] at herror
      obtain ⟨v, hv, hdefect⟩ := List.exists_of_findSome?_eq_some herror
      have hkey := key_of_defect?_eq_reservedKey hdefect
      subst hbaseKey
      rcases List.mem_cons.mp hv with rfl | hbelow
      · cases hkey
      · exact h.key_ne [] rootLabel v hbelow hkey

/-- A tree is read exactly from the values that are well formed, and no key in it is reserved. Of
any other value the first node that offends is named. -/
theorem ofJson_accepts_exactly (baseKey : Text) (j : Json) (hdistinct : j.Distinct) :
    ((∃ b, ofJson baseKey j = .ok b) ↔ j.WellFormed baseKey) ∧
      (∀ b, ofJson baseKey j = .ok b → Node.Reads baseKey j b.toNode ∧
        ∀ options : Options, options.baseKey = baseKey → ∀ key label,
          b.compile options ≠ .error (.reservedKey key label)) ∧
      ∀ e, ofJson baseKey j = .error e ↔
        ∃ label, j.firstOffence? baseKey = some label ∧ .missingBase label = e := by
  have hreports : Outcome.Reports (ofJson baseKey j) _ := reports_ofJson j
  refine ⟨?_, ?_, ?_⟩
  · rw [hreports.exists_eq_ok_iff, Option.map_eq_none_iff, Json.wellFormed_iff]
  · intro b hb
    have hreads := Node.reads_ofJson j hdistinct (ofJson_eq_ok.mp hb)
    exact ⟨hreads, fun options hbaseKey => reservedKey_not_reported hreads hbaseKey⟩
  · intro e
    rw [hreports.eq_error_iff, Option.map_eq_some_iff]

def twoLevelJson : Json :=
  .object
    [("home".toList, .string "/".toList), ("$".toList, .string "/app".toList),
      ("user".toList,
        .object [("show".toList, .string "/:id".toList), ("$".toList, .string "/user".toList)])]

theorem ofJson_accepts_exactly_twoLevels :
    twoLevelJson.Distinct ∧
      ofJson "$".toList twoLevelJson = .ok ⟨"/app".toList,
        [("home".toList, .leaf "/".toList),
          ("user".toList, .branch "/user".toList [("show".toList, .leaf "/:id".toList)])]⟩ ∧
      twoLevelJson.WellFormed "$".toList := by
  have hdistinct : twoLevelJson.Distinct := by
    simp [twoLevelJson, Json.Distinct, Json.MembersDistinct, Entries.keys]
  have hread : ofJson "$".toList twoLevelJson = .ok ⟨"/app".toList,
      [("home".toList, .leaf "/".toList),
        ("user".toList, .branch "/user".toList [("show".toList, .leaf "/:id".toList)])]⟩ := rfl
  exact ⟨hdistinct, hread, (ofJson_accepts_exactly _ _ hdistinct).1.mp ⟨_, hread⟩⟩

end Branch

end RouteTree
