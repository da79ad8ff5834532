import RouteTree.Branch

namespace RouteTree

inductive Node.Built : Node → Prop
  | leaf (fragment : Text) : Built (.leaf fragment)
  | ofBase (base : Text) : Built (Branch.ofBase base).toNode
  | insert {b : Branch} {node : Node} (key : Text) (hbranch : Built b.toNode)
      (hnode : Built node) : Built (b.insert key node).toNode

def Branch.Built (b : Branch) : Prop := b.toNode.Built

namespace Node

theorem Built.children {n : Node} (h : n.Built) {base : Text} {children : List (Text × Node)}
    (hn : n = .branch base children) :
    (Entries.keys children).Nodup ∧
      ∀ key child, Entries.get? key children = some child → child.Built := by
  induction h generalizing base children with
  | leaf fragment => cases hn
  | ofBase base =>
      cases hn
      exact ⟨List.nodup_nil, nofun⟩
  | @insert b node key _ hnode ihbranch _ =>
      cases hn
      obtain ⟨hnodup, hchildren⟩ := ihbranch rfl
      refine ⟨Entries.nodup_keys_insert key node hnodup, ?_⟩
      intro other child hchild
      rw [Branch.insert, Entries.get?_insert] at hchild
      split at hchild
      · cases hchild
        exact hnode
      · exact hchildren other child hchild

end Node

/-- A tree with two levels, in which a leaf takes the place of another. -/
def Branch.twoLevels : Branch :=
  let inner := (Branch.ofBase ['/', 'p']).insert ['G'] (.leaf ['/', ':', 'i', '/', ':', 'i'])
  (((Branch.ofBase ['/', 'a']).insert ['F'] (.leaf ['x'])).insert ['P'] inner.toNode).insert ['F']
    (.leaf ['/', 'f', '?', 'q'])

theorem Branch.twoLevels_built : twoLevels.Built :=
  .insert _ (.insert _ (.insert _ (.ofBase _) (.leaf _)) (.insert _ (.ofBase _) (.leaf _))) (.leaf _)

end RouteTree
