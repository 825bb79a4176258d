import SqlRender.Proofs.Node.Child

namespace SqlRender

/-- No node in the tree was given as text. -/
def Node.IsRawFree (n : Node) : Prop := ∀ m, n.Reaches m → m.rawText? = none

theorem Node.isRawFree_iff {n : Node} :
    n.IsRawFree ↔ n.rawText? = none ∧ ∀ m ∈ n.children, m.IsRawFree := forall_reaches_iff

theorem Node.isRawFree_ident (name : String) : (ident name).IsRawFree :=
  isRawFree_iff.mpr ⟨rfl, nofun⟩

/-- A node whose values are no nodes has only its parts for children. -/
theorem Node.isRawFree_of_parts {n : Node} (hn : n.rawText? = none)
    (hvalues : ∀ v ∈ n.values, v.node? = none) (hparts : ∀ m ∈ n.parts, m.IsRawFree) :
    n.IsRawFree := by
  refine isRawFree_iff.mpr ⟨hn, ?_⟩
  rw [children, List.forall_mem_append]
  refine ⟨hparts, fun m hm ↦ ?_⟩
  obtain ⟨v, hv, hnode⟩ := List.mem_filterMap.mp hm
  rw [hvalues v hv] at hnode
  cases hnode

theorem Node.isRawFree_compare {column : String} {op : CompareOp} {v : Value}
    (h : ∀ q ∈ v.node?, q.IsRawFree) : (compare column op v).IsRawFree := by
  refine isRawFree_iff.mpr ⟨rfl, fun q hq ↦ ?_⟩
  obtain ⟨v', hv', hnode⟩ := List.mem_filterMap.mp hq
  obtain rfl := List.mem_singleton.mp hv'
  exact h q hnode

end SqlRender
