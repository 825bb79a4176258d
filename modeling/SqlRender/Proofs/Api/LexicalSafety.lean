import Mathlib
import SqlRender.Proofs.Api.FromJson
import SqlRender.Proofs.LexicalSafety
import SqlRender.Proofs.Node.RawFree

namespace SqlRender

theorem Value.node?_ofJson (j : Json) : (ofJson j).node? = none := by
  cases j <;> rw [ofJson] <;> rfl

theorem Value.IsJson.node?_eq_none {v : Value} (h : v.IsJson) : v.node? = none := by
  obtain ⟨j, rfl⟩ := h
  exact node?_ofJson j

namespace Api

theorem Condition.AllValues.isRawFree {c : Condition} (h : c.AllValues Value.IsJson) :
    c.node.IsRawFree := by
  induction h with
  | compare op column h =>
    rw [Condition.node]
    refine Node.isRawFree_of_parts rfl ?_ nofun
    rintro _ (_ | ⟨_, ⟨⟩⟩)
    exact h.node?_eq_none
  | combine op h ih =>
    rw [Condition.node, Condition.nodes_eq_map]
    exact Node.isRawFree_of_parts rfl nofun (List.forall_mem_map.mpr ih)

/-- What is selected is named, and conditions and rows hold no texts either. -/
theorem StatementRequest.IsJson.isRawFree {r : StatementRequest} (h : r.IsJson) :
    r.node.IsRawFree := by
  cases r with
  | select r =>
    rw [node]
    refine Node.isRawFree_of_parts rfl (List.forall_mem_nil _) ?_
    exact r.forall_parts (fun _ hc ↦ hc.isRawFree) Node.isRawFree_ident h
  | insert r =>
    rw [node]
    refine Node.isRawFree_of_parts rfl ?_ (List.forall_mem_nil _)
    rw [InsertRequest.values_insert, List.forall_mem_flatten]
    exact fun row hrow v hv ↦ (h row hrow v hv).node?_eq_none
  | update r =>
    rw [node]
    refine Node.isRawFree_of_parts rfl ?_ (Condition.forall_nodeList (fun _ hc ↦ hc.isRawFree) h.2)
    simp only [Node.values, UpdateRequest.update, Update.assign, List.nil_append, List.map_map,
      List.forall_mem_map]
    exact fun a ha ↦ (h.1 a ha).node?_eq_none
  | delete r =>
    exact Node.isRawFree_of_parts rfl (List.forall_mem_nil _)
      (Condition.forall_nodeList (fun _ hc ↦ hc.isRawFree) h)

/-- Whatever names a request holds, and whatever values from JSON, its statement is lexically
safe. -/
theorem isSafe_of_render {d : Dialect} (hd : d ∈ Registry.standard.dialects)
    {request : StatementRequest} (hrequest : request.IsJson) {inlining : Bool} {r : Rendered}
    (h : request.node.render d inlining = .ok r) :
    Template.IsSafe d.capabilities.backslashEscapes
      (if inlining = true ∨ d = .postgres then 0 else r.params.length) r.sql := by
  have hraw := hrequest.isRawFree
  refine (Node.isTidy_of_render hd (fun m hm sql hsql ↦ ?_) h).isSafe
  have hnone := hraw m hm
  cases m with
  | verbatim raw => cases hnone
  | template raw args => cases hnone
  | _ => exact absurd hsql List.not_mem_nil

/-- A request whose names and values all try to leave their quotes. -/
theorem isSafe_of_hostile_update :
    Template.IsSafe true 1 "UPDATE \x60t\x60\x60; --\x60 SET \x60a\x60 = ? WHERE (0)" := by
  let request : UpdateRequest :=
    { table := "t\x60; --"
      assignments := [("a", .scalar (.text "'; DROP TABLE t; --"))]
      condition := some (.compare .eq "b" (.collection .list []))
      returning := [] }
  have hd : Dialect.mysql ∈ Registry.standard.dialects := by decide
  have hrequest : (StatementRequest.update request).IsJson := by
    refine ⟨?_, ?_⟩
    · rintro _ (_ | ⟨_, ⟨⟩⟩)
      exact ⟨.text "'; DROP TABLE t; --", by rw [Value.ofJson]⟩
    · rintro _ ⟨⟩
      exact .compare .eq "b" ⟨.array [], by rw [Value.ofJson, Value.ofJson.ofItems]⟩
  have hr : (StatementRequest.update request).node.render .mysql false =
      .ok ⟨"UPDATE \x60t\x60\x60; --\x60 SET \x60a\x60 = ? WHERE (0)",
        [.scalar (.text "'; DROP TABLE t; --")]⟩ := by cbv
  exact isSafe_of_render hd hrequest hr

end Api

end SqlRender
