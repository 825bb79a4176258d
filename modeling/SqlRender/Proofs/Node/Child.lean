import Mathlib.Logic.Relation
import SqlRender.Node.Basic

namespace SqlRender

def Value.node? : Value → Option Node
  | node n => some n
  | _ => none

def ConflictAction.value? : ConflictAction → Option Value
  | proposed _ => none
  | set _ v => some v

/-- Where nothing is done on a conflict, no action is written. -/
def OnConflict.written (c : OnConflict) : List ConflictAction := if c.ignore then [] else c.actions

namespace Node

/-- The SQL that a node was given as text. -/
def rawText? : Node → Option String
  | verbatim sql => some sql
  | template sql _ => some sql
  | _ => none

/-- The values that a node writes by itself. -/
def values : Node → List Value
  | template _ args => args
  | compare _ _ v => [v]
  | insert s =>
    s.rows.flatten ++ s.conflict.toList.flatMap fun c ↦ c.written.filterMap ConflictAction.value?
  | update s => s.assignments.map Assignment.value
  | _ => []

/-- The nodes that stand in a node other than as its values. -/
def parts : Node → List Node
  | combine _ items => items
  | aliased source _ => [source]
  | select s =>
    s.columns ++ s.source.toList ++ s.joins.flatMap (fun j ↦ [j.source, j.on]) ++ s.conditions
      ++ s.groups ++ s.having ++ s.orders.map OrderItem.item
  | union _ members => members
  | insert s => s.query.toList
  | update s => s.conditions
  | delete s => s.conditions
  | _ => []

def children (n : Node) : List Node := n.parts ++ n.values.filterMap Value.node?

/-- A node reaches itself, its children, their children, and so on. -/
def Reaches : Node → Node → Prop := Relation.ReflTransGen fun n m ↦ m ∈ n.children

theorem forall_reaches_iff {P : Node → Prop} {n : Node} :
    (∀ m, n.Reaches m → P m) ↔ P n ∧ ∀ k ∈ n.children, ∀ m, k.Reaches m → P m := by
  constructor
  · intro h
    exact ⟨h n .refl, fun k hk m hm ↦ h m (.head hk hm)⟩
  · rintro ⟨hn, hchildren⟩ m hm
    rcases Relation.ReflTransGen.cases_head hm with rfl | ⟨k, hk, hkm⟩
    · exact hn
    · exact hchildren k hk m hkm

end Node

theorem Value.sizeOf_lt_of_node? {v : Value} {n : Node} (h : v.node? = some n) :
    sizeOf n < sizeOf v := by
  cases v <;> simp only [Value.node?, reduceCtorEq, Option.some.injEq] at h
  subst h
  simp

namespace Node

theorem sizeOf_lt_of_mem_parts {n m : Node} (h : m ∈ n.parts) : sizeOf m < sizeOf n := by
  cases n with
  | combine op items =>
    simp only [parts] at h
    have := List.sizeOf_lt_of_mem h
    simp only [combine.sizeOf_spec]
    omega
  | aliased source aliasName =>
    simp only [parts, List.mem_singleton] at h
    subst h
    simp only [aliased.sizeOf_spec]
    omega
  | select s =>
    obtain ⟨columns, isDistinct, source, sourceAlias, joins, conditions, groups, having, orders,
      limit, offset⟩ := s
    simp only [parts, List.mem_append, List.mem_flatMap, List.mem_map, Option.mem_toList,
      List.mem_cons, List.not_mem_nil, or_false] at h
    simp only [select.sizeOf_spec, Select.mk.sizeOf_spec]
    rcases h with (((((h | h) | ⟨j, hj, h⟩) | h) | h) | h) | ⟨⟨item, direction⟩, ho, rfl⟩
    · have := List.sizeOf_lt_of_mem h
      omega
    · cases h
      simp only [Option.some.sizeOf_spec]
      omega
    · have := List.sizeOf_lt_of_mem hj
      obtain ⟨kind, source, aliasName, on⟩ := j
      simp only [Join.mk.sizeOf_spec] at this
      rcases h with rfl | rfl <;> omega
    · have := List.sizeOf_lt_of_mem h
      omega
    · have := List.sizeOf_lt_of_mem h
      omega
    · have := List.sizeOf_lt_of_mem h
      omega
    · have := List.sizeOf_lt_of_mem ho
      simp only [OrderItem.mk.sizeOf_spec] at this
      dsimp only
      omega
  | union kind members =>
    simp only [parts] at h
    have := List.sizeOf_lt_of_mem h
    simp only [union.sizeOf_spec]
    omega
  | insert s =>
    obtain ⟨table, columnNames, rows, query, conflict, returning, mapper⟩ := s
    simp only [parts, Option.mem_toList] at h
    subst h
    simp only [insert.sizeOf_spec, Insert.mk.sizeOf_spec, Option.some.sizeOf_spec]
    omega
  | update s =>
    obtain ⟨table, assignments, conditions, returning, mapper⟩ := s
    simp only [parts] at h
    have := List.sizeOf_lt_of_mem h
    simp only [update.sizeOf_spec, Update.mk.sizeOf_spec]
    omega
  | delete s =>
    obtain ⟨table, conditions, returning⟩ := s
    simp only [parts] at h
    have := List.sizeOf_lt_of_mem h
    simp only [delete.sizeOf_spec, Delete.mk.sizeOf_spec]
    omega
  | _ => exact absurd h List.not_mem_nil

theorem sizeOf_lt_of_mem_values {n : Node} {v : Value} (h : v ∈ n.values) :
    sizeOf v < sizeOf n := by
  cases n with
  | template sql args =>
    simp only [values] at h
    have := List.sizeOf_lt_of_mem h
    simp only [template.sizeOf_spec]
    omega
  | compare column op value =>
    simp only [values, List.mem_singleton] at h
    subst h
    simp only [compare.sizeOf_spec]
    omega
  | insert s =>
    obtain ⟨table, columnNames, rows, query, conflict, returning, mapper⟩ := s
    simp only [values, List.mem_append, List.mem_flatten, List.mem_flatMap, Option.mem_toList,
      List.mem_filterMap] at h
    simp only [insert.sizeOf_spec, Insert.mk.sizeOf_spec]
    rcases h with ⟨row, hrow, hv⟩ | ⟨c, hc, a, ha, hv⟩
    · have := List.sizeOf_lt_of_mem hrow
      have := List.sizeOf_lt_of_mem hv
      omega
    · subst hc
      obtain ⟨target, actions, ignore⟩ := c
      have ha' : a ∈ actions := by
        cases ignore
        · exact ha
        · exact absurd ha List.not_mem_nil
      have := List.sizeOf_lt_of_mem ha'
      cases a with
      | proposed column => cases hv
      | set column value =>
        cases hv
        simp only [ConflictAction.set.sizeOf_spec] at this
        simp only [Option.some.sizeOf_spec, OnConflict.mk.sizeOf_spec]
        omega
  | update s =>
    obtain ⟨table, assignments, conditions, returning, mapper⟩ := s
    simp only [values, List.mem_map] at h
    obtain ⟨a, ha, rfl⟩ := h
    have := List.sizeOf_lt_of_mem ha
    obtain ⟨column, value⟩ := a
    simp only [Assignment.mk.sizeOf_spec] at this
    simp only [update.sizeOf_spec, Update.mk.sizeOf_spec]
    omega
  | _ => exact absurd h List.not_mem_nil

theorem sizeOf_lt_of_mem_children {n m : Node} (h : m ∈ n.children) : sizeOf m < sizeOf n := by
  rcases List.mem_append.mp h with h | h
  · exact sizeOf_lt_of_mem_parts h
  · obtain ⟨v, hv, hm⟩ := List.mem_filterMap.mp h
    exact Nat.lt_trans (Value.sizeOf_lt_of_node? hm) (sizeOf_lt_of_mem_values hv)

/-- What holds of a node whenever it holds of all its children holds of every node. -/
theorem induction_on_children {P : Node → Prop} (step : ∀ n, (∀ m ∈ n.children, P m) → P n)
    (n : Node) : P n :=
  step n fun m _ ↦ induction_on_children step m
termination_by sizeOf n
decreasing_by exact sizeOf_lt_of_mem_children ‹_›

end Node

end SqlRender
