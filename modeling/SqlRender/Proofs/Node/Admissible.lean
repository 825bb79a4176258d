import Mathlib.Algebra.Group.Nat.Defs
import SqlRender.Dialect.Basic
import SqlRender.Proofs.Node.Child
import SqlRender.Proofs.Scan

namespace SqlRender

namespace Value

def IsScalar : Value → Prop
  | scalar _ => True
  | _ => False

/-- Only a flat collection has a parameter for each of its members. -/
def IsBindable : Value → Prop
  | collection _ members => ∀ m ∈ members, m.IsScalar
  | mapping entries => ∀ e ∈ entries, e.1.IsScalar
  | foreign _ => False
  | _ => True

theorem forall_isScalar_iff {vs : List Value} :
    (∀ v ∈ vs, v.IsScalar) ↔ ∃ ss : List Scalar, vs = ss.map .scalar := by
  constructor
  · intro h
    induction vs with
    | nil => exact ⟨[], rfl⟩
    | cons v rest ih =>
      obtain ⟨hv, hrest⟩ := List.forall_mem_cons.mp h
      obtain ⟨ss, rfl⟩ := ih hrest
      cases v with
      | scalar s => exact ⟨s :: ss, rfl⟩
      | _ => exact hv.elim
  · rintro ⟨ss, rfl⟩ v hv
    obtain ⟨s, -, rfl⟩ := List.mem_map.mp hv
    exact trivial

end Value

variable (d : Dialect)

structure Join.IsAdmissible (j : Join) : Prop where
  full : j.kind = .full → d.capabilities.fullJoin = true
  aliased : j.source.isQuery = true → j.aliasName ≠ ""

structure Select.IsAdmissible (s : Select) : Prop where
  source : s.source = none → d.capabilities.sourcelessSelect = true
  offset : s.offset ≠ none → s.limit = none → d.capabilities.offsetWithoutLimit = true
  aliased : ∀ n ∈ s.source, n.isQuery = true → s.sourceAlias ≠ ""
  joins : ∀ j ∈ s.joins, j.IsAdmissible d

/-- A dialect without upserts admits no conflict clause at all. -/
def OnConflict.IsAdmissible (c : OnConflict) : Prop :=
  match d.capabilities.upsertStyle with
  | none => False
  | some .onDuplicateKey => c.ignore = false ∧ c.actions ≠ []
  | some .onConflict => c.ignore = true ∨ c.target ≠ [] ∧ c.actions ≠ []

structure Insert.IsAdmissible (s : Insert) : Prop where
  table : s.table ≠ ""
  /-- There are either rows or a query. -/
  rows : s.rows ≠ [] ↔ s.query = none
  widths : s.columnNames ≠ [] → ∀ row ∈ s.rows, row.length = s.columnNames.length
  conflict : ∀ c ∈ s.conflict, c.IsAdmissible d
  returning : s.returning ≠ [] → d.capabilities.returning = true

structure Update.IsAdmissible (s : Update) : Prop where
  table : s.table ≠ ""
  assignments : s.assignments ≠ []
  returning : s.returning ≠ [] → d.capabilities.returning = true

structure Delete.IsAdmissible (s : Delete) : Prop where
  table : s.table ≠ ""
  returning : s.returning ≠ [] → d.capabilities.returning = true

namespace Node

/-- The conditions that a node sets by itself, whatever stands in it. -/
def IsAdmissible : Node → Prop
  | template sql args => Template.markers d.capabilities.backslashEscapes sql = args.length
  | compare _ op v => v.isCollection = true → op = .eq ∨ op = .neq
  | aliased source aliasName => source.isQuery = true → aliasName ≠ ""
  | select s => s.IsAdmissible d
  | union _ members => members ≠ []
  | insert s => s.IsAdmissible d
  | update s => s.IsAdmissible d
  | delete s => s.IsAdmissible d
  | _ => True

/-- The counts that a node writes itself. -/
def counts : Node → List Nat
  | select s => s.limit.toList ++ s.offset.toList
  | _ => []

/-- Every node in the tree is admissible, has counts that can be written, and writes only values
that can be bound. -/
def IsWellFormed (n : Node) : Prop :=
  ∀ m, n.Reaches m → m.IsAdmissible d ∧ (∀ k ∈ m.counts, k < 10 ^ Digits.longest) ∧
    ∀ v ∈ m.values, v.IsBindable

end Node

end SqlRender
