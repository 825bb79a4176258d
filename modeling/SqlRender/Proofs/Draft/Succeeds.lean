import SqlRender.Proofs.Digits
import SqlRender.Proofs.Draft.Node
import SqlRender.Proofs.Node.Admissible

namespace SqlRender

theorem Value.drafts_eq_map (d : Dialect) (vs : List Value) :
    Value.drafts d vs = vs.map (Value.draft d) := by
  induction vs with
  | nil => simp only [Value.drafts, List.map_nil]
  | cons v rest ih => simp only [Value.drafts, List.map_cons, ih]

theorem Node.drafts_eq_map (d : Dialect) (ns : List Node) :
    Node.drafts d ns = ns.map (Node.draft d) := by
  induction ns with
  | nil => simp only [Node.drafts, List.map_nil]
  | cons n rest ih => simp only [Node.drafts, List.map_cons, ih]

theorem Node.operandDrafts_eq_map (d : Dialect) (ns : List Node) :
    Node.operandDrafts d ns = ns.map fun n ↦ Draft.operand n.isQuery (n.draft d) := by
  induction ns with
  | nil => simp only [Node.operandDrafts, List.map_nil]
  | cons n rest ih => simp only [Node.operandDrafts, List.map_cons, ih]

theorem Join.drafts_eq_map (d : Dialect) (js : List Join) :
    Join.drafts d js = js.map (Join.draft d) := by
  induction js with
  | nil => simp only [Join.drafts, List.map_nil]
  | cons j rest ih => simp only [Join.drafts, List.map_cons, ih]

theorem OrderItem.drafts_eq_map (d : Dialect) (os : List OrderItem) :
    OrderItem.drafts d os = os.map (OrderItem.draft d) := by
  induction os with
  | nil => simp only [OrderItem.drafts, List.map_nil]
  | cons o rest ih => simp only [OrderItem.drafts, List.map_cons, ih]

theorem ConflictAction.drafts_eq_map (d : Dialect) (as : List ConflictAction) :
    ConflictAction.drafts d as = as.map (ConflictAction.draft d) := by
  induction as with
  | nil => simp only [ConflictAction.drafts, List.map_nil]
  | cons a rest ih => simp only [ConflictAction.drafts, List.map_cons, ih]

theorem Assignment.drafts_eq_map (d : Dialect) (as : List Assignment) :
    Assignment.drafts d as = as.map (Assignment.draft d) := by
  induction as with
  | nil => simp only [Assignment.drafts, List.map_nil]
  | cons a rest ih => simp only [Assignment.drafts, List.map_cons, ih]

theorem Value.eq_map_of_scalarMembers {vs : List Value} {ss : List Scalar}
    (h : scalarMembers vs = .ok ss) : vs = ss.map .scalar := by
  induction vs generalizing ss with
  | nil =>
    cases h
    rfl
  | cons v rest ih =>
    cases v with
    | scalar s =>
      rw [scalarMembers] at h
      cases hrest : scalarMembers rest with
      | error e =>
        rw [hrest] at h
        cases h
      | ok scalars =>
        rw [hrest] at h
        cases h
        exact congrArg (.scalar s :: ·) (ih hrest)
    | _ => cases h

namespace Draft

/-- No error ends the draft. -/
def Succeeds (a : Draft) : Prop := a.error = none

variable {d : Dialect}

@[simp] theorem succeeds_empty : empty.Succeeds := rfl

@[simp] theorem succeeds_text (sql : String) : (text sql).Succeeds := rfl

@[simp] theorem not_succeeds_fail (e : Error) : ¬(fail e).Succeeds := nofun

@[simp] theorem succeeds_append {a b : Draft} :
    (a ++ b).Succeeds ↔ a.Succeeds ∧ b.Succeeds := by
  rw [Succeeds, error_append, Option.or_eq_none_iff]
  rfl

@[simp] theorem succeeds_require {condition : Bool} {e : Error} :
    (require condition e).Succeeds ↔ condition = true := by
  cases condition
  · simp only [require, Bool.false_eq_true, ↓reduceIte, not_succeeds_fail]
  · simp only [require, ↓reduceIte, succeeds_empty]

@[simp] theorem succeeds_parenthesized {a : Draft} :
    a.parenthesized.Succeeds ↔ a.Succeeds := by
  simp only [parenthesized, succeeds_append, succeeds_text, true_and, and_true]

@[simp] theorem succeeds_sequence {as : List Draft} :
    (sequence as).Succeeds ↔ ∀ a ∈ as, a.Succeeds := by
  induction as with
  | nil => simp only [sequence, succeeds_empty, List.not_mem_nil, false_implies, implies_true]
  | cons a rest ih => simp only [sequence, succeeds_append, ih, List.forall_mem_cons]

@[simp] theorem succeeds_join {separator : String} {as : List Draft} :
    (join separator as).Succeeds ↔ ∀ a ∈ as, a.Succeeds := by
  induction as with
  | nil => simp only [join, succeeds_empty, List.not_mem_nil, false_implies, implies_true]
  | cons a rest ih =>
    cases rest with
    | nil => simp only [join, List.mem_singleton, forall_eq]
    | cons b rest =>
      simp only [join, succeeds_append, succeeds_text, and_true, ih, List.forall_mem_cons]

@[simp] theorem succeeds_operand {isQuery : Bool} {a : Draft} :
    (operand isQuery a).Succeeds ↔ a.Succeeds := by
  cases isQuery
  · rfl
  · exact succeeds_parenthesized

theorem succeeds_filled {args : List Draft} {segments : List String}
    (h : segments.length = args.length) :
    (∀ a ∈ List.zipWith (fun arg segment ↦ arg ++ text segment) args segments, a.Succeeds) ↔
      ∀ a ∈ args, a.Succeeds := by
  induction args generalizing segments with
  | nil => simp only [List.zipWith_nil_left]
  | cons a rest ih =>
    cases segments with
    | nil => exact absurd h.symm (Nat.succ_ne_zero _)
    | cons segment segments =>
      rw [List.zipWith_cons_cons, List.forall_mem_cons, List.forall_mem_cons, succeeds_append,
        ih (Nat.succ.inj h), and_iff_left (succeeds_text segment)]

@[simp] theorem succeeds_template {sql : String} {args : List Draft} :
    (template d sql args).Succeeds ↔
      Template.markers d.capabilities.backslashEscapes sql = args.length ∧
        ∀ a ∈ args, a.Succeeds := by
  have hlength := Template.length_segments d.capabilities.backslashEscapes sql
  unfold template
  cases hs : Template.segments d.capabilities.backslashEscapes sql with
  | nil =>
    have hne := Template.segmentsFrom_ne_nil d.capabilities.backslashEscapes .normal sql.toList
    exact absurd (List.map_eq_nil_iff.mp hs) hne
  | cons first rest =>
    rw [hs, List.length_cons, Nat.add_right_cancel_iff] at hlength
    simp only [succeeds_append, succeeds_require, decide_eq_true_eq, succeeds_text,
      and_true, succeeds_sequence, hlength]
    exact and_congr_right fun h ↦ succeeds_filled (hlength.trans h)

@[simp] theorem succeeds_combination {op : BoolOp} {items : List Draft} :
    (combination d op items).Succeeds ↔ ∀ a ∈ items, a.Succeeds := by
  cases items with
  | nil => simp only [combination, List.isEmpty_nil, ↓reduceIte, succeeds_text,
      List.not_mem_nil, false_implies, implies_true]
  | cons a rest => simp only [combination, List.isEmpty_cons, Bool.false_eq_true, ↓reduceIte,
      succeeds_join, List.forall_mem_map, succeeds_parenthesized]

@[simp] theorem succeeds_conditions {keyword : String} {items : List Draft} :
    (conditions keyword items).Succeeds ↔ ∀ a ∈ items, a.Succeeds := by
  cases items with
  | nil => simp only [conditions, List.isEmpty_nil, ↓reduceIte, succeeds_empty,
      List.not_mem_nil, false_implies, implies_true]
  | cons a rest => simp only [conditions, List.isEmpty_cons, Bool.false_eq_true, ↓reduceIte,
      succeeds_append, succeeds_text, true_and, succeeds_join, List.forall_mem_map,
      succeeds_parenthesized]

@[simp] theorem succeeds_clause {keyword : String} {items : List Draft} :
    (clause keyword items).Succeeds ↔ ∀ a ∈ items, a.Succeeds := by
  cases items with
  | nil => simp only [clause, List.isEmpty_nil, ↓reduceIte, succeeds_empty,
      List.not_mem_nil, false_implies, implies_true]
  | cons a rest => simp only [clause, List.isEmpty_cons, Bool.false_eq_true, ↓reduceIte,
      succeeds_append, succeeds_text, true_and, succeeds_join]

@[simp] theorem succeeds_count {keyword : String} {n : Option Nat} :
    (count keyword n).Succeeds ↔ ∀ m ∈ n, m < 10 ^ Digits.longest := by
  cases n with
  | none => simp only [count, succeeds_empty, Option.not_mem_none, false_implies, implies_true]
  | some n => simp only [count, succeeds_append, succeeds_require, succeeds_text, and_true,
      Bool.not_eq_true', Digits.isTooLong_eq_false_iff, Option.mem_def, Option.some.injEq,
      forall_eq']

theorem error_count_of_isTooLong {keyword : String} {n : Nat}
    (h : Digits.isTooLong n = true) : (count keyword (some n)).error = some .longNumber := by
  rw [count, h]
  rfl

@[simp] theorem succeeds_names {columns : List String} : (names d columns).Succeeds := by
  unfold names
  split <;> rfl

@[simp] theorem succeeds_returning {columns : List String} :
    (returning d columns).Succeeds := by
  unfold returning
  split <;> rfl

@[simp] theorem succeeds_aliased {aliasName : String} : (aliased d aliasName).Succeeds := by
  unfold aliased
  split <;> rfl

@[simp] theorem succeeds_source {place : SourcePlace} {isQuery : Bool} {aliasName : String}
    {a : Draft} :
    (source d place isQuery aliasName a).Succeeds ↔
      (isQuery = true → aliasName ≠ "") ∧ a.Succeeds := by
  simp only [source, succeeds_append, succeeds_require, Bool.or_eq_true,
    Bool.not_eq_true', decide_eq_true_eq, succeeds_operand, succeeds_aliased, and_true]
  refine and_congr_left fun _ ↦ ?_
  cases isQuery <;> simp

@[simp] theorem succeeds_member {position : Nat} {isGrouped : Bool} {a : Draft} :
    (member d position isGrouped a).Succeeds ↔ a.Succeeds := by
  unfold member
  split
  · rfl
  · split
    · exact succeeds_parenthesized
    · simp only [succeeds_append, succeeds_text, succeeds_parenthesized, true_and, and_true]

@[simp] theorem succeeds_requireReturning {columns : List String} :
    (requireReturning d columns).Succeeds ↔
      (columns ≠ [] → d.capabilities.returning = true) := by
  cases columns <;> simp [requireReturning]

theorem succeeds_ofMembers {members : List Value} :
    (ofMembers members).Succeeds ↔ ∀ m ∈ members, m.IsScalar := by
  rw [Value.forall_isScalar_iff]
  unfold ofMembers
  constructor
  · intro h
    cases hs : Value.scalarMembers members with
    | error e =>
      rw [hs] at h
      exact absurd h (not_succeeds_fail e)
    | ok ss => exact ⟨ss, Value.eq_map_of_scalarMembers hs⟩
  · rintro ⟨ss, rfl⟩
    rw [Value.scalarMembers_map]
    cases ss <;> rfl

end Draft

end SqlRender
