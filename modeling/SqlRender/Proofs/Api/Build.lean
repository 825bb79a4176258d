import SqlRender.Api.Build

namespace SqlRender

/-- All steps in turn lead from one statement to the other. -/
def Builds {σ α : Type} (apply : σ → α → Except Error σ) (s : σ) (steps : List α) (s' : σ) : Prop :=
  steps.foldlM apply s = .ok s'

namespace Builds

variable {σ α β : Type} {apply : σ → α → Except Error σ} {s s' s'' : σ} {xs ys : List α}

theorem nil : Builds apply s [] s := rfl

theorem cons {a : α} (h : apply s a = .ok s') (hrest : Builds apply s' xs s'') :
    Builds apply s (a :: xs) s'' := by
  rw [Builds, List.foldlM_cons, h]
  exact hrest

theorem append (h : Builds apply s xs s') (h' : Builds apply s' ys s'') :
    Builds apply s (xs ++ ys) s'' := by
  rw [Builds] at h
  rw [Builds, List.foldlM_append, h]
  exact h'

/-- A step for each item, where one step adds one item. -/
theorem map {f : β → α} {g : σ → List β → σ} (hnil : ∀ s, g s [] = s)
    (hcons : ∀ s b bs, ∃ s', apply s (f b) = .ok s' ∧ g s' bs = g s (b :: bs))
    (s : σ) (bs : List β) : Builds apply s (bs.map f) (g s bs) := by
  induction bs generalizing s with
  | nil =>
    rw [hnil]
    exact nil
  | cons b rest ih =>
    obtain ⟨s', hstep, hadd⟩ := hcons s b rest
    rw [← hadd]
    exact cons hstep (ih s')

/-- A step for what is given. -/
theorem option {f : β → α} {g : σ → Option β → σ} (hnone : ∀ s, g s none = s)
    (hsome : ∀ s b, apply s (f b) = .ok (g s (some b))) (s : σ) (o : Option β) :
    Builds apply s (o.map f).toList (g s o) := by
  cases o with
  | none =>
    rw [hnone]
    exact nil
  | some b => exact cons (hsome s b) nil

end Builds

namespace Api

theorem asColumns_named (names : List String) :
    Value.asColumns (named names) = .ok (names.map .ident) := by
  induction names with
  | nil => rfl
  | cons name rest ih =>
    rw [named] at ih
    rw [named, List.map_cons, Value.asColumns, ih]
    rfl

theorem JoinRequest.builds (s : Select) (rs : List JoinRequest) :
    Builds Select.apply s (rs.map step) { s with joins := s.joins ++ rs.map clause } := by
  apply Builds.map (g := fun (s : Select) rs ↦ { s with joins := s.joins ++ rs.map clause })
  · intro s
    cases s
    simp
  · intro s r rest
    refine ⟨{ s with joins := s.joins ++ [r.clause] }, rfl, ?_⟩
    simp

theorem OrderRequest.builds (s : Select) (rs : List OrderRequest) :
    Builds Select.apply s (rs.map step) { s with orders := s.orders ++ rs.map item } := by
  apply Builds.map (g := fun (s : Select) rs ↦ { s with orders := s.orders ++ rs.map item })
  · intro s
    cases s
    simp
  · intro s r rest
    refine ⟨{ s with orders := s.orders ++ [r.item] }, rfl, ?_⟩
    simp

namespace SelectRequest

variable (s : Select)

theorem builds_source (aliasName : String) (table : Option String) :
    Builds Select.apply s
      (table.map fun table ↦ .source (.scalar (.text table)) aliasName).toList
      { s with
        source := (table.map .ident).or s.source
        sourceAlias := if table.isSome then aliasName else s.sourceAlias } := by
  apply Builds.option (g := fun (s : Select) (table : Option String) ↦
    { s with
      source := (table.map .ident).or s.source
      sourceAlias := if table.isSome then aliasName else s.sourceAlias })
  · intro s
    cases s
    rfl
  · exact fun s table ↦ rfl

theorem builds_filter (c : Option Condition) :
    Builds Select.apply s (c.map fun c ↦ .filter (.node c.node) []).toList
      { s with conditions := s.conditions ++ Condition.nodeList c } := by
  apply Builds.option (g := fun (s : Select) c ↦
    { s with conditions := s.conditions ++ Condition.nodeList c })
  · intro s
    cases s
    simp [Condition.nodeList]
  · exact fun s c ↦ rfl

theorem builds_having (c : Option Condition) :
    Builds Select.apply s (c.map fun c ↦ .having (.node c.node) []).toList
      { s with having := s.having ++ Condition.nodeList c } := by
  apply Builds.option (g := fun (s : Select) c ↦
    { s with having := s.having ++ Condition.nodeList c })
  · intro s
    cases s
    simp [Condition.nodeList]
  · exact fun s c ↦ rfl

theorem builds_groups (names : List String) :
    Builds Select.apply s (if names.isEmpty then [] else [.groupBy (named names)])
      { s with groups := s.groups ++ names.map .ident } := by
  cases names with
  | nil =>
    cases s
    simp [Builds.nil]
  | cons name rest =>
    apply Builds.cons ?_ .nil
    rw [Select.apply, asColumns_named]
    rfl

theorem builds_limit (n : Option Nat) :
    Builds Select.apply s (n.map fun n : Nat ↦ .limit (.scalar (.int n))).toList
      { s with limit := n.or s.limit } := by
  apply Builds.option (g := fun (s : Select) n ↦ { s with limit := n.or s.limit })
  · intro s
    cases s
    rfl
  · exact fun s n ↦ rfl

theorem builds_offset (n : Option Nat) :
    Builds Select.apply s (n.map fun n : Nat ↦ .offset (.scalar (.int n))).toList
      { s with offset := n.or s.offset } := by
  apply Builds.option (g := fun (s : Select) n ↦ { s with offset := n.or s.offset })
  · intro s
    cases s
    rfl
  · exact fun s n ↦ rfl

/-- Every step of a request for a selection succeeds. -/
theorem build_eq (r : SelectRequest) : r.build = .ok r.select := by
  obtain ⟨columns, distinct, source, sourceAlias, joins, condition, groups, having, orders, limit,
    offset⟩ := r
  rw [build, Select.ofColumns, asColumns_named]
  show Builds Select.apply { columns := columns.map .ident } _ _
  have hdistinct : Builds Select.apply { columns := columns.map .ident } [.distinct distinct]
      { columns := columns.map .ident, isDistinct := distinct } := .cons rfl .nil
  have hsteps := hdistinct.append (builds_source _ (sourceAlias.getD "") source)
    |>.append (JoinRequest.builds _ joins)
    |>.append (builds_filter _ condition)
    |>.append (builds_groups _ groups)
    |>.append (builds_having _ having)
    |>.append (OrderRequest.builds _ orders)
    |>.append (builds_limit _ limit)
    |>.append (builds_offset _ offset)
  simp only [Option.or_none, List.nil_append] at hsteps
  exact hsteps

end SelectRequest

namespace InsertRequest

theorem builds_rows (s : Insert) (rows : List (List Value)) :
    Builds Insert.apply s (rows.map .values) { s with rows := s.rows ++ rows } := by
  apply Builds.map (g := fun (s : Insert) rows ↦ { s with rows := s.rows ++ rows })
  · intro s
    cases s
    simp
  · intro s row rest
    refine ⟨{ s with rows := s.rows ++ [row] }, rfl, ?_⟩
    simp

theorem builds_conflict {s : Insert} (hs : s.conflict = none) (r : InsertRequest) :
    Builds Insert.apply s r.conflictSteps { s with conflict := r.conflict } := by
  rw [conflictSteps, conflict]
  split
  · have htarget : Builds Insert.apply s [.onConflict (r.conflictTarget.getD [])]
        { s with conflict := some { target := r.conflictTarget.getD [] } } := by
      refine .cons ?_ .nil
      rw [Insert.apply, Insert.withConflict, hs]
      rfl
    refine htarget.append (.cons ?_ .nil)
    cases r.doNothing <;> rfl
  · cases s
    cases hs
    exact .nil

theorem build_eq (r : InsertRequest) : r.build = .ok r.insert := by
  have hcolumns : Builds Insert.apply { table := r.table } [.columns r.columns]
      { table := r.table, columnNames := r.columns } := .cons rfl .nil
  exact hcolumns.append (builds_rows _ r.rows)
    |>.append (builds_conflict rfl r)
    |>.append (.cons rfl .nil)

end InsertRequest

theorem UpdateRequest.build_eq (r : UpdateRequest) : r.build = .ok r.update := by
  obtain ⟨table, assignments, condition, returning⟩ := r
  have hset : Builds Update.apply { table } [.setAll assignments]
      (Update.assign { table } assignments) := .cons rfl .nil
  have hfilter (s : Update) : Builds Update.apply s
      (condition.map fun c ↦ .filter (.node c.node) []).toList
      { s with conditions := s.conditions ++ Condition.nodeList condition } := by
    apply Builds.option (g := fun (s : Update) c ↦
      { s with conditions := s.conditions ++ Condition.nodeList c })
    · intro s
      cases s
      simp [Condition.nodeList]
    · exact fun s c ↦ rfl
  exact hset.append (hfilter _) |>.append (.cons rfl .nil)

theorem DeleteRequest.build_eq (r : DeleteRequest) : r.build = .ok r.delete := by
  obtain ⟨table, condition, returning⟩ := r
  have hfilter (s : Delete) : Builds Delete.apply s
      (condition.map fun c ↦ .filter (.node c.node) []).toList
      { s with conditions := s.conditions ++ Condition.nodeList condition } := by
    apply Builds.option (g := fun (s : Delete) c ↦
      { s with conditions := s.conditions ++ Condition.nodeList c })
    · intro s
      cases s
      simp [Condition.nodeList]
    · exact fun s c ↦ rfl
  exact (hfilter _).append (.cons rfl .nil)

/-- No step of a builder refuses what a request holds. -/
theorem StatementRequest.build_eq (r : StatementRequest) : r.build = .ok r.node := by
  cases r with
  | select r => rw [build, r.build_eq]; rfl
  | insert r => rw [build, r.build_eq]; rfl
  | update r => rw [build, r.build_eq]; rfl
  | delete r => rw [build, r.build_eq]; rfl

end Api

end SqlRender
