import SqlRender.Proofs.Draft.Succeeds
import SqlRender.Proofs.ModeAgreement
import SqlRender.Proofs.Node.Opening
import SqlRender.Proofs.Registered
import SqlRender.Statement.Select

namespace SqlRender

open Draft

variable {d : Dialect}

theorem Value.succeeds_draft {v : Value} :
    (v.draft d).Succeeds ↔ v.IsBindable ∧ ∀ n ∈ v.node?, (n.draft d).Succeeds := by
  cases v with
  | scalar s => simp [draft, IsBindable, node?, Succeeds]
  | collection kind members =>
    simp only [draft, succeeds_ofMembers, IsBindable, node?, Option.mem_def, reduceCtorEq,
      false_implies, implies_true, and_true]
  | mapping entries =>
    simp only [draft, succeeds_ofMembers, List.forall_mem_map, IsBindable, node?,
      Option.mem_def, reduceCtorEq, false_implies, implies_true, and_true]
  | foreign name => simp only [draft, not_succeeds_fail, IsBindable, false_and]
  | node n =>
    simp only [draft, succeeds_operand, IsBindable, node?, Option.mem_def, Option.some.injEq,
      forall_eq', true_and]

theorem Value.draft_of_isCollection {v : Value} (h : v.isCollection = true) :
    v.draft d = .ofMembers v.members := by
  cases v with
  | collection kind members => rw [draft, Value.members]
  | mapping entries => rw [draft, Value.members]
  | _ => cases h

theorem Draft.succeeds_comparison_of_ofCollection {column operator : String} {op : CompareOp}
    {ifEmpty : Bool} {v : Value}
    (h : Opening.ofComparison d column op v =
      Opening.ofCollection d column operator ifEmpty v) :
    (comparison d column op v (.ofMembers v.members)).Succeeds ↔
      (ofMembers v.members).Succeeds := by
  unfold comparison ofMembers
  rw [h, Opening.ofCollection]
  cases Value.scalarMembers v.members with
  | error e => rfl
  | ok ss => cases ss <;> rfl

/-- What is written in front of an operand fails only where the operand itself does, or where the
operator takes no collection. -/
theorem Draft.succeeds_comparison {column : String} {op : CompareOp} {v : Value} :
    (comparison d column op v (v.draft d)).Succeeds ↔
      (v.isCollection = true → op = .eq ∨ op = .neq) ∧ (v.draft d).Succeeds := by
  cases hv : v.isCollection with
  | false =>
    obtain ⟨operator, hasOperand, hopening, -, hoperand⟩ :=
      Opening.ofComparison_of_not_isCollection (d := d) hv column op
    simp only [comparison, hopening, succeeds_append, succeeds_text, true_and,
      Bool.false_eq_true, false_implies]
    rcases hoperand with rfl | rfl
    · rfl
    · cases hasOperand <;> rfl
  | true =>
    have hopening := Opening.ofComparison_of_isCollection (d := d) hv column op
    rw [Value.draft_of_isCollection hv]
    cases op with
    | eq => simp only [succeeds_comparison_of_ofCollection hopening, true_or, implies_true,
        true_and]
    | neq => simp only [succeeds_comparison_of_ofCollection hopening, or_true, implies_true,
        true_and]
    | _ => simp only [comparison, hopening, not_succeeds_fail, reduceCtorEq, or_self,
        imp_false, not_true_eq_false, false_and]

theorem Join.succeeds_draft {j : Join} :
    (j.draft d).Succeeds ↔
      j.IsAdmissible d ∧ (j.source.draft d).Succeeds ∧ (j.on.draft d).Succeeds := by
  obtain ⟨kind, source, aliasName, on⟩ := j
  have hfull : (kind ≠ .full || d.capabilities.fullJoin) = true ↔
      (kind = .full → d.capabilities.fullJoin = true) := by
    cases kind <;> simp
  simp only [draft, succeeds_append, succeeds_require, hfull, succeeds_text, succeeds_source,
    and_true]
  constructor
  · rintro ⟨⟨hkind, haliased, hsource⟩, hon⟩
    exact ⟨⟨hkind, haliased⟩, hsource, hon⟩
  · rintro ⟨⟨hkind, haliased⟩, hsource, hon⟩
    exact ⟨⟨hkind, haliased, hsource⟩, hon⟩

theorem Select.succeeds_sourceDraft {aliasName : String} {source : Option Node} :
    (sourceDraft d aliasName source).Succeeds ↔
      ∀ n ∈ source, (n.isQuery = true → aliasName ≠ "") ∧ (n.draft d).Succeeds := by
  cases source with
  | none => simp only [sourceDraft, succeeds_empty, Option.not_mem_none, false_implies,
      implies_true]
  | some n => simp only [sourceDraft, succeeds_append, succeeds_text, succeeds_source,
      true_and, Option.mem_def, Option.some.injEq, forall_eq']

theorem OrderItem.succeeds_draft {o : OrderItem} :
    (o.draft d).Succeeds ↔ (o.item.draft d).Succeeds := by
  obtain ⟨item, direction⟩ := o
  cases direction <;>
    simp only [draft, succeeds_append, succeeds_operand, succeeds_empty, succeeds_text,
      and_true]

theorem Select.succeeds_draft {s : Select} :
    (s.draft d).Succeeds ↔
      s.IsAdmissible d ∧ (∀ k ∈ (Node.select s).counts, k < 10 ^ Digits.longest) ∧
        ∀ m ∈ (Node.select s).parts, (m.draft d).Succeeds := by
  obtain ⟨columns, isDistinct, source, sourceAlias, joins, conditions, groups, having, orders,
    limit, offset⟩ := s
  have hnone : (source.isSome || d.capabilities.sourcelessSelect) = true ↔
      (source = none → d.capabilities.sourcelessSelect = true) := by
    cases source <;> simp
  have hoffset : (offset.isNone || limit.isSome || d.capabilities.offsetWithoutLimit) = true ↔
      (offset ≠ none → limit = none → d.capabilities.offsetWithoutLimit = true) := by
    cases offset <;> cases limit <;> simp
  have hcolumns : (if columns.isEmpty then Draft.text "*"
      else .join ", " (columns.map fun n ↦ operand n.isQuery (n.draft d))).Succeeds ↔
        ∀ m ∈ columns, (m.draft d).Succeeds := by
    cases columns with
    | nil => simp
    | cons n rest => simp
  simp only [draft, succeeds_append, succeeds_require, hnone, hoffset, succeeds_text, hcolumns,
    succeeds_sourceDraft, succeeds_sequence, succeeds_conditions, succeeds_clause,
    succeeds_count, Join.drafts_eq_map, Node.drafts_eq_map, Node.operandDrafts_eq_map,
    OrderItem.drafts_eq_map, List.forall_mem_map, Join.succeeds_draft,
    OrderItem.succeeds_draft, succeeds_operand, Node.counts, Node.parts, List.forall_mem_append,
    Option.mem_toList, List.forall_mem_flatMap, List.forall_mem_cons, List.not_mem_nil,
    false_implies, implies_true, and_true]
  constructor
  · rintro ⟨⟨⟨⟨⟨⟨⟨⟨⟨⟨hnone, hoffset⟩, hcolumns⟩, hsource⟩, hjoins⟩, hconditions⟩, hgroups⟩,
      hhaving⟩, horders⟩, hfirst⟩, hskipped⟩
    have hadmissible : IsAdmissible d ⟨columns, isDistinct, source, sourceAlias, joins,
        conditions, groups, having, orders, limit, offset⟩ :=
      ⟨hnone, hoffset, fun n hn ↦ (hsource n hn).1, fun j hj ↦ (hjoins j hj).1⟩
    exact ⟨hadmissible, ⟨hfirst, hskipped⟩, ⟨⟨⟨⟨⟨hcolumns, fun n hn ↦ (hsource n hn).2⟩,
      fun j hj ↦ (hjoins j hj).2⟩, hconditions⟩, hgroups⟩, hhaving⟩, horders⟩
  · rintro ⟨⟨hnone, hoffset, haliased, hjoin⟩, ⟨hfirst, hskipped⟩, ⟨⟨⟨⟨⟨hcolumns, hsource⟩,
      hjoins⟩, hconditions⟩, hgroups⟩, hhaving⟩, horders⟩
    exact ⟨⟨⟨⟨⟨⟨⟨⟨⟨⟨hnone, hoffset⟩, hcolumns⟩, fun n hn ↦ ⟨haliased n hn, hsource n hn⟩⟩,
      fun j hj ↦ ⟨hjoin j hj, hjoins j hj⟩⟩, hconditions⟩, hgroups⟩, hhaving⟩, horders⟩,
      hfirst⟩, hskipped⟩

theorem Node.succeeds_memberDrafts {position : Nat} {ns : List Node} :
    (∀ a ∈ memberDrafts d position ns, a.Succeeds) ↔ ∀ n ∈ ns, (n.draft d).Succeeds := by
  induction ns generalizing position with
  | nil => simp only [memberDrafts, List.not_mem_nil, false_implies, implies_true]
  | cons n rest ih => simp only [memberDrafts, List.forall_mem_cons, succeeds_member, ih]

theorem Assignment.succeeds_draft {a : Assignment} :
    (a.draft d).Succeeds ↔ (a.value.draft d).Succeeds := by
  obtain ⟨column, value⟩ := a
  simp only [draft, succeeds_append, succeeds_text, true_and]

theorem Update.succeeds_draft {s : Update} :
    (s.draft d).Succeeds ↔
      s.IsAdmissible d ∧ (∀ v ∈ (Node.update s).values, (v.draft d).Succeeds) ∧
        ∀ m ∈ (Node.update s).parts, (m.draft d).Succeeds := by
  obtain ⟨table, assignments, conditions, returning, mapper⟩ := s
  simp only [draft, succeeds_append, succeeds_require, succeeds_requireReturning,
    succeeds_text, succeeds_join, succeeds_conditions, succeeds_returning,
    Assignment.drafts_eq_map, Node.drafts_eq_map, List.forall_mem_map,
    Assignment.succeeds_draft, Node.values, Node.parts, decide_eq_true_eq, Bool.not_eq_true',
    List.isEmpty_eq_false_iff, and_true]
  constructor
  · rintro ⟨⟨⟨⟨htable, hne⟩, hreturning⟩, hvalues⟩, hconditions⟩
    exact ⟨⟨htable, hne, hreturning⟩, hvalues, hconditions⟩
  · rintro ⟨⟨htable, hne, hreturning⟩, hvalues, hconditions⟩
    exact ⟨⟨⟨⟨htable, hne⟩, hreturning⟩, hvalues⟩, hconditions⟩

theorem Delete.succeeds_draft {s : Delete} :
    (s.draft d).Succeeds ↔
      s.IsAdmissible d ∧ ∀ m ∈ (Node.delete s).parts, (m.draft d).Succeeds := by
  obtain ⟨table, conditions, returning⟩ := s
  simp only [draft, succeeds_append, succeeds_require, succeeds_requireReturning,
    succeeds_text, succeeds_conditions, succeeds_returning, Node.drafts_eq_map,
    List.forall_mem_map, Node.parts, decide_eq_true_eq, and_true]
  constructor
  · rintro ⟨⟨htable, hreturning⟩, hconditions⟩
    exact ⟨⟨htable, hreturning⟩, hconditions⟩
  · rintro ⟨⟨htable, hreturning⟩, hconditions⟩
    exact ⟨⟨htable, hreturning⟩, hconditions⟩

theorem ConflictAction.succeeds_draft (hproposed : d.proposedQuotes.isSome = true)
    {a : ConflictAction} :
    (a.draft d).Succeeds ↔ ∀ v ∈ a.value?, (v.draft d).Succeeds := by
  cases a with
  | proposed column =>
    obtain ⟨⟨before, behind⟩, hquotes⟩ := Option.isSome_iff_exists.mp hproposed
    simp only [draft, Dialect.proposed, hquotes, value?, Option.not_mem_none, false_implies,
      implies_true, iff_true]
    rfl
  | set column v => simp only [draft, succeeds_append, succeeds_text, true_and, value?,
      Option.mem_def, Option.some.injEq, forall_eq']

theorem OnConflict.succeeds_draft (hproposed : d.proposedQuotes.isSome = true)
    (hupsert : d.capabilities.upsert = true) {table : String} {c : OnConflict} :
    (c.draft d table).Succeeds ↔
      c.IsAdmissible d ∧
        ∀ v ∈ c.written.filterMap ConflictAction.value?, (v.draft d).Succeeds := by
  obtain ⟨target, actions, ignore⟩ := c
  have hactions : (∀ a ∈ ConflictAction.drafts d actions, a.Succeeds) ↔
      ∀ v ∈ actions.filterMap ConflictAction.value?, (v.draft d).Succeeds := by
    simp only [ConflictAction.drafts_eq_map, List.forall_mem_map,
      ConflictAction.succeeds_draft hproposed, List.mem_filterMap, forall_exists_index,
      and_imp, Option.mem_def]
    exact ⟨fun h v a ha ↦ h a ha v, fun h a ha v ↦ h v a ha⟩
  unfold draft
  cases hstyle : d.capabilities.upsertStyle with
  | none => simp [Capabilities.upsert, hstyle] at hupsert
  | some style =>
    cases style with
    | onDuplicateKey =>
      cases ignore with
      | true => simp [IsAdmissible, hstyle]
      | false => simp [IsAdmissible, hstyle, written, hactions]
    | onConflict =>
      cases ignore with
      | true => simp [IsAdmissible, hstyle, written]
      | false => simp [IsAdmissible, hstyle, written, hactions, and_assoc]

theorem Insert.succeeds_rowsDraft {columnNames : List String} {isFirst : Bool}
    {rows : List (List Value)} :
    (rowsDraft d columnNames isFirst rows).Succeeds ↔
      (columnNames ≠ [] → ∀ row ∈ rows, row.length = columnNames.length) ∧
        ∀ row ∈ rows, ∀ v ∈ row, (v.draft d).Succeeds := by
  induction rows generalizing isFirst with
  | nil => simp only [rowsDraft, succeeds_empty, List.not_mem_nil, false_implies, implies_true,
      and_true]
  | cons row rest ih =>
    have hseparator : (if isFirst then Draft.empty else .text ", ").Succeeds := by
      cases isFirst <;> rfl
    simp only [rowsDraft, succeeds_append, succeeds_require, hseparator,
      succeeds_parenthesized, succeeds_join, ih, Value.drafts_eq_map, List.forall_mem_map,
      List.forall_mem_cons, Bool.or_eq_true, List.isEmpty_iff, decide_eq_true_eq, and_true]
    constructor
    · rintro ⟨⟨hwidth, hrow⟩, hwidths, hrest⟩
      exact ⟨fun h ↦ ⟨hwidth.resolve_left h, hwidths h⟩, hrow, hrest⟩
    · rintro ⟨hwidths, hrow, hrest⟩
      refine ⟨⟨?_, hrow⟩, fun h ↦ (hwidths h).2, hrest⟩
      exact Decidable.or_iff_not_imp_left.mpr fun h ↦ (hwidths h).1

theorem Insert.succeeds_queryDraft {query : Option Node} :
    (queryDraft d query).Succeeds ↔ ∀ n ∈ query, (n.draft d).Succeeds := by
  cases query with
  | none => simp only [queryDraft, succeeds_empty, Option.not_mem_none, false_implies,
      implies_true]
  | some n => simp only [queryDraft, succeeds_append, succeeds_text, true_and,
      Option.mem_def, Option.some.injEq, forall_eq']

/-- Rows are written, and checked, where there is no query. -/
theorem Insert.succeeds_rows {columnNames : List String} {rows : List (List Value)}
    {query : Option Node} :
    (!rows.isEmpty || query.isSome) = true ∧ (rows.isEmpty || query.isNone) = true ∧
        (if query.isSome then Draft.empty
          else .text " VALUES " ++ rowsDraft d columnNames true rows).Succeeds ↔
      (rows ≠ [] ↔ query = none) ∧
        (columnNames ≠ [] → ∀ row ∈ rows, row.length = columnNames.length) ∧
        ∀ row ∈ rows, ∀ v ∈ row, (v.draft d).Succeeds := by
  cases query with
  | none =>
    simp only [Option.isSome_none, Option.isNone_none, Bool.or_false, Bool.or_true, true_and,
      Bool.false_eq_true, ↓reduceIte, succeeds_append, succeeds_text, succeeds_rowsDraft,
      Bool.not_eq_true', List.isEmpty_eq_false_iff, iff_true]
  | some n => cases rows <;> simp

variable (hupsert : d.capabilities.upsert = true → d.proposedQuotes.isSome = true)

include hupsert

theorem Insert.succeeds_conflictDraft (table : String) (conflict : Option OnConflict) :
    (conflict.isNone || d.capabilities.upsert) = true ∧
        (conflictDraft d table conflict).Succeeds ↔
      ∀ c ∈ conflict, c.IsAdmissible d ∧
        ∀ v ∈ c.written.filterMap ConflictAction.value?, (v.draft d).Succeeds := by
  cases conflict with
  | none => simp only [Option.isNone_none, Bool.true_or, conflictDraft, succeeds_empty,
      and_self, Option.not_mem_none, false_implies, implies_true]
  | some c =>
    simp only [Option.isNone_some, Bool.false_or, conflictDraft, Option.mem_def,
      Option.some.injEq, forall_eq']
    cases hstyle : d.capabilities.upsert with
    | false =>
      have hnone : d.capabilities.upsertStyle = none := by
        simpa [Capabilities.upsert] using hstyle
      simp only [Bool.false_eq_true, false_and, OnConflict.IsAdmissible, hnone]
    | true => rw [OnConflict.succeeds_draft (hupsert hstyle) hstyle, eq_self, true_and]

theorem Insert.succeeds_draft {s : Insert} :
    (s.draft d).Succeeds ↔
      s.IsAdmissible d ∧ (∀ v ∈ (Node.insert s).values, (v.draft d).Succeeds) ∧
        ∀ m ∈ (Node.insert s).parts, (m.draft d).Succeeds := by
  obtain ⟨table, columnNames, rows, query, conflict, returning, mapper⟩ := s
  have hconflict := succeeds_conflictDraft hupsert table conflict
  simp only [draft, succeeds_append, succeeds_require, succeeds_requireReturning,
    succeeds_text, succeeds_names, succeeds_returning, succeeds_queryDraft, Node.values,
    Node.parts, List.forall_mem_append, List.forall_mem_flatten, List.forall_mem_flatMap,
    Option.mem_toList, decide_eq_true_eq, and_true]
  constructor
  · rintro ⟨⟨⟨⟨⟨⟨⟨htable, hvalues⟩, hboth⟩, hstyle⟩, hreturning⟩, hquery⟩, hwritten⟩, hdraft⟩
    obtain ⟨hrows, hwidths, hrow⟩ := succeeds_rows.mp ⟨hvalues, hboth, hwritten⟩
    have hclause := hconflict.mp ⟨hstyle, hdraft⟩
    exact ⟨⟨htable, hrows, hwidths, fun c hc ↦ (hclause c hc).1, hreturning⟩,
      ⟨hrow, fun c hc ↦ (hclause c hc).2⟩, hquery⟩
  · rintro ⟨⟨htable, hrows, hwidths, hadmissible, hreturning⟩, ⟨hrow, hactions⟩, hquery⟩
    obtain ⟨hvalues, hboth, hwritten⟩ := succeeds_rows.mpr ⟨hrows, hwidths, hrow⟩
    obtain ⟨hstyle, hdraft⟩ := hconflict.mpr fun c hc ↦ ⟨hadmissible c hc, hactions c hc⟩
    exact ⟨⟨⟨⟨⟨⟨⟨htable, hvalues⟩, hboth⟩, hstyle⟩, hreturning⟩, hquery⟩, hwritten⟩, hdraft⟩

/-- What a node needs to be written: its own conditions, and all that stands in it. -/
theorem Node.succeeds_draft {n : Node} :
    (n.draft d).Succeeds ↔
      n.IsAdmissible d ∧ (∀ k ∈ n.counts, k < 10 ^ Digits.longest) ∧
        (∀ v ∈ n.values, (v.draft d).Succeeds) ∧ ∀ m ∈ n.parts, (m.draft d).Succeeds := by
  cases n with
  | verbatim sql => simp [draft, IsAdmissible, counts, values, parts]
  | template sql args =>
    simp only [draft, succeeds_template, Value.drafts_eq_map, List.forall_mem_map,
      IsAdmissible, List.length_map, counts, values, parts, List.not_mem_nil, false_implies,
      implies_true, true_and, and_true]
  | ident name => simp [draft, IsAdmissible, counts, values, parts]
  | compare column op v =>
    simp only [draft, succeeds_comparison, IsAdmissible, counts, values, List.mem_singleton,
      forall_eq, parts, List.not_mem_nil, false_implies, implies_true, true_and, and_true]
  | combine op items =>
    simp only [draft, succeeds_combination, Node.drafts_eq_map, List.forall_mem_map,
      IsAdmissible, counts, values, parts, List.not_mem_nil, false_implies, implies_true, true_and]
  | aliased source aliasName =>
    simp only [draft, succeeds_source, IsAdmissible, counts, values, parts, List.not_mem_nil,
      false_implies, implies_true, List.mem_singleton, forall_eq, true_and]
  | select s =>
    rw [draft, Select.succeeds_draft]
    simp only [IsAdmissible, values, List.not_mem_nil, false_implies, implies_true, true_and]
  | union kind members =>
    simp only [draft, succeeds_append, succeeds_require, succeeds_join,
      succeeds_memberDrafts, IsAdmissible, counts, values, parts, Bool.not_eq_true',
      List.isEmpty_eq_false_iff, List.not_mem_nil, false_implies, implies_true, true_and]
  | insert s =>
    rw [draft, Insert.succeeds_draft hupsert, IsAdmissible]
    simp only [counts, List.not_mem_nil, false_implies, implies_true, true_and]
  | update s =>
    rw [draft, Update.succeeds_draft, IsAdmissible]
    simp only [counts, List.not_mem_nil, false_implies, implies_true, true_and]
  | delete s =>
    rw [draft, Delete.succeeds_draft]
    simp only [IsAdmissible, counts, values, List.not_mem_nil, false_implies, implies_true,
      true_and]

theorem Node.succeeds_draft_iff_children {n : Node} :
    (n.draft d).Succeeds ↔
      (n.IsAdmissible d ∧ (∀ k ∈ n.counts, k < 10 ^ Digits.longest) ∧
        ∀ v ∈ n.values, v.IsBindable) ∧ ∀ m ∈ n.children, (m.draft d).Succeeds := by
  have hvalues : (∀ v ∈ n.values, (v.draft d).Succeeds) ↔
      (∀ v ∈ n.values, v.IsBindable) ∧
        ∀ m ∈ n.values.filterMap Value.node?, (m.draft d).Succeeds := by
    simp only [Value.succeeds_draft, List.mem_filterMap, forall_exists_index, and_imp]
    constructor
    · intro h
      exact ⟨fun v hv ↦ (h v hv).1, fun m v hv ↦ (h v hv).2 m⟩
    · rintro ⟨hbindable, hnodes⟩ v hv
      exact ⟨hbindable v hv, fun m ↦ hnodes m v hv⟩
  rw [succeeds_draft hupsert, hvalues, children, List.forall_mem_append]
  constructor
  · rintro ⟨hadmissible, hcounts, ⟨hbindable, hnodes⟩, hparts⟩
    exact ⟨⟨hadmissible, hcounts, hbindable⟩, hparts, hnodes⟩
  · rintro ⟨⟨hadmissible, hcounts, hbindable⟩, hparts, hnodes⟩
    exact ⟨hadmissible, hcounts, ⟨hbindable, hnodes⟩, hparts⟩

/-- By induction on the tree: a draft succeeds where all the nodes in it are well formed. -/
theorem Node.succeeds_draft_iff_isWellFormed (n : Node) :
    (n.draft d).Succeeds ↔ n.IsWellFormed d := by
  induction n using induction_on_children with
  | step n ih =>
    rw [succeeds_draft_iff_children hupsert, IsWellFormed, forall_reaches_iff]
    exact and_congr_right fun _ ↦ forall₂_congr ih

omit hupsert

/-- A buffer that binds takes exactly the well-formed trees, whatever stands in it. -/
theorem Node.into_eq_ok_iff_isWellFormed (hd : d ∈ Registry.standard.dialects) {b : Buffer}
    (hb : b.inlining = false) (n : Node) :
    ((n.write d).into b).1 = .ok () ↔ n.IsWellFormed d := by
  rw [← succeeds_draft_iff_isWellFormed (Registry.proposed_isSome_of_upsert d hd),
    into_write_of_binding d n hb, Succeeds]
  cases (n.draft d).error with
  | none => simp only [result]
  | some e => simp only [result, reduceCtorEq]

/-- A limit of 4301 digits is not written, though every node of the tree is in order. What a
mapping holds under its keys is not written either, so nothing there is refused. -/
theorem Node.isAdmissible_of_long_limit :
    let s : Select := { source := some (.ident "t"), limit := some (10 ^ Digits.longest) }
    let memberless : Node := .union .distinct []
    let keyed : Node := .compare "a" .eq (.mapping [(.scalar (.int 1), .node memberless)])
    (Select.apply { source := some (.ident "t") }
          (.limit (.scalar (.int (10 ^ Digits.longest : Nat)))) = .ok s ∧
        (∀ m, (select s).Reaches m → m.IsAdmissible .sqlite ∧ ∀ v ∈ m.values, v.IsBindable) ∧
        (select s).render .sqlite false = .error .longNumber) ∧
      ¬memberless.IsAdmissible .sqlite ∧
      keyed.render .sqlite false = .ok ⟨"\"a\" IN (?)", [.scalar (.int 1)]⟩ := by
  refine ⟨⟨rfl, ?_, ?_⟩, ?_, ?_⟩
  · rw [forall_reaches_iff]
    refine ⟨⟨⟨nofun, nofun, ?_, nofun⟩, nofun⟩, ?_⟩
    · rintro _ ⟨⟩ ⟨⟩
    · rintro _ (_ | ⟨_, ⟨⟩⟩)
      rw [forall_reaches_iff]
      exact ⟨⟨trivial, nofun⟩, nofun⟩
  · -- For any number that is too long, so that no step computes the power.
    have hrefused (n : Nat) (hn : Digits.isTooLong n = true) :
        ((select { source := some (.ident "t"), limit := some n }).draft .sqlite).error =
          some .longNumber := by
      rw [draft, Select.draft, error_append, error_append, error_count_of_isTooLong hn]
      rfl
    rw [render_binding, hrefused _ Digits.isTooLong_pow_longest]
  · exact fun h ↦ h rfl
  · rfl

/-- A query with a condition on a collection, read from another query. -/
theorem Node.isWellFormed_nested_select :
    Node.IsWellFormed .mysql (.select
      { source := some (.select { columns := [.ident "id"], source := some (.ident "t") })
        sourceAlias := "q"
        conditions := [.compare "id" .eq (.collection .list [.scalar (.int 1)])]
        limit := some 1
        offset := some 2 }) := by
  have hd : Dialect.mysql ∈ Registry.standard.dialects := by decide
  have hb : Buffer.inlining { inlining := false } = false := rfl
  refine (into_eq_ok_iff_isWellFormed hd hb _).mp ?_
  rfl

/-- Placeholders can be rendered for exactly the well-formed trees. -/
theorem Node.render_binding_isOk_iff (hd : d ∈ Registry.standard.dialects) (n : Node) :
    (∃ r, n.render d false = .ok r) ↔ n.IsWellFormed d := by
  rw [← succeeds_draft_iff_isWellFormed (Registry.proposed_isSome_of_upsert d hd),
    render_binding, Succeeds]
  cases (n.draft d).error with
  | none => simp only [Except.ok.injEq, exists_eq']
  | some e => simp only [reduceCtorEq, exists_false]

end SqlRender
