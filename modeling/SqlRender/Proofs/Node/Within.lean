import SqlRender.Proofs.Draft.Node
import SqlRender.Proofs.Draft.Within
import SqlRender.Proofs.Node.Child

namespace SqlRender

variable {d : Dialect} {E : Error → Prop} {P : Scalar → Prop}

theorem Node.within_operandDrafts {ns : List Node} (h : ∀ n ∈ ns, (n.draft d).Within E P) :
    ∀ a ∈ operandDrafts d ns, a.Within E P := by
  rw [operandDrafts_eq_map, List.forall_mem_map]
  exact fun n hn ↦ (h n hn).operand n.isQuery

theorem Node.within_drafts {ns : List Node} (h : ∀ n ∈ ns, (n.draft d).Within E P) :
    ∀ a ∈ drafts d ns, a.Within E P := by
  rw [drafts_eq_map, List.forall_mem_map]
  exact h

theorem Node.within_memberDrafts {position : Nat} {ns : List Node}
    (h : ∀ n ∈ ns, (n.draft d).Within E P) : ∀ a ∈ memberDrafts d position ns, a.Within E P := by
  induction ns generalizing position with
  | nil =>
    rw [memberDrafts]
    exact nofun
  | cons n rest ih =>
    obtain ⟨hn, hrest⟩ := List.forall_mem_cons.mp h
    rw [memberDrafts, List.forall_mem_cons]
    exact ⟨hn.member position n.isGrouped, ih hrest⟩

theorem OrderItem.within_draft {o : OrderItem} (h : (o.item.draft d).Within E P) :
    (o.draft d).Within E P := by
  obtain ⟨item, direction⟩ := o
  cases direction with
  | none =>
    rw [draft]
    exact (h.operand _).append .empty
  | some direction =>
    rw [draft]
    exact (h.operand _).append (.text _)

theorem Select.within_sourceDraft {aliasName : String} {source : Option Node}
    (halias : ∀ n ∈ source, n.isQuery = true → E (.missingAlias .fromClause))
    (h : ∀ n ∈ source, (n.draft d).Within E P) :
    (sourceDraft d aliasName source).Within E P := by
  cases source with
  | none =>
    rw [sourceDraft]
    exact .empty
  | some n =>
    rw [sourceDraft]
    exact .append (.text _) (.source _ _ (halias n rfl) (h n rfl))

/-- Only a row that is not as wide as the columns ends the rows by itself. -/
theorem Insert.within_rowsDraft {columnNames : List String} (isFirst : Bool)
    {rows : List (List Value)}
    (hcount : ∀ row ∈ rows, row.length ≠ columnNames.length →
      E (.argumentCount columnNames.length row.length .insertRow))
    (h : ∀ row ∈ rows, ∀ v ∈ row, (v.draft d).Within E P) :
    (rowsDraft d columnNames isFirst rows).Within E P := by
  induction rows generalizing isFirst with
  | nil =>
    rw [rowsDraft]
    exact .empty
  | cons row rest ih =>
    obtain ⟨hrow, hrest⟩ := List.forall_mem_cons.mp h
    obtain ⟨hwidth, hwidths⟩ := List.forall_mem_cons.mp hcount
    have hvalues : ∀ a ∈ Value.drafts d row, a.Within E P := by
      rw [Value.drafts_eq_map, List.forall_mem_map]
      exact hrow
    have hseparator : (if isFirst then Draft.empty else .text ", ").Within E P := by
      cases isFirst with
      | true => exact .empty
      | false => exact .text _
    rw [rowsDraft]
    exact Draft.Within.require (fun h ↦ hwidth (by simp_all))
      |>.append hseparator
      |>.append (Draft.Within.join _ hvalues).parenthesized
      |>.append (ih false hwidths hrest)

variable (hfeature : ∀ feature, E (.unsupportedFeature feature d.name))

include hfeature

theorem ConflictAction.within_draft {a : ConflictAction}
    (h : ∀ v ∈ a.value?, (v.draft d).Within E P) : (a.draft d).Within E P := by
  cases a with
  | proposed column =>
    rw [draft]
    refine .append (.text _) (.ofExcept fun e he ↦ ?_)
    unfold Dialect.proposed at he
    split at he
    · cases he
    · cases he
      exact hfeature _
  | set column v =>
    rw [draft]
    exact .append (.text _) (h v rfl)

theorem OnConflict.within_draft {table : String} {c : OnConflict}
    (htarget : E (.missingConflictTarget d.name)) (hassign : E (.noAssignments table))
    (h : ∀ v ∈ c.written.filterMap ConflictAction.value?, (v.draft d).Within E P) :
    (c.draft d table).Within E P := by
  obtain ⟨target, actions, ignore⟩ := c
  have hactions (hignore : ignore = false) :
      ∀ a ∈ ConflictAction.drafts d actions, a.Within E P := by
    subst hignore
    rw [ConflictAction.drafts_eq_map, List.forall_mem_map]
    intro a ha
    exact ConflictAction.within_draft hfeature fun v hv ↦ h v (List.mem_filterMap.mpr ⟨a, ha, hv⟩)
  rw [draft]
  cases ignore with
  | true =>
    split
    · -- What would be written behind the refusal is not known to be within the bounds.
      have hrefused : (Draft.require (!true)
        (.unsupportedFeature .upsertDoNothing d.name)).error = some _ := rfl
      simp only [Draft.append_of_error hrefused]
      exact .fail (hfeature _)
    · exact Draft.Within.text _ |>.append (.names _) |>.append (.text _)
  | false =>
    split
    · exact Draft.Within.require (fun _ ↦ hfeature _)
        |>.append (.require fun _ ↦ hassign)
        |>.append (.text _)
        |>.append (.join _ (hactions rfl))
    · exact Draft.Within.require (fun _ ↦ htarget)
        |>.append (.require fun _ ↦ hassign)
        |>.append (.text _)
        |>.append (.names _)
        |>.append (.text _)
        |>.append (.join _ (hactions rfl))

theorem Join.within_draft {j : Join}
    (halias : j.source.isQuery = true → E (.missingAlias .join))
    (hsource : (j.source.draft d).Within E P) (hon : (j.on.draft d).Within E P) :
    (j.draft d).Within E P := by
  obtain ⟨kind, source, aliasName, on⟩ := j
  rw [draft]
  exact Draft.Within.require (fun _ ↦ hfeature _)
    |>.append (.text _)
    |>.append (.source _ _ halias hsource)
    |>.append (.text _)
    |>.append hon

/-- A selection ends in an error of its own or in one of its parts. -/
theorem Select.within_draft {s : Select} (hfrom : E (.missingFrom d.name))
    (hsource : ∀ n ∈ s.source, n.isQuery = true → E (.missingAlias .fromClause))
    (hjoin : ∀ j ∈ s.joins, j.source.isQuery = true → E (.missingAlias .join))
    (hcount : ∀ k ∈ (Node.select s).counts, Digits.isTooLong k = true → E .longNumber)
    (h : ∀ m ∈ (Node.select s).parts, (m.draft d).Within E P) : (s.draft d).Within E P := by
  obtain ⟨columns, isDistinct, source, sourceAlias, joins, conditions, groups, having, orders,
    limit, offset⟩ := s
  simp only [Node.parts, List.forall_mem_append, List.forall_mem_map, List.forall_mem_flatMap,
    List.forall_mem_cons, List.not_mem_nil, false_implies, implies_true, and_true,
    Option.mem_toList] at h
  obtain ⟨⟨⟨⟨⟨⟨hcolumns, hread⟩, hjoined⟩, hconditions⟩, hgroups⟩, hhaving⟩, horders⟩ := h
  simp only [Node.counts, List.forall_mem_append, Option.mem_toList] at hcount
  have hselected : (if columns.isEmpty then Draft.text "*"
      else Draft.join ", " (Node.operandDrafts d columns)).Within E P := by
    split
    · exact .text _
    · exact .join _ (Node.within_operandDrafts hcolumns)
  have hjoins : ∀ a ∈ Join.drafts d joins, a.Within E P := by
    rw [Join.drafts_eq_map, List.forall_mem_map]
    intro j hj
    exact Join.within_draft hfeature (hjoin j hj) (hjoined j hj).1 (hjoined j hj).2
  have hitems : ∀ a ∈ OrderItem.drafts d orders, a.Within E P := by
    rw [OrderItem.drafts_eq_map, List.forall_mem_map]
    exact fun o ho ↦ OrderItem.within_draft (horders o ho)
  rw [draft]
  exact Draft.Within.require (fun _ ↦ hfrom)
    |>.append (.require fun _ ↦ hfeature _)
    |>.append (.text _)
    |>.append hselected
    |>.append (within_sourceDraft hsource hread)
    |>.append (.sequence hjoins)
    |>.append (.conditions _ (Node.within_drafts hconditions))
    |>.append (.clause _ (Node.within_operandDrafts hgroups))
    |>.append (.conditions _ (Node.within_drafts hhaving))
    |>.append (.clause _ hitems)
    |>.append (.count _ hcount.1)
    |>.append (.count _ hcount.2)

theorem Update.within_draft {s : Update} (htable : E (.missingTable .update))
    (hassign : E (.noAssignments s.table))
    (hvalues : ∀ v ∈ (Node.update s).values, (v.draft d).Within E P)
    (h : ∀ m ∈ (Node.update s).parts, (m.draft d).Within E P) : (s.draft d).Within E P := by
  obtain ⟨table, assignments, conditions, returning, mapper⟩ := s
  have hassignments : ∀ a ∈ Assignment.drafts d assignments, a.Within E P := by
    rw [Assignment.drafts_eq_map, List.forall_mem_map]
    rintro ⟨column, value⟩ ha
    rw [Assignment.draft]
    exact .append (.text _) (hvalues _ (List.mem_map_of_mem ha))
  rw [draft]
  exact Draft.Within.require (fun _ ↦ htable)
    |>.append (.require fun _ ↦ hassign)
    |>.append (.require fun _ ↦ hfeature _)
    |>.append (.text _)
    |>.append (.join _ hassignments)
    |>.append (.conditions _ (Node.within_drafts h))
    |>.append (.returning _)

theorem Delete.within_draft {s : Delete} (htable : E (.missingTable .delete))
    (h : ∀ m ∈ (Node.delete s).parts, (m.draft d).Within E P) : (s.draft d).Within E P := by
  obtain ⟨table, conditions, returning⟩ := s
  rw [draft]
  exact Draft.Within.require (fun _ ↦ htable)
    |>.append (.require fun _ ↦ hfeature _)
    |>.append (.text _)
    |>.append (.conditions _ (Node.within_drafts h))
    |>.append (.returning _)

/-- An insertion ends in an error of its own or in one of its values or its query. -/
theorem Insert.within_draft {s : Insert} (htable : E (.missingTable .insert))
    (hvalues : E (.missingValues s.table))
    (hboth : s.query ≠ none → E .rowsAndQuery)
    (htarget : E (.missingConflictTarget d.name)) (hassign : E (.noAssignments s.table))
    (hcount : ∀ row ∈ s.rows, row.length ≠ s.columnNames.length →
      E (.argumentCount s.columnNames.length row.length .insertRow))
    (h : ∀ v ∈ (Node.insert s).values, (v.draft d).Within E P)
    (hquery : ∀ m ∈ (Node.insert s).parts, (m.draft d).Within E P) :
    (s.draft d).Within E P := by
  obtain ⟨table, columnNames, rows, query, conflict, returning, mapper⟩ := s
  obtain ⟨hrows, hconflict⟩ := List.forall_mem_append.mp h
  have hwritten : (Draft.text " VALUES " ++ rowsDraft d columnNames true rows).Within E P := by
    refine .append (.text _) (within_rowsDraft true hcount fun row hrow v hv ↦ hrows v ?_)
    exact List.mem_flatten.mpr ⟨row, hrow, hv⟩
  have hresolved : (conflictDraft d table conflict).Within E P := by
    cases conflict with
    | none =>
      rw [conflictDraft]
      exact .empty
    | some c =>
      rw [conflictDraft]
      refine OnConflict.within_draft hfeature htarget hassign fun v hv ↦ hconflict v ?_
      simpa using hv
  have hselected : (queryDraft d query).Within E P := by
    cases query with
    | none =>
      rw [queryDraft]
      exact .empty
    | some q =>
      rw [queryDraft]
      exact .append (.text _) (hquery q List.mem_cons_self)
  have hrefused (h : (rows.isEmpty || query.isNone) = false) : query ≠ none := by
    rintro rfl
    rw [Option.isNone_none, Bool.or_true] at h
    cases h
  rw [draft]
  exact Draft.Within.require (fun _ ↦ htable)
    |>.append (.require fun _ ↦ hvalues)
    |>.append (.require fun h ↦ hboth (hrefused h))
    |>.append (.require fun _ ↦ hfeature _)
    |>.append (.require fun _ ↦ hfeature _)
    |>.append (.text _)
    |>.append (.names _)
    |>.append hselected
    |>.append (by split; exacts [.empty, hwritten])
    |>.append hresolved
    |>.append (.returning _)

end SqlRender
