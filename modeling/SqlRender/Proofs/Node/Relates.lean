import SqlRender.Proofs.Draft.Congruence

namespace SqlRender

open Draft
open Template (IsPlain)

/-- The texts that a node writes as it was given them. -/
def Node.writtenTexts (d : Dialect) : Node → List String
  | verbatim sql => [sql]
  | template sql _ => Template.segments d.capabilities.backslashEscapes sql
  | _ => []

variable {d : Dialect} {f g : Nat → Scalar → String} {R : Nat → String → String → Prop}

theorem Value.relates_drafts {vs : List Value} (h : ∀ v ∈ vs, (v.draft d).Relates f g R) :
    ∀ a ∈ Value.drafts d vs, a.Relates f g R := by
  rw [Value.drafts_eq_map]
  exact List.forall_mem_map.mpr h

theorem Node.relates_drafts {ns : List Node} (h : ∀ n ∈ ns, (n.draft d).Relates f g R) :
    ∀ a ∈ Node.drafts d ns, a.Relates f g R := by
  rw [Node.drafts_eq_map]
  exact List.forall_mem_map.mpr h

variable (hR : Congruence d f g R)

include hR

theorem Value.relates_draft {v : Value} (h : ∀ n ∈ v.node?, (n.draft d).Relates f g R) :
    (v.draft d).Relates f g R := by
  cases v with
  | scalar s =>
    rw [draft]
    exact relates_bind hR s
  | collection kind members =>
    rw [draft]
    exact relates_ofMembers hR members
  | mapping entries =>
    rw [draft]
    exact relates_ofMembers hR _
  | foreign name =>
    rw [draft]
    exact relates_fail _
  | node n =>
    rw [draft]
    exact relates_operand hR _ (h n rfl)

theorem Join.relates_draft {j : Join} (hsource : (j.source.draft d).Relates f g R)
    (hon : (j.on.draft d).Relates f g R) : (j.draft d).Relates f g R := by
  obtain ⟨kind, source, aliasName, on⟩ := j
  have hkeyword : IsPlain (" " ++ kind.sql ++ " JOIN ") := by cases kind <;> decide
  rw [draft]
  repeat' with_reducible apply relates_append hR
  · exact relates_require hR _ _
  · exact relates_text (hR.plain hkeyword)
  · exact relates_source hR _ _ _ hsource
  · exact relates_text (hR.plain (by decide))
  · exact hon

theorem OrderItem.relates_draft {o : OrderItem} (h : (o.item.draft d).Relates f g R) :
    (o.draft d).Relates f g R := by
  obtain ⟨item, direction⟩ := o
  have hitem := relates_operand hR item.isQuery h
  cases direction with
  | none =>
    rw [draft]
    exact relates_append hR hitem (relates_empty hR)
  | some direction =>
    have hdirection : IsPlain (" " ++ direction.sql) := by cases direction <;> decide
    rw [draft]
    exact relates_append hR hitem (relates_text (hR.plain hdirection))

theorem Node.relates_operandDrafts {ns : List Node}
    (h : ∀ n ∈ ns, (n.draft d).Relates f g R) :
    ∀ a ∈ Node.operandDrafts d ns, a.Relates f g R := by
  rw [Node.operandDrafts_eq_map]
  exact List.forall_mem_map.mpr fun n hn ↦ relates_operand hR _ (h n hn)

theorem Node.relates_memberDrafts {position : Nat} {ns : List Node}
    (h : ∀ n ∈ ns, (n.draft d).Relates f g R) :
    ∀ a ∈ Node.memberDrafts d position ns, a.Relates f g R := by
  induction ns generalizing position with
  | nil =>
    rw [memberDrafts]
    exact fun _ hnot ↦ absurd hnot List.not_mem_nil
  | cons n rest ih =>
    obtain ⟨hn, hrest⟩ := List.forall_mem_cons.mp h
    rw [memberDrafts, List.forall_mem_cons]
    exact ⟨relates_member hR _ _ hn, ih hrest⟩

theorem Select.relates_sourceDraft {aliasName : String} {source : Option Node}
    (h : ∀ n ∈ source, (n.draft d).Relates f g R) :
    (sourceDraft d aliasName source).Relates f g R := by
  cases source with
  | none =>
    rw [sourceDraft]
    exact relates_empty hR
  | some n =>
    have hfrom : IsPlain " FROM " := by decide
    rw [sourceDraft]
    exact relates_append hR (relates_text (hR.plain hfrom)) (relates_source hR _ _ _ (h n rfl))

theorem Select.relates_draft {s : Select}
    (h : ∀ m ∈ (Node.select s).parts, (m.draft d).Relates f g R) :
    (s.draft d).Relates f g R := by
  obtain ⟨columns, isDistinct, source, sourceAlias, joins, conditions, groups, having, orders,
    limit, offset⟩ := s
  simp only [Node.parts, List.forall_mem_append, List.forall_mem_flatMap, List.forall_mem_map,
    List.forall_mem_cons, List.not_mem_nil, false_implies, implies_true, and_true,
    Option.mem_toList] at h
  obtain ⟨⟨⟨⟨⟨⟨hcolumns, hsource⟩, hjoins⟩, hconditions⟩, hgroups⟩, hhaving⟩, horders⟩ := h
  have hselect : IsPlain (if isDistinct then "SELECT DISTINCT " else "SELECT ") := by
    cases isDistinct <;> decide
  rw [draft]
  repeat' with_reducible apply relates_append hR
  · exact relates_require hR _ _
  · exact relates_require hR _ _
  · exact relates_text (hR.plain hselect)
  · split
    · exact relates_text (hR.plain (by decide))
    · exact relates_join hR (by decide) (Node.relates_operandDrafts hR hcolumns)
  · exact relates_sourceDraft hR hsource
  · rw [Join.drafts_eq_map]
    exact relates_sequence hR (List.forall_mem_map.mpr fun j hj ↦
      Join.relates_draft hR (hjoins j hj).1 (hjoins j hj).2)
  · exact relates_conditions hR (by decide) (Node.relates_drafts hconditions)
  · exact relates_clause hR (by decide) (Node.relates_operandDrafts hR hgroups)
  · exact relates_conditions hR (by decide) (Node.relates_drafts hhaving)
  · rw [OrderItem.drafts_eq_map]
    exact relates_clause hR (by decide) (List.forall_mem_map.mpr fun o ho ↦
      OrderItem.relates_draft hR (horders o ho))
  · exact relates_count hR (by decide) _
  · exact relates_count hR (by decide) _

theorem Assignment.relates_drafts {as : List Assignment}
    (h : ∀ v ∈ as.map Assignment.value, (v.draft d).Relates f g R) :
    ∀ a ∈ Assignment.drafts d as, a.Relates f g R := by
  rw [List.forall_mem_map] at h
  rw [Assignment.drafts_eq_map, List.forall_mem_map]
  rintro ⟨column, value⟩ ha
  have hcolumn := hR.append_plain (hR.name column) (by decide : IsPlain " = ")
  rw [draft]
  exact relates_append hR (relates_text hcolumn) (h _ ha)

theorem Update.relates_draft {s : Update}
    (hvalues : ∀ v ∈ (Node.update s).values, (v.draft d).Relates f g R)
    (hparts : ∀ m ∈ (Node.update s).parts, (m.draft d).Relates f g R) :
    (s.draft d).Relates f g R := by
  obtain ⟨table, assignments, conditions, returning, mapper⟩ := s
  have hupdate := hR.plain_append (by decide : IsPlain "UPDATE ") (hR.name table)
  have htable := hR.append_plain hupdate (by decide : IsPlain " SET ")
  rw [draft]
  repeat' with_reducible apply relates_append hR
  · exact relates_require hR _ _
  · exact relates_require hR _ _
  · exact relates_require hR _ _
  · exact relates_text htable
  · exact relates_join hR (by decide) (Assignment.relates_drafts hR hvalues)
  · exact relates_conditions hR (by decide) (Node.relates_drafts hparts)
  · exact relates_returning hR _

theorem Delete.relates_draft {s : Delete}
    (hparts : ∀ m ∈ (Node.delete s).parts, (m.draft d).Relates f g R) :
    (s.draft d).Relates f g R := by
  obtain ⟨table, conditions, returning⟩ := s
  have htable := hR.plain_append (by decide : IsPlain "DELETE FROM ") (hR.name table)
  rw [draft]
  repeat' with_reducible apply relates_append hR
  · exact relates_require hR _ _
  · exact relates_require hR _ _
  · exact relates_text htable
  · exact relates_conditions hR (by decide) (Node.relates_drafts hparts)
  · exact relates_returning hR _

theorem ConflictAction.relates_drafts (hd : d ∈ Registry.standard.dialects)
    {as : List ConflictAction}
    (h : ∀ v ∈ as.filterMap ConflictAction.value?, (v.draft d).Relates f g R) :
    ∀ a ∈ ConflictAction.drafts d as, a.Relates f g R := by
  rw [ConflictAction.drafts_eq_map, List.forall_mem_map]
  intro a ha
  have hassign (column : String) : (text (d.quote column ++ " = ")).Relates f g R :=
    relates_text (hR.append_plain (hR.name column) (by decide))
  cases a with
  | proposed column =>
    rw [draft]
    refine relates_append hR (hassign column) ?_
    unfold Draft.ofExcept
    split
    · next sql hsql => exact relates_text (hR.proposed hd (hR.name column) hsql)
    · exact relates_fail _
  | set column v =>
    rw [draft]
    exact relates_append hR (hassign column) (h v (List.mem_filterMap.mpr ⟨_, ha, rfl⟩))

theorem OnConflict.relates_draft (hd : d ∈ Registry.standard.dialects) {table : String}
    {c : OnConflict}
    (h : ∀ v ∈ c.written.filterMap ConflictAction.value?, (v.draft d).Relates f g R) :
    (c.draft d table).Relates f g R := by
  obtain ⟨target, actions, ignore⟩ := c
  unfold draft
  cases ignore with
  | true =>
    split
    · intro h
      simp only [succeeds_append, succeeds_require, Bool.not_true, Bool.false_eq_true,
        false_and] at h
    · rw [if_pos rfl]
      repeat' with_reducible apply relates_append hR
      · exact relates_text (hR.plain (by decide))
      · exact relates_names hR _
      · exact relates_text (hR.plain (by decide))
  | false =>
    have hactions := ConflictAction.relates_drafts hR hd h
    split
    · repeat' with_reducible apply relates_append hR
      · exact relates_require hR _ _
      · exact relates_require hR _ _
      · exact relates_text (hR.plain (by decide))
      · exact relates_join hR (by decide) hactions
    · rw [if_neg Bool.false_ne_true]
      repeat' with_reducible apply relates_append hR
      · exact relates_require hR _ _
      · exact relates_require hR _ _
      · exact relates_text (hR.plain (by decide))
      · exact relates_names hR _
      · exact relates_text (hR.plain (by decide))
      · exact relates_join hR (by decide) hactions

theorem Insert.relates_rowsDraft {columnNames : List String} {isFirst : Bool}
    {rows : List (List Value)}
    (h : ∀ row ∈ rows, ∀ v ∈ row, (v.draft d).Relates f g R) :
    (rowsDraft d columnNames isFirst rows).Relates f g R := by
  induction rows generalizing isFirst with
  | nil =>
    rw [rowsDraft]
    exact relates_empty hR
  | cons row rest ih =>
    obtain ⟨hrow, hrest⟩ := List.forall_mem_cons.mp h
    have hjoined := relates_join hR (by decide : IsPlain ", ") (Value.relates_drafts hrow)
    rw [rowsDraft]
    repeat' with_reducible apply relates_append hR
    · exact relates_require hR _ _
    · cases isFirst
      · exact relates_text (hR.plain (by decide))
      · exact relates_empty hR
    · exact relates_parenthesized hR hjoined
    · exact ih hrest

theorem Insert.relates_draft (hd : d ∈ Registry.standard.dialects) {s : Insert}
    (hvalues : ∀ v ∈ (Node.insert s).values, (v.draft d).Relates f g R)
    (hparts : ∀ m ∈ (Node.insert s).parts, (m.draft d).Relates f g R) :
    (s.draft d).Relates f g R := by
  obtain ⟨table, columnNames, rows, query, conflict, returning, mapper⟩ := s
  simp only [Node.values, List.forall_mem_append, List.forall_mem_flatten,
    List.forall_mem_flatMap, Option.mem_toList] at hvalues
  simp only [Node.parts, Option.mem_toList] at hparts
  obtain ⟨hrows, hactions⟩ := hvalues
  have htable := hR.plain_append (by decide : IsPlain "INSERT INTO ") (hR.name table)
  rw [draft]
  repeat' with_reducible apply relates_append hR
  · exact relates_require hR _ _
  · exact relates_require hR _ _
  · exact relates_require hR _ _
  · exact relates_require hR _ _
  · exact relates_require hR _ _
  · exact relates_text htable
  · exact relates_names hR _
  · cases query with
    | none =>
      rw [queryDraft]
      exact relates_empty hR
    | some query =>
      rw [queryDraft]
      exact relates_append hR (relates_text (hR.plain (by decide))) (hparts query rfl)
  · split
    · exact relates_empty hR
    · exact relates_append hR (relates_text (hR.plain (by decide))) (relates_rowsDraft hR hrows)
  · cases conflict with
    | none =>
      rw [conflictDraft]
      exact relates_empty hR
    | some conflict =>
      rw [conflictDraft]
      exact OnConflict.relates_draft hR hd (hactions conflict rfl)
  · exact relates_returning hR _

/-- The draft of a node relates where the drafts of all that stands in it do. -/
theorem Node.relates_draft_of_children (hd : d ∈ Registry.standard.dialects) {n : Node}
    (hwritten : ∀ sql ∈ n.writtenTexts d, R 0 sql sql)
    (h : ∀ m ∈ n.children, (m.draft d).Relates f g R) : (n.draft d).Relates f g R := by
  rw [children, List.forall_mem_append] at h
  obtain ⟨hparts, hnodes⟩ := h
  have hvalues : ∀ v ∈ n.values, (v.draft d).Relates f g R := fun v hv ↦
    Value.relates_draft hR fun m hm ↦ hnodes m (List.mem_filterMap.mpr ⟨v, hv, hm⟩)
  cases n with
  | verbatim sql =>
    rw [draft]
    exact relates_text (hwritten sql (List.mem_singleton_self sql))
  | template sql args =>
    rw [draft]
    exact relates_template hR (Value.relates_drafts hvalues) hwritten
  | ident name =>
    rw [draft]
    exact relates_text (hR.name name)
  | compare column op v =>
    rw [draft]
    exact relates_comparison hR hd column op v (hvalues v (List.mem_singleton_self v))
  | combine op items =>
    rw [draft]
    exact relates_combination hR hd op (relates_drafts hparts)
  | aliased source aliasName =>
    rw [draft]
    exact relates_source hR _ _ _ (hparts source (List.mem_singleton_self source))
  | select s =>
    rw [draft]
    exact Select.relates_draft hR hparts
  | union kind members =>
    have hseparator : IsPlain (" " ++ kind.sql ++ " ") := by cases kind <;> decide
    rw [draft]
    exact relates_append hR (relates_require hR _ _)
      (relates_join hR hseparator (relates_memberDrafts hR hparts))
  | insert s =>
    rw [draft]
    exact Insert.relates_draft hR hd hvalues hparts
  | update s =>
    rw [draft]
    exact Update.relates_draft hR hvalues hparts
  | delete s =>
    rw [draft]
    exact Delete.relates_draft hR hparts

/-- By induction on the tree: its fillings are related where its own texts are related to
themselves. -/
theorem Node.relates_draft (hd : d ∈ Registry.standard.dialects) (n : Node)
    (hwritten : ∀ m, n.Reaches m → ∀ sql ∈ m.writtenTexts d, R 0 sql sql) :
    (n.draft d).Relates f g R := by
  induction n using induction_on_children with
  | step n ih =>
    obtain ⟨hn, hchildren⟩ := forall_reaches_iff.mp hwritten
    exact relates_draft_of_children hR hd hn fun m hm ↦ ih m hm (hchildren m hm)

end SqlRender
