import SqlRender.Proofs.Surface.Written

namespace SqlRender

open Surface Template

/-- What stands for a column or a source. -/
def Node.isOperand : Node → Bool
  | ident _ => true
  | aliased .. => true
  | n => n.isQuery

def Node.isConditional : Node → Bool
  | compare .. => true
  | combine .. => true
  | _ => false

def Select.operands (s : Select) : List Node :=
  s.columns ++ s.source.toList ++ s.joins.map Join.source ++ s.groups ++
    s.orders.map OrderItem.item

def Select.predicates (s : Select) : List Node := s.joins.map Join.on ++ s.conditions ++ s.having

namespace Node

/-- A query of names, conditions and other queries, or a part of one. -/
inductive IsQueryTree : Node → Prop
  | ident (name : String) : IsQueryTree (.ident name)
  | compare (column : String) (op : CompareOp) {v : Value}
    (hquery : ∀ q ∈ v.node?, q.isQuery = true) (h : ∀ q ∈ v.node?, IsQueryTree q) :
    IsQueryTree (.compare column op v)
  | combine (op : BoolOp) {items : List Node} (hitems : ∀ item ∈ items, item.isConditional = true)
    (h : ∀ item ∈ items, IsQueryTree item) : IsQueryTree (.combine op items)
  | aliased {source : Node} (aliasName : String) (hsource : source.isOperand = true)
    (h : IsQueryTree source) : IsQueryTree (.aliased source aliasName)
  | select {s : Select} (hoperands : ∀ n ∈ s.operands, n.isOperand = true)
    (hpredicates : ∀ n ∈ s.predicates, n.isConditional = true)
    (h : ∀ n ∈ s.operands ++ s.predicates, IsQueryTree n) : IsQueryTree (.select s)
  | union (kind : UnionKind) {members : List Node} (hmembers : ∀ n ∈ members, n.isQuery = true)
    (h : ∀ n ∈ members, IsQueryTree n) : IsQueryTree (.union kind members)

theorem mem_operands_or_predicates {s : Select} {n : Node} (h : n ∈ (Node.select s).parts) :
    n ∈ s.operands ++ s.predicates := by
  simp only [parts, List.mem_append, List.mem_flatMap, List.mem_cons, List.not_mem_nil,
    or_false] at h
  simp only [Select.operands, Select.predicates, List.mem_append, List.mem_map]
  obtain (((((h | h) | ⟨j, hj, rfl | rfl⟩) | h) | h) | h) | h := h
  · exact .inl (.inl (.inl (.inl (.inl h))))
  · exact .inl (.inl (.inl (.inl (.inr h))))
  · exact .inl (.inl (.inl (.inr ⟨j, hj, rfl⟩)))
  · exact .inr (.inl (.inl ⟨j, hj, rfl⟩))
  · exact .inr (.inl (.inr h))
  · exact .inl (.inl (.inr h))
  · exact .inr (.inr h)
  · exact .inl (.inr (List.mem_map.mp h))

theorem IsQueryTree.isRawFree {n : Node} (h : n.IsQueryTree) : n.IsRawFree := by
  induction h with
  | ident name => exact isRawFree_ident name
  | compare column op hquery h ih => exact isRawFree_compare ih
  | combine op hitems h ih => exact isRawFree_of_parts rfl nofun ih
  | aliased aliasName hsource h ih =>
    exact isRawFree_of_parts rfl nofun (List.forall_mem_singleton.mpr ih)
  | select hoperands hpredicates h ih =>
    exact isRawFree_of_parts rfl nofun fun m hm ↦ ih m (mem_operands_or_predicates hm)
  | union kind hmembers h ih => exact isRawFree_of_parts rfl nofun ih

end Node

variable {d : Dialect}

namespace Draft

variable {P : String → Prop} (hP : Additive P)

include hP

theorem Additive.says_clause {keyword : String} (hkeyword : P keyword) (hcomma : P ", ")
    {items : List Draft} (h : ∀ a ∈ items, a.Says d P) : (clause keyword items).Says d P := by
  unfold clause
  split
  · exact hP.says_empty
  · exact hP.says_append (says_text hkeyword) (hP.says_join hcomma h)

theorem Additive.says_conditions {keyword : String} (hkeyword : P (" " ++ keyword ++ " "))
    (hand : P " AND ") {items : List Draft} (h : ∀ a ∈ items, a.parenthesized.Says d P) :
    (conditions keyword items).Says d P := by
  unfold conditions
  split
  · exact hP.says_empty
  · exact hP.says_append (says_text hkeyword) (hP.says_join hand (List.forall_mem_map.mpr h))

theorem Additive.says_source (has : P " AS ") (hquote : ∀ name, P (d.quote name))
    (place : SourcePlace) {isQuery : Bool} (aliasName : String) {a : Draft}
    (h : (operand isQuery a).Says d P) : (source d place isQuery aliasName a).Says d P := by
  have haliased : (aliased d aliasName).Says d P := by
    unfold aliased
    split
    · exact hP.says_empty
    · exact says_text (hP.append has (hquote aliasName))
  exact hP.says_append (hP.says_append (hP.says_require _ _) h) haliased

end Draft

open Draft IsQuiet

variable (hd : d ∈ Registry.standard.dialects)

include hd

theorem Surface.isQuiet_name (name : String) :
    IsQuiet d.capabilities.backslashEscapes clausePairs (d.quote name) :=
  (isQuiet_quote hd name).of_subset (by decide)

theorem Node.IsQueryTree.says_parenthesized {n : Node} (hn : n.IsQueryTree)
    (pairs : List (Char × Char)) :
    (n.draft d).parenthesized.Says d (IsQuiet d.capabilities.backslashEscapes pairs) :=
  Draft.says_parenthesized (n.says_isNested hd hn.isRawFree) pairs

theorem Node.IsQueryTree.says_operand {n : Node} (hn : n.IsQueryTree)
    (hoperand : n.isOperand = true) :
    (operand n.isQuery (n.draft d)).Says d
      (IsQuiet d.capabilities.backslashEscapes clausePairs) := by
  induction hn with
  | ident name =>
    rw [draft]
    exact says_text (isQuiet_name hd name)
  | aliased aliasName hsource h ih =>
    rw [draft]
    exact additive.says_source (.of_isPlain (by decide) (by decide)) (isQuiet_name hd) _ _
      (ih hsource)
  | select hoperands hpredicates h => exact (select hoperands hpredicates h).says_parenthesized hd _
  | union kind hmembers h => exact (union kind hmembers h).says_parenthesized hd _
  | compare => cases hoperand
  | combine => cases hoperand

theorem Node.IsQueryTree.says_condition {n : Node} (hn : n.IsQueryTree)
    (hcondition : n.isConditional = true) :
    (n.draft d).Says d (IsQuiet d.capabilities.backslashEscapes clausePairs) := by
  cases hn with
  | @compare column op v hquery h =>
    have hregular : v.IsRegular := fun q hq ↦ ⟨hquery q hq, (h q hq).isRawFree⟩
    intro inlining held sql held' hsql
    rw [write_draft] at hsql
    have htext := adds_compare hd hregular hsql
    cases hconstant : Opening.constant? op v with
    | some b =>
      rw [hconstant] at htext
      rw [htext.1]
      exact (isQuiet_boolLiteral hd b).of_subset (by decide)
    | none =>
      rw [hconstant] at htext
      exact htext.1.of_subset (by decide)
  | @combine op items hitems h =>
    rw [draft, drafts_eq_map]
    unfold combination
    split
    · exact says_text ((isQuiet_boolLiteral hd _).of_subset (by decide))
    · have hword : IsQuiet d.capabilities.backslashEscapes clausePairs (" " ++ op.sql ++ " ") := by
        cases op <;> exact .of_isPlain (by decide) (by decide)
      refine additive.says_join hword (List.forall_mem_map.mpr (List.forall_mem_map.mpr ?_))
      exact fun item hitem ↦ (h item hitem).says_parenthesized hd _
  | ident => cases hcondition
  | aliased => cases hcondition
  | select => cases hcondition
  | union => cases hcondition

theorem Join.says_draft {j : Join} (hsource : j.source.IsQueryTree)
    (hoperand : j.source.isOperand = true) (hon : j.on.IsQueryTree)
    (hcondition : j.on.isConditional = true) :
    (j.draft d).Says d (IsQuiet d.capabilities.backslashEscapes clausePairs) := by
  obtain ⟨kind, source, aliasName, on⟩ := j
  have hkeyword : IsQuiet d.capabilities.backslashEscapes clausePairs
      (" " ++ kind.sql ++ " JOIN ") := by
    cases kind <;> exact .of_isPlain (by decide) (by decide)
  rw [draft]
  repeat' with_reducible apply additive.says_append
  · exact additive.says_require _ _
  · exact says_text hkeyword
  · exact additive.says_source (.of_isPlain (by decide) (by decide)) (isQuiet_name hd) _ _
      (hsource.says_operand hd hoperand)
  · exact says_text (.of_isPlain (by decide) (by decide))
  · exact hon.says_condition hd hcondition

/-- A query that is not grouped has no order and no bound at the top. -/
theorem Select.says_draft {s : Select} (hs : (Node.select s).IsQueryTree)
    (hgrouped : (Node.select s).isGrouped = false) :
    (s.draft d).Says d (IsQuiet d.capabilities.backslashEscapes clausePairs) := by
  cases hs with | select hoperands hpredicates h =>
  obtain ⟨columns, isDistinct, source, sourceAlias, joins, conditions, groups, having, orders,
    limit, offset⟩ := s
  simp only [Node.isGrouped, Bool.or_eq_false_iff, Bool.not_eq_false', List.isEmpty_iff,
    Option.isSome_eq_false_iff, Option.isNone_iff_eq_none] at hgrouped
  obtain ⟨⟨rfl, rfl⟩, rfl⟩ := hgrouped
  simp only [operands, predicates, List.forall_mem_append, List.forall_mem_map, Option.mem_toList,
    List.map_nil, List.append_nil] at hoperands hpredicates h
  obtain ⟨⟨⟨hcolumns, hsource⟩, hjoins⟩, hgroups⟩ := hoperands
  obtain ⟨⟨hons, hconditions⟩, hhaving⟩ := hpredicates
  obtain ⟨⟨⟨⟨hcolumnTrees, hsourceTree⟩, hjoinTrees⟩, hgroupTrees⟩, ⟨honTrees, hconditionTrees⟩,
    hhavingTrees⟩ := h
  have hselect : IsQuiet d.capabilities.backslashEscapes clausePairs
      (if isDistinct then "SELECT DISTINCT " else "SELECT ") := by
    cases isDistinct <;> exact .of_isPlain (by decide) (by decide)
  have hcomma : IsQuiet d.capabilities.backslashEscapes clausePairs ", " :=
    .of_isPlain (by decide) (by decide)
  have hand : IsQuiet d.capabilities.backslashEscapes clausePairs " AND " :=
    .of_isPlain (by decide) (by decide)
  rw [draft, Node.operandDrafts_eq_map, Node.operandDrafts_eq_map, Node.drafts_eq_map,
    Node.drafts_eq_map, Join.drafts_eq_map, OrderItem.drafts_eq_map]
  -- Cut between the clauses, and not in what each of them is made of.
  repeat' with_reducible apply additive.says_append
  · exact additive.says_require _ _
  · exact additive.says_require _ _
  · exact says_text hselect
  · split
    · exact says_text (.of_isPlain (by decide) (by decide))
    · exact additive.says_join hcomma (List.forall_mem_map.mpr fun n hn ↦
        (hcolumnTrees n hn).says_operand hd (hcolumns n hn))
  · cases source with
    | none =>
      rw [sourceDraft]
      exact additive.says_empty
    | some n =>
      rw [sourceDraft]
      exact additive.says_append (says_text (.of_isPlain (by decide) (by decide)))
        (additive.says_source (.of_isPlain (by decide) (by decide)) (isQuiet_name hd) _ _
          ((hsourceTree n rfl).says_operand hd (hsource n rfl)))
  · exact additive.says_sequence (List.forall_mem_map.mpr fun j hj ↦
      Join.says_draft hd (hjoinTrees j hj) (hjoins j hj) (honTrees j hj) (hons j hj))
  · exact additive.says_conditions (.of_isPlain (by decide) (by decide)) hand
      (List.forall_mem_map.mpr fun n hn ↦ (hconditionTrees n hn).says_parenthesized hd _)
  · exact additive.says_clause (.of_isPlain (by decide) (by decide)) hcomma
      (List.forall_mem_map.mpr fun n hn ↦ (hgroupTrees n hn).says_operand hd (hgroups n hn))
  · exact additive.says_conditions (.of_isPlain (by decide) (by decide)) hand
      (List.forall_mem_map.mpr fun n hn ↦ (hhavingTrees n hn).says_parenthesized hd _)
  · exact additive.says_empty
  · exact additive.says_empty
  · exact additive.says_empty

end SqlRender
