import SqlRender.Node.LongNumber
import SqlRender.Proofs.Node.Within

/-!
A node in which no count and no value is too long to be written: its draft does not end for a
long number, and binds none.
-/

namespace SqlRender

theorem Value.haveLongNumber_eq_false_iff {vs : List Value} :
    haveLongNumber vs = false ↔ ∀ v ∈ vs, v.hasLongNumber = false := by
  induction vs with
  | nil => simp only [haveLongNumber, List.not_mem_nil, false_implies, implies_true]
  | cons v rest ih => rw [haveLongNumber, Bool.or_eq_false_iff, ih, List.forall_mem_cons]

theorem Value.hasLongNumber_of_entry {entries : List (Value × Value)}
    (h : entriesHaveLongNumber entries = false) : ∀ e ∈ entries, e.1.hasLongNumber = false := by
  induction entries with
  | nil => exact nofun
  | cons e rest ih =>
    obtain ⟨k, v⟩ := e
    rw [entriesHaveLongNumber, Bool.or_eq_false_iff, Bool.or_eq_false_iff] at h
    exact List.forall_mem_cons.mpr ⟨h.1.1, ih h.2⟩

theorem Value.rowsHaveLongNumber_eq_false_iff {rows : List (List Value)} :
    rowsHaveLongNumber rows = false ↔ ∀ row ∈ rows, ∀ v ∈ row, v.hasLongNumber = false := by
  induction rows with
  | nil => simp only [rowsHaveLongNumber, List.not_mem_nil, false_implies, implies_true]
  | cons row rest ih =>
    rw [rowsHaveLongNumber, Bool.or_eq_false_iff, haveLongNumber_eq_false_iff, ih,
      List.forall_mem_cons]

theorem Node.haveLongNumber_eq_false_iff {ns : List Node} :
    haveLongNumber ns = false ↔ ∀ n ∈ ns, n.hasLongNumber = false := by
  induction ns with
  | nil => simp only [haveLongNumber, List.not_mem_nil, false_implies, implies_true]
  | cons n rest ih => rw [haveLongNumber, Bool.or_eq_false_iff, ih, List.forall_mem_cons]

theorem Node.optionHasLongNumber_eq_false_iff {n : Option Node} :
    optionHasLongNumber n = false ↔ ∀ m ∈ n, m.hasLongNumber = false := by
  cases n with
  | none => simp only [optionHasLongNumber, Option.not_mem_none, false_implies, implies_true]
  | some n => simp only [optionHasLongNumber, Option.mem_def, Option.some.injEq, forall_eq']

theorem Join.haveLongNumber_eq_false_iff {js : List Join} :
    haveLongNumber js = false ↔
      ∀ j ∈ js, j.source.hasLongNumber = false ∧ j.on.hasLongNumber = false := by
  induction js with
  | nil => simp only [haveLongNumber, List.not_mem_nil, false_implies, implies_true]
  | cons j rest ih =>
    obtain ⟨kind, source, aliasName, on⟩ := j
    rw [haveLongNumber, hasLongNumber, Bool.or_eq_false_iff, Bool.or_eq_false_iff, ih,
      List.forall_mem_cons]

theorem OrderItem.haveLongNumber_eq_false_iff {os : List OrderItem} :
    haveLongNumber os = false ↔ ∀ o ∈ os, o.item.hasLongNumber = false := by
  induction os with
  | nil => simp only [haveLongNumber, List.not_mem_nil, false_implies, implies_true]
  | cons o rest ih =>
    obtain ⟨item, direction⟩ := o
    rw [haveLongNumber, hasLongNumber, Bool.or_eq_false_iff, ih, List.forall_mem_cons]

theorem ConflictAction.haveLongNumber_eq_false_iff {as : List ConflictAction} :
    haveLongNumber as = false ↔ ∀ a ∈ as, ∀ v ∈ a.value?, v.hasLongNumber = false := by
  induction as with
  | nil => simp only [haveLongNumber, List.not_mem_nil, false_implies, implies_true]
  | cons a rest ih =>
    rw [haveLongNumber, Bool.or_eq_false_iff, ih, List.forall_mem_cons]
    cases a with
    | proposed column => simp only [hasLongNumber, value?, Option.not_mem_none, false_implies,
        implies_true]
    | set column v => simp only [hasLongNumber, value?, Option.mem_def, Option.some.injEq,
        forall_eq']

theorem Assignment.haveLongNumber_eq_false_iff {as : List Assignment} :
    haveLongNumber as = false ↔ ∀ a ∈ as, a.value.hasLongNumber = false := by
  induction as with
  | nil => simp only [haveLongNumber, List.not_mem_nil, false_implies, implies_true]
  | cons a rest ih =>
    obtain ⟨column, value⟩ := a
    rw [haveLongNumber, hasLongNumber, Bool.or_eq_false_iff, ih, List.forall_mem_cons]

theorem Select.hasLongNumber_eq_false_iff {s : Select} :
    s.hasLongNumber = false ↔
      (∀ k ∈ (Node.select s).counts, Digits.isTooLong k = false) ∧
        ∀ m ∈ (Node.select s).parts, m.hasLongNumber = false := by
  obtain ⟨columns, isDistinct, source, sourceAlias, joins, conditions, groups, having, orders,
    limit, offset⟩ := s
  simp only [hasLongNumber, Bool.or_eq_false_iff, Node.haveLongNumber_eq_false_iff,
    Node.optionHasLongNumber_eq_false_iff, Join.haveLongNumber_eq_false_iff,
    OrderItem.haveLongNumber_eq_false_iff, Option.any_eq_false, Node.counts,
    Node.parts, List.forall_mem_append, List.forall_mem_map, List.forall_mem_flatMap,
    List.forall_mem_cons, List.not_mem_nil, false_implies, implies_true, and_true,
    Option.mem_toList]
  constructor
  · rintro ⟨⟨h, hlimit⟩, hoffset⟩
    exact ⟨⟨hlimit, hoffset⟩, h⟩
  · rintro ⟨⟨hlimit, hoffset⟩, h⟩
    exact ⟨⟨h, hlimit⟩, hoffset⟩

theorem Insert.values_of_hasLongNumber {s : Insert} (h : s.hasLongNumber = false) :
    (∀ v ∈ (Node.insert s).values, v.hasLongNumber = false) ∧
      ∀ m ∈ (Node.insert s).parts, m.hasLongNumber = false := by
  obtain ⟨table, columnNames, rows, query, conflict, returning, mapper⟩ := s
  simp only [hasLongNumber, Bool.or_eq_false_iff, Value.rowsHaveLongNumber_eq_false_iff,
    Node.optionHasLongNumber_eq_false_iff] at h
  obtain ⟨⟨hrows, hquery⟩, hconflict⟩ := h
  refine ⟨?_, fun m hm ↦ hquery m (Option.mem_toList.mp hm)⟩
  rw [Node.values, List.forall_mem_append, List.forall_mem_flatten]
  refine ⟨hrows, fun v hv ↦ ?_⟩
  cases conflict with
  | none => exact absurd hv List.not_mem_nil
  | some c =>
    obtain ⟨target, actions, ignore⟩ := c
    rw [conflictHasLongNumber, OnConflict.hasLongNumber,
      ConflictAction.haveLongNumber_eq_false_iff] at hconflict
    simp only [Option.toList_some, List.flatMap_singleton, List.mem_filterMap, OnConflict.written]
      at hv
    obtain ⟨a, ha, hv⟩ := hv
    split at ha
    · cases ha
    · exact hconflict a ha v hv

/-- Where a node has no long number, nothing that stands in it has one. -/
theorem Node.short_of_hasLongNumber {n : Node} (h : n.hasLongNumber = false) :
    (∀ k ∈ n.counts, Digits.isTooLong k = false) ∧ (∀ v ∈ n.values, v.hasLongNumber = false) ∧
      ∀ m ∈ n.parts, m.hasLongNumber = false := by
  cases n with
  | verbatim sql => exact ⟨nofun, nofun, nofun⟩
  | ident name => exact ⟨nofun, nofun, nofun⟩
  | template sql args =>
    rw [hasLongNumber, Value.haveLongNumber_eq_false_iff] at h
    exact ⟨nofun, h, nofun⟩
  | compare column op v =>
    rw [hasLongNumber] at h
    exact ⟨nofun, List.forall_mem_singleton.mpr h, nofun⟩
  | combine op items =>
    rw [hasLongNumber, haveLongNumber_eq_false_iff] at h
    exact ⟨nofun, nofun, h⟩
  | aliased source aliasName =>
    rw [hasLongNumber] at h
    exact ⟨nofun, nofun, List.forall_mem_singleton.mpr h⟩
  | union kind members =>
    rw [hasLongNumber, haveLongNumber_eq_false_iff] at h
    exact ⟨nofun, nofun, h⟩
  | select s =>
    rw [hasLongNumber, Select.hasLongNumber_eq_false_iff] at h
    exact ⟨h.1, nofun, h.2⟩
  | insert s =>
    rw [hasLongNumber] at h
    exact ⟨nofun, Insert.values_of_hasLongNumber h⟩
  | update s =>
    obtain ⟨table, assignments, conditions, returning, mapper⟩ := s
    rw [hasLongNumber, Update.hasLongNumber, Bool.or_eq_false_iff,
      Assignment.haveLongNumber_eq_false_iff, haveLongNumber_eq_false_iff] at h
    exact ⟨nofun, List.forall_mem_map.mpr h.1, h.2⟩
  | delete s =>
    obtain ⟨table, conditions, returning⟩ := s
    rw [hasLongNumber, Delete.hasLongNumber, haveLongNumber_eq_false_iff] at h
    exact ⟨nofun, nofun, h⟩

variable (d : Dialect)

/-- The draft does not end for a long number, and binds none. -/
abbrev Draft.IsShort (a : Draft) : Prop := a.Within (· ≠ .longNumber) (·.isLongNumber = false)

theorem Value.isShort_draft {v : Value} (h : v.hasLongNumber = false)
    (hnode : ∀ n ∈ v.node?, (n.draft d).IsShort) : (v.draft d).IsShort := by
  cases v with
  | scalar s =>
    rw [draft]
    exact .bind h
  | collection kind members =>
    rw [hasLongNumber, haveLongNumber_eq_false_iff] at h
    rw [draft]
    exact .ofMembers (fun _ _ ↦ nofun) fun s hs ↦ h _ hs
  | mapping entries =>
    rw [hasLongNumber] at h
    rw [draft]
    refine .ofMembers (fun _ _ ↦ nofun) fun s hs ↦ ?_
    obtain ⟨⟨k, v⟩, he, rfl⟩ := List.mem_map.mp hs
    exact hasLongNumber_of_entry h _ he
  | foreign name =>
    rw [draft]
    exact .fail nofun
  | node n =>
    rw [draft]
    exact (hnode n rfl).operand n.isQuery

/-- What a node writes by itself is short where its counts are. -/
theorem Node.isShort_draft_of_parts {n : Node}
    (hcounts : ∀ k ∈ n.counts, Digits.isTooLong k = false)
    (hvalues : ∀ v ∈ n.values, (v.draft d).IsShort) (hparts : ∀ m ∈ n.parts, (m.draft d).IsShort) :
    (n.draft d).IsShort := by
  cases n with
  | verbatim sql =>
    rw [draft]
    exact .text _
  | template sql args =>
    rw [draft, Value.drafts_eq_map]
    exact .template _ (fun _ _ ↦ nofun) (List.forall_mem_map.mpr hvalues)
  | ident name =>
    rw [draft]
    exact .text _
  | compare column op v =>
    rw [draft]
    exact .comparison (fun _ _ ↦ nofun) (hvalues v List.mem_cons_self)
  | combine op items =>
    rw [draft]
    exact .combination op (within_drafts hparts)
  | aliased source aliasName =>
    rw [draft]
    exact .source _ _ (fun _ ↦ nofun) (hparts source List.mem_cons_self)
  | select s =>
    rw [draft]
    refine Select.within_draft (fun _ ↦ nofun) nofun (fun _ _ _ ↦ nofun) (fun _ _ _ ↦ nofun) ?_
      hparts
    intro k hk hlong
    rw [hcounts k hk] at hlong
    cases hlong
  | union kind members =>
    rw [draft]
    exact .append (.require fun _ ↦ nofun) (.join _ (within_memberDrafts hparts))
  | insert s =>
    rw [draft]
    exact Insert.within_draft (fun _ ↦ nofun) nofun nofun (fun _ ↦ nofun) nofun nofun
      (fun _ _ _ ↦ nofun) hvalues hparts
  | update s =>
    rw [draft]
    exact Update.within_draft (fun _ ↦ nofun) nofun nofun hvalues hparts
  | delete s =>
    rw [draft]
    exact Delete.within_draft (fun _ ↦ nofun) nofun hparts

/-- By induction on the tree: a node whose numbers can all be written is never refused for one. -/
theorem Node.isShort_draft {n : Node} (h : n.hasLongNumber = false) : (n.draft d).IsShort := by
  induction n using induction_on_children with
  | step n ih =>
    obtain ⟨hcounts, hvalues, hparts⟩ := short_of_hasLongNumber h
    refine isShort_draft_of_parts d hcounts (fun v hv ↦ ?_) fun m hm ↦ ?_
    · refine Value.isShort_draft d (hvalues v hv) fun m hm ↦ ?_
      refine ih m (List.mem_append_right _ (List.mem_filterMap.mpr ⟨v, hv, hm⟩)) ?_
      have hnode := hvalues v hv
      cases v with
      | node q =>
        cases hm
        rwa [Value.hasLongNumber] at hnode
      | _ => cases hm
    · exact ih m (List.mem_append_left _ hm) (hparts m hm)

end SqlRender
