import Mathlib
import SqlRender.Dialect.Builtin
import SqlRender.Proofs.LastPaired
import SqlRender.Proofs.ModeAgreement
import SqlRender.Proofs.Node.Within
import SqlRender.Statement.Insert

namespace SqlRender.Insert

/-- How records are laid out as pairs of column and value, if they can be. -/
abbrev Mapping := Record → Except Error (List (String × Value))

/-- A step of an insertion whose records are laid out by any mapping. -/
def applyBy (mapping : Mapping) (s : Insert) : Step → Except Error Insert
  | .record r => addRecord mapping s r
  | step => s.apply step

def applyAllBy (mapping : Mapping) (s : Insert) (steps : List Step) : Except Error Insert :=
  steps.foldlM (applyBy mapping) s

variable {mapping mapping' : Mapping} {s s' : Insert} {step : Step} {pairs : List (String × Value)}
  {columns : List String} {r : Record} {row : List Value} {e : Error}

theorem apply_eq_applyBy (s : Insert) (step : Step) :
    s.apply step = s.applyBy s.mapper.pairs step := by
  cases step <;> rfl

theorem mapper_of_apply (h : s.apply step = .ok s') : s'.mapper = s.mapper := by
  cases step with
  | record r =>
    obtain ⟨columnNames, rows, rfl⟩ := exists_of_addRecord h
    rfl
  | _ =>
    cases h
    rfl

/-- An insertion lays out its records by the mapper that it was begun with. -/
theorem applyAll_eq_applyAllBy (s : Insert) (steps : List Step) :
    s.applyAll steps = s.applyAllBy s.mapper.pairs steps := by
  induction steps generalizing s with
  | nil => rfl
  | cons step rest ih =>
    rw [applyAll, applyAllBy, List.foldlM_cons, List.foldlM_cons, ← apply_eq_applyBy]
    cases hstep : s.apply step with
    | error e => rfl
    | ok s' =>
      rw [← mapper_of_apply hstep]
      exact ih s'

theorem lastValue?_eq_some_iff {column : String} {v : Value} :
    lastValue? column pairs = some v ↔ LastPaired pairs column v := lookup_reverse_eq_some_iff

/-- The columns that the pairs say nothing of. -/
def missing (columns : List String) (pairs : List (String × Value)) : List String :=
  columns.filter (· ∉ pairs.map Prod.fst)

theorem filter_lastValue?_isNone (columns : List String) (pairs : List (String × Value)) :
    (columns.filter fun c ↦ (lastValue? c pairs).isNone) = missing columns pairs := by
  refine List.filter_congr fun c _ ↦ ?_
  rw [Bool.eq_iff_iff, Option.isNone_iff_eq_none, decide_eq_true_iff]
  exact lookup_reverse_eq_none_iff

theorem missing_cons_of_mem {c : String} (h : c ∈ pairs.map Prod.fst) (columns : List String) :
    missing (c :: columns) pairs = missing columns pairs :=
  List.filter_cons_of_neg (by simpa only [decide_eq_true_iff, not_not] using h)

theorem missing_cons_of_not_mem {c : String} (h : c ∉ pairs.map Prod.fst)
    (columns : List String) : missing (c :: columns) pairs = c :: missing columns pairs :=
  List.filter_cons_of_pos (decide_eq_true h)

/-- The pairs give a row just where they have every column. -/
theorem forall₂_lastPaired_iff :
    List.Forall₂ (LastPaired pairs) columns row ↔
      missing columns pairs = [] ∧ row = columns.filterMap (lastValue? · pairs) := by
  induction columns generalizing row with
  | nil => simp [missing]
  | cons c rest ih =>
    simp only [List.forall₂_cons_left_iff, ih, ← lastValue?_eq_some_iff]
    cases hv : lastValue? c pairs with
    | none =>
      have hc : c ∉ pairs.map Prod.fst := lookup_reverse_eq_none_iff.mp hv
      simp [missing_cons_of_not_mem hc]
    | some v =>
      have hc : c ∈ pairs.map Prod.fst := List.mem_map_of_mem (lastValue?_eq_some_iff.mp hv).mem
      rw [missing_cons_of_mem hc, List.filterMap_cons_some (f := fun c ↦ lastValue? c pairs) hv]
      constructor
      · rintro ⟨_, _, ⟨⟩, ⟨hrest, rfl⟩, rfl⟩
        exact ⟨hrest, rfl⟩
      · rintro ⟨hrest, rfl⟩
        exact ⟨v, _, rfl, ⟨hrest, rfl⟩, rfl⟩

theorem addPairs_of_columns (hs : s.columnNames ≠ []) (pairs : List (String × Value)) :
    s.addPairs pairs =
      if missing s.columnNames pairs = [] then
        .ok { s with rows := s.rows ++ [s.columnNames.filterMap (lastValue? · pairs)] }
      else .error (.missingColumns (missing s.columnNames pairs)) := by
  rw [addPairs, if_neg (by simpa using hs), filter_lastValue?_isNone]
  simp only [List.isEmpty_iff]

def withRows (s : Insert) (rows : List (List Value)) : Insert := { s with rows := s.rows ++ rows }

theorem withRows_nil (s : Insert) : s.withRows [] = s := by
  cases s
  simp only [withRows, List.append_nil]

theorem withRows_withRows (s : Insert) (rows rows' : List (List Value)) :
    (s.withRows rows).withRows rows' = s.withRows (rows ++ rows') := by
  simp only [withRows, List.append_assoc]

theorem addPairs_eq_ok_iff (hs : s.columnNames ≠ []) :
    s.addPairs pairs = .ok s' ↔
      ∃ row, List.Forall₂ (LastPaired pairs) s.columnNames row ∧ s' = s.withRows [row] := by
  simp only [addPairs_of_columns hs, forall₂_lastPaired_iff, withRows]
  by_cases hmissing : missing s.columnNames pairs = []
  · simp [hmissing, eq_comm]
  · simp [hmissing]

theorem addPairs_eq_error_iff (hs : s.columnNames ≠ []) :
    s.addPairs pairs = .error e ↔
      missing s.columnNames pairs ≠ [] ∧ e = .missingColumns (missing s.columnNames pairs) := by
  rw [addPairs_of_columns hs]
  by_cases hmissing : missing s.columnNames pairs = []
  · simp [hmissing]
  · simp [hmissing, eq_comm]

/-- The mapping gives each column of the row its value, by the last of the record's pairs. -/
def IsRow (mapping : Mapping) (columns : List String) (r : Record) (row : List Value) : Prop :=
  ∃ pairs, mapping r = .ok pairs ∧ List.Forall₂ (LastPaired pairs) columns row

theorem applyAllBy_cons_iff {steps : List Step} :
    s.applyAllBy mapping (step :: steps) = .ok s' ↔
      ∃ mid, s.applyBy mapping step = .ok mid ∧ mid.applyAllBy mapping steps = .ok s' := by
  rw [applyAllBy, List.foldlM_cons]
  cases s.applyBy mapping step with
  | error e => simp [bind, Except.bind]
  | ok mid => simp [bind, Except.bind, applyAllBy]

theorem addRecord_eq_ok_iff :
    s.addRecord mapping r = .ok s' ↔
      ∃ pairs, mapping r = .ok pairs ∧ s.addPairs pairs = .ok s' := by
  rw [addRecord]
  cases mapping r with
  | error e => simp [bind, Except.bind]
  | ok pairs => simp [bind, Except.bind]

theorem addRecord_eq_ok_iff_isRow (hs : s.columnNames ≠ []) :
    s.addRecord mapping r = .ok s' ↔
      ∃ row, IsRow mapping s.columnNames r row ∧ s' = s.withRows [row] := by
  simp only [addRecord_eq_ok_iff, addPairs_eq_ok_iff hs, IsRow]
  constructor
  · rintro ⟨pairs, hpairs, row, hrow, rfl⟩
    exact ⟨row, ⟨pairs, hpairs, hrow⟩, rfl⟩
  · rintro ⟨row, ⟨pairs, hpairs, hrow⟩, rfl⟩
    exact ⟨pairs, hpairs, row, hrow, rfl⟩

/-- By induction on the records: each adds a row, and the columns stay. -/
theorem applyAllBy_records_iff (hs : s.columnNames ≠ []) {records : List Record} :
    s.applyAllBy mapping (records.map .record) = .ok s' ↔
      ∃ rows, List.Forall₂ (IsRow mapping s.columnNames) records rows ∧
        s' = s.withRows rows := by
  induction records generalizing s with
  | nil => simp [applyAllBy, pure, Except.pure, withRows_nil, eq_comm]
  | cons r rest ih =>
    rw [List.map_cons, applyAllBy_cons_iff]
    simp only [applyBy, addRecord_eq_ok_iff_isRow hs, List.forall₂_cons_left_iff]
    constructor
    · rintro ⟨_, ⟨row, hrow, rfl⟩, hrest⟩
      obtain ⟨rows, hrows, rfl⟩ := (ih (s := s.withRows [row]) hs).mp hrest
      exact ⟨row :: rows, ⟨row, rows, hrow, hrows, rfl⟩, s.withRows_withRows [row] rows⟩
    · rintro ⟨_, ⟨row, rows, hrow, hrows, rfl⟩, rfl⟩
      refine ⟨s.withRows [row], ⟨row, hrow, rfl⟩, (ih (s := s.withRows [row]) hs).mpr ?_⟩
      exact ⟨rows, hrows, (s.withRows_withRows [row] rows).symm⟩

theorem applyAllBy_append_iff {xs ys : List Step} :
    s.applyAllBy mapping (xs ++ ys) = .ok s' ↔
      ∃ mid, s.applyAllBy mapping xs = .ok mid ∧ mid.applyAllBy mapping ys = .ok s' := by
  induction xs generalizing s with
  | nil => simp [applyAllBy, pure, Except.pure]
  | cons step rest ih =>
    simp only [List.cons_append, applyAllBy_cons_iff, ih]
    constructor
    · rintro ⟨first, hfirst, mid, hmid, hlast⟩
      exact ⟨mid, ⟨first, hfirst, hmid⟩, hlast⟩
    · rintro ⟨mid, ⟨first, hfirst, hmid⟩, hlast⟩
      exact ⟨first, hfirst, mid, hmid, hlast⟩

theorem applyAllBy_columns (s : Insert) (lists : List (List String)) :
    s.applyAllBy mapping (lists.map .columns) =
      .ok { s with columnNames := s.columnNames ++ lists.flatten } := by
  induction lists generalizing s with
  | nil =>
    cases s
    simp [applyAllBy, pure, Except.pure]
  | cons names rest ih =>
    rw [List.map_cons, List.flatten_cons, ← List.append_assoc]
    exact ih { s with columnNames := s.columnNames ++ names }

theorem addPairs_of_nil (hs : s.columnNames = []) (pairs : List (String × Value)) :
    s.addPairs pairs =
      .ok { s with
        columnNames := pairs.map Prod.fst
        rows := s.rows ++ [pairs.map Prod.snd] } := by
  rw [addPairs, hs]
  rfl

/-- Pairs that repeat no column line up with their own columns. -/
theorem forall₂_lastPaired_iff_of_nodup (hnodup : (pairs.map Prod.fst).Nodup) :
    List.Forall₂ (LastPaired pairs) (pairs.map Prod.fst) row ↔ row = pairs.map Prod.snd := by
  have hpairs : List.Forall₂ (LastPaired pairs) (pairs.map Prod.fst) (pairs.map Prod.snd) := by
    rw [List.forall₂_map_left_iff, List.forall₂_map_right_iff, List.forall₂_same]
    exact fun p hp ↦ .of_mem hnodup hp
  rw [forall₂_lastPaired_iff] at hpairs ⊢
  rw [hpairs.2]
  exact and_iff_right hpairs.1

/-- The columns are listed by steps of their own, or are those of the first record. -/
inductive FixesColumns (mapping : Mapping) : List (List String) → List Record → List String → Prop
  | listed {lists : List (List String)} {records : List Record} (h : lists.flatten ≠ []) :
    FixesColumns mapping lists records lists.flatten
  | mapped {first : Record} {rest : List Record} {pairs : List (String × Value)}
    (h : mapping first = .ok pairs) (hne : pairs ≠ []) (hnodup : (pairs.map Prod.fst).Nodup) :
    FixesColumns mapping [] (first :: rest) (pairs.map Prod.fst)

theorem FixesColumns.ne_nil {lists : List (List String)} {records : List Record}
    (h : FixesColumns mapping lists records columns) : columns ≠ [] := by
  cases h with
  | listed h => exact h
  | mapped _ hne => exact fun h ↦ hne (List.map_eq_nil_iff.mp h)

/-- A run succeeds if every record has a row for the columns. -/
theorem FixesColumns.applyAllBy_iff {lists : List (List String)} {records : List Record}
    (h : FixesColumns mapping lists records columns) {table : String} {mapper : Mapper} :
    applyAllBy mapping { table, mapper } (lists.map .columns ++ records.map .record) = .ok s ↔
      ∃ rows, List.Forall₂ (IsRow mapping columns) records rows ∧
        s = { table, mapper, columnNames := columns, rows } := by
  rw [applyAllBy_append_iff]
  simp only [applyAllBy_columns, Except.ok.injEq, List.nil_append, exists_eq_left']
  cases h with
  | listed h =>
    rw [applyAllBy_records_iff h]
    rfl
  | @mapped first rest pairs hfirst hne hnodup =>
    have hcolumns : pairs.map Prod.fst ≠ [] := fun h ↦ hne (List.map_eq_nil_iff.mp h)
    let mid : Insert :=
      { table, mapper, columnNames := pairs.map Prod.fst, rows := [pairs.map Prod.snd] }
    have hmid : applyBy mapping { table, mapper } (.record first) = .ok mid := by
      rw [applyBy, addRecord, hfirst]
      exact addPairs_of_nil (s := { table, mapper }) rfl pairs
    have hrow (row : List Value) :
        IsRow mapping (pairs.map Prod.fst) first row ↔ row = pairs.map Prod.snd := by
      simp only [IsRow, hfirst, Except.ok.injEq, exists_eq_left']
      exact forall₂_lastPaired_iff_of_nodup hnodup
    rw [List.map_cons, applyAllBy_cons_iff, List.flatten_nil]
    simp only [hmid, Except.ok.injEq, exists_eq_left', applyAllBy_records_iff (s := mid) hcolumns]
    simp only [List.forall₂_cons_left_iff, hrow]
    constructor
    · rintro ⟨rows, hrows, rfl⟩
      exact ⟨_, ⟨_, rows, rfl, hrows, rfl⟩, rfl⟩
    · rintro ⟨_, ⟨_, rows, rfl, hrows, rfl⟩, rfl⟩
      exact ⟨rows, hrows, rfl⟩

/-- The same pairs, or in another order where they repeat no column. -/
def IsReordered (mapping mapping' : Mapping) (r r' : Record) : Prop :=
  ∃ pairs pairs', mapping r = .ok pairs ∧ mapping' r' = .ok pairs' ∧
    (pairs' = pairs ∨ (pairs.map Prod.fst).Nodup ∧ pairs.Perm pairs')

theorem IsRow.of_isReordered {r' : Record} (h : IsReordered mapping mapping' r r')
    (hrow : IsRow mapping columns r row) : IsRow mapping' columns r' row := by
  obtain ⟨pairs, pairs', hpairs, hpairs', hsame⟩ := h
  obtain ⟨_, hr, hvalues⟩ := hrow
  cases hpairs.symm.trans hr
  refine ⟨pairs', hpairs', ?_⟩
  obtain rfl | ⟨hnodup, hperm⟩ := hsame
  · exact hvalues
  · exact hvalues.imp fun _ _ h ↦ h.of_perm hnodup hperm

theorem forall_length_of_isRow {records : List Record} {rows : List (List Value)}
    (h : List.Forall₂ (IsRow mapping columns) records rows) :
    ∀ row ∈ rows, row.length = columns.length := by
  induction h with
  | nil => exact nofun
  | cons hrow _ ih =>
    obtain ⟨pairs, -, hvalues⟩ := hrow
    exact List.forall_mem_cons.mpr ⟨hvalues.length_eq.symm, ih⟩

theorem forall₂_isRow_of_isReordered {records records' : List Record} {rows : List (List Value)}
    (h : List.Forall₂ (IsReordered mapping mapping') records records')
    (hrows : List.Forall₂ (IsRow mapping columns) records rows) :
    List.Forall₂ (IsRow mapping' columns) records' rows := by
  induction h generalizing rows with
  | nil => exact List.forall₂_nil_left_iff.mpr (List.forall₂_nil_left_iff.mp hrows)
  | cons h _ ih =>
    cases hrows with
    | cons hrow hrows => exact .cons (hrow.of_isReordered h) (ih hrows)

theorem FixesColumns.of_isReordered {lists : List (List String)} {records records' : List Record}
    (h : FixesColumns mapping lists records columns)
    (hfirst : lists = [] → records'.head?.map mapping' = records.head?.map mapping) :
    FixesColumns mapping' lists records' columns := by
  cases h with
  | listed h => exact .listed h
  | mapped h hne hnodup =>
    cases records' with
    | nil => cases hfirst rfl
    | cons first' rest' => exact .mapped ((Option.some_inj.mp (hfirst rfl)).trans h) hne hnodup

/-- No literal is refused for a count of values. -/
theorem literal_ne_argumentCount {d : Dialect} {v : Scalar} {expected got : Nat}
    {place : CountedPlace} : d.literal v ≠ .error (.argumentCount expected got place) := by
  have hdecimal {x : Decimal} :
      Dialect.decimalLiteral x ≠ .error (.argumentCount expected got place) := by
    cases x <;> exact nofun
  intro h
  cases v with
  | int n => cases (Dialect.eq_longNumber_of_intLiteral h).2
  | float x =>
    cases x with
    | finite negative significand exponent => exact hdecimal h
    | _ => cases h
  | decimal x => exact hdecimal h
  | text s =>
    rw [Dialect.literal, Dialect.stringLiteral] at h
    split at h <;> cases h
  | datetime t =>
    rw [Dialect.literal, Dialect.datetimeLiteral] at h
    split at h <;> cases h
  | _ => cases h

theorem exists_node_of_error_draft {d : Dialect} {v : Value} {expected got : Nat}
    {place : CountedPlace}
    (h : (v.draft d).error = some (.argumentCount expected got place)) :
    ∃ n, v = .node n ∧ n.render d false = .error (.argumentCount expected got place) := by
  have hmembers {members : List Value}
      (h : (Draft.ofMembers members).error = some (.argumentCount expected got place)) : False := by
    unfold Draft.ofMembers at h
    split at h
    · next e he =>
      obtain ⟨typeName, rule, rfl⟩ := Value.error_of_scalarMembers he
      cases h
    · cases h
    · cases h
  cases v with
  | node n =>
    refine ⟨n, rfl, ?_⟩
    rw [Value.draft, Draft.error_operand] at h
    rw [Node.render_binding, h]
  | scalar s => cases h
  | foreign name => cases h
  | collection kind members =>
    rw [Value.draft] at h
    exact (hmembers h).elim
  | mapping entries =>
    rw [Value.draft] at h
    exact (hmembers h).elim

/-- Rows that are as wide as the columns are never refused for their width, only a node in them
may be. -/
theorem exists_node_of_render {t : Insert} (hquery : t.query = none)
    (hwidths : ∀ row ∈ t.rows, row.length = t.columnNames.length) {d : Dialect} {inlining : Bool}
    {expected got : Nat}
    (h : (Node.insert t).render d inlining = .error (.argumentCount expected got .insertRow)) :
    ∃ n, .node n ∈ (Node.insert t).values ∧
      n.render d false = .error (.argumentCount expected got .insertRow) := by
  let E (e : Error) : Prop := e = .argumentCount expected got .insertRow →
    ∃ n, .node n ∈ (Node.insert t).values ∧ n.render d false = .error e
  have hvalues : ∀ v ∈ (Node.insert t).values, (v.draft d).Within E fun _ ↦ True := by
    refine fun v hv ↦ ⟨?_, fun _ _ ↦ trivial⟩
    rintro e he rfl
    obtain ⟨n, rfl, hn⟩ := exists_node_of_error_draft he
    exact ⟨n, hv, hn⟩
  have hwithin : ((Node.insert t).draft d).Within E fun _ ↦ True := by
    rw [Node.draft]
    refine within_draft (fun _ ↦ nofun) nofun nofun (fun _ ↦ nofun) nofun nofun
      (fun row hrow hwidth ↦ absurd (hwidths row hrow) hwidth) hvalues ?_
    rw [Node.parts, hquery]
    exact fun _ hm ↦ absurd hm List.not_mem_nil
  rcases Node.error_of_render h with herror | ⟨-, v, -, hliteral⟩
  · exact hwithin.error _ herror rfl
  · exact absurd hliteral literal_ne_argumentCount

/-- Every row has one value for each listed column, the last that the mapping pairs with it, and the
order of the pairs does not matter behind the first record. A record is refused for just the listed
columns that it lacks. Rows are never refused for their width, but for that of an insertion that
stands in them as a value. -/
theorem rows_line_up {lists : List (List String)} {records : List Record} {table : String}
    {mapper : Mapper} (hcolumns : FixesColumns mapping lists records columns)
    (h : applyAllBy mapping { table, mapper } (lists.map .columns ++ records.map .record) = .ok s) :
    s.columnNames = columns ∧
      List.Forall₂ (IsRow mapping columns) records s.rows ∧
      (∀ mapping' records', List.Forall₂ (IsReordered mapping mapping') records records' →
        (lists = [] → records'.head?.map mapping' = records.head?.map mapping) →
        applyAllBy mapping' { table, mapper } (lists.map .columns ++ records'.map .record) =
          .ok s) ∧
      (∀ r pairs, mapping r = .ok pairs → ∀ e,
        s.applyBy mapping (.record r) = .error e ↔
          missing columns pairs ≠ [] ∧ e = .missingColumns (missing columns pairs)) ∧
      ∀ t : Insert, t.columnNames = s.columnNames → t.rows = s.rows → t.query = none →
        ∀ d inlining expected got,
          (Node.insert t).render d inlining = .error (.argumentCount expected got .insertRow) →
          ∃ n, .node n ∈ (Node.insert t).values ∧
            n.render d false = .error (.argumentCount expected got .insertRow) := by
  obtain ⟨rows, hrows, rfl⟩ := hcolumns.applyAllBy_iff.mp h
  refine ⟨rfl, hrows, ?_, ?_, ?_⟩
  · intro mapping' records' hreordered hfirst
    refine (hcolumns.of_isReordered hfirst).applyAllBy_iff.mpr ⟨rows, ?_, rfl⟩
    exact forall₂_isRow_of_isReordered hreordered hrows
  · intro r pairs hpairs e
    rw [applyBy, addRecord, hpairs]
    exact addPairs_eq_error_iff hcolumns.ne_nil
  · intro t htcolumns htrows hquery d inlining expected got
    refine exists_node_of_render hquery fun row hrow ↦ ?_
    rw [htrows] at hrow
    rw [htcolumns]
    exact forall_length_of_isRow hrows row hrow

/-- The first record gives the columns. The second has them in another order, and one that is not
listed; a third lacks one of them. -/
theorem rows_line_up_of_reversed_record :
    let v (n : Int) : Value := .scalar (.int n)
    let record (pairs : List (String × Value)) : Record :=
      .value (.mapping (pairs.map fun (c, v) ↦ (.scalar (.text c), v)))
    let mapping := Mapper.declared.pairs
    let records : List Record :=
      [record [("a", v 1), ("b", v 2)], record [("c", v 9), ("b", v 4), ("a", v 3)]]
    ∃ s, applyAllBy mapping { table := "t" } (records.map .record) = .ok s ∧
      s.columnNames = ["a", "b"] ∧ s.rows = [[v 1, v 2], [v 3, v 4]] ∧
      s.applyBy mapping (.record (record [("a", v 5), ("c", v 6)])) =
        .error (.missingColumns ["b"]) := by
  intro v record mapping records
  let s : Insert :=
    { table := "t"
      columnNames := ["a", "b"]
      rows := [[v 1, v 2], [v 3, v 4]] }
  have hfirst : mapping (record [("a", v 1), ("b", v 2)]) = .ok [("a", v 1), ("b", v 2)] := rfl
  have hcolumns : FixesColumns mapping [] records ["a", "b"] :=
    .mapped hfirst (by simp) (by simp)
  have hs : applyAllBy mapping { table := "t" } ([].map .columns ++ records.map .record) = .ok s :=
    rfl
  obtain ⟨hnames, -, -, hmissing, -⟩ := rows_line_up hcolumns hs
  refine ⟨s, hs, hnames, rfl, ?_⟩
  refine (hmissing _ [("a", v 5), ("c", v 6)] rfl _).mpr ⟨?_, rfl⟩
  exact List.cons_ne_nil _ _

/-- A row that lines up may hold an insertion whose own row does not. -/
theorem not_forall_render_ne_argumentCount :
    ¬∀ (mapping : Mapping) (lists : List (List String)) (records : List Record)
      (columns : List String) (table : String) (mapper : Mapper) (s : Insert),
      FixesColumns mapping lists records columns →
        applyAllBy mapping { table, mapper } (lists.map .columns ++ records.map .record) = .ok s →
          ∀ (d : Dialect) (inlining : Bool) (expected got : Nat),
            (Node.insert s).render d inlining ≠
              .error (.argumentCount expected got .insertRow) := by
  intro h
  let short : Node := .insert
    { table := "u"
      columnNames := ["x", "y"]
      rows := [[.scalar (.int 1)]] }
  let record : Record := .value (.mapping [(.scalar (.text "a"), .node short)])
  let s : Insert :=
    { table := "t"
      columnNames := ["a"]
      rows := [[.node short]] }
  have hcolumns : FixesColumns Mapper.declared.pairs [["a"]] [record] ["a"] :=
    .listed (List.cons_ne_nil _ _)
  have hs : applyAllBy Mapper.declared.pairs { table := "t" }
      ([["a"]].map .columns ++ [record].map .record) = .ok s := rfl
  have hrender : (Node.insert s).render .sqlite false =
      .error (.argumentCount 2 1 .insertRow) := by cbv
  exact h _ _ _ _ _ _ _ hcolumns hs .sqlite false 2 1 hrender

end SqlRender.Insert
