import Mathlib
import SqlRender.Dialect.Builtin
import SqlRender.Proofs.LastPaired
import SqlRender.Proofs.Session.Calls
import SqlRender.Proofs.Session.LifeCycle

namespace SqlRender.Session

namespace Row

theorem lookup_cons (name key : String) (v : Value) (row : Row) :
    List.lookup key ((name, v) :: row) = if key = name then some v else row.lookup key := by
  rw [List.lookup_cons]
  by_cases hkey : key = name
  · rw [beq_iff_eq.mpr hkey, if_pos hkey]
  · rw [beq_false_of_ne hkey, if_neg hkey]

theorem lookup_insert (name key : String) (v : Value) (row : Row) :
    (row.insert name v).lookup key = if key = name then some v else row.lookup key := by
  induction row with
  | nil => exact lookup_cons name key v []
  | cons entry rest ih =>
    rw [Row.insert]
    split
    · next hfirst =>
      rw [hfirst, lookup_cons, lookup_cons, hfirst]
      split <;> rfl
    · next hfirst =>
      rw [lookup_cons, lookup_cons, ih]
      by_cases hkey : key = entry.1
      · rw [if_pos hkey, if_pos hkey, if_neg (hkey ▸ hfirst)]
      · rw [if_neg hkey, if_neg hkey]

def insertAll (row : Row) (pairs : List (String × Value)) : Row :=
  pairs.foldl (fun row (name, v) ↦ row.insert name v) row

theorem insertAll_cons (row : Row) (name : String) (v : Value) (pairs : List (String × Value)) :
    row.insertAll ((name, v) :: pairs) = (row.insert name v).insertAll pairs := rfl

theorem lookup_insertAll (row : Row) (pairs : List (String × Value)) (key : String) :
    (row.insertAll pairs).lookup key = (pairs.reverse.lookup key).or (row.lookup key) := by
  induction pairs generalizing row with
  | nil => rfl
  | cons pair pairs ih =>
    rw [insertAll_cons, ih, lookup_insert, List.reverse_cons, List.lookup_append, Option.or_assoc,
      lookup_cons]
    split <;> rfl

/-- What is inserted later takes the first value, but never the first place. -/
theorem exists_insertAll_cons (name : String) (v : Value) (row : Row)
    (pairs : List (String × Value)) :
    ∃ w rest, insertAll ((name, v) :: row) pairs = (name, w) :: rest := by
  induction pairs generalizing v row with
  | nil => exact ⟨v, row, rfl⟩
  | cons pair pairs ih =>
    rw [insertAll_cons, Row.insert]
    split
    · exact ih pair.2 row
    · exact ih v (row.insert pair.1 pair.2)

/-- Every name gives the value of the last column of that name, and no others are in the record. -/
def IsLastOf (names : List String) (values : List Value) (record : Row) : Prop :=
  ∀ name v, record.lookup name = some v ↔ LastPaired (names.zip values) name v

/-- Every column is read by its name. -/
def Reads (names : List String) (values : List Value) (record : Row) : Prop :=
  ∀ column ∈ names.zip values, record.lookup column.1 = some column.2

variable {names : List String} {values : List Value} {record : Row}

theorem isLastOf_insertAll (names : List String) (values : List Value) :
    IsLastOf names values (insertAll [] (names.zip values)) := by
  intro name v
  rw [lookup_insertAll, List.lookup_nil, Option.or_none, lookup_reverse_eq_some_iff]

/-- Of columns with one name only one can be read, so nothing is lost just where they agree. -/
theorem IsLastOf.reads_iff (h : IsLastOf names values record) :
    Reads names values record ↔
      ∀ column ∈ names.zip values, ∀ other ∈ names.zip values,
        column.1 = other.1 → column.2 = other.2 := by
  constructor
  · intro hreads column hcolumn other hother hname
    have hvalue := hreads column hcolumn
    rw [hname, hreads other hother] at hvalue
    exact (Option.some_inj.mp hvalue).symm
  · intro hagree column hcolumn
    obtain ⟨v, hlast⟩ := LastPaired.exists_of_mem hcolumn
    rw [(h column.1 v).mpr hlast, hagree column hcolumn (column.1, v) hlast.mem rfl]

end Row

theorem rowsOf_of_width {names : List String} {rows : List (List Value)}
    (hwidth : ∀ values ∈ rows, values.length = names.length) :
    rowsOf names rows = .ok (rows.map fun values ↦ Row.insertAll [] (names.zip values)) := by
  induction rows with
  | nil => rfl
  | cons values rows ih =>
    obtain ⟨hvalues, hrows⟩ := List.forall_mem_cons.mp hwidth
    have hrow : Row.ofNames? names values = .ok (Row.insertAll [] (names.zip values)) := by
      rw [Row.ofNames?, if_neg hvalues.not_lt, if_neg hvalues.not_gt]
      rfl
    rw [rowsOf, hrow, ih hrows]
    rfl

/-- The statement is executed as it is rendered, and answered by columns and rows. -/
inductive Delivers {σ : Type} (db : Database σ) (r : Rendered) (state : σ) :
    List String → List (List Value) → Prop
  | intro {opened reply fetched closed : Reply} {state₁ state₂ state₃ state₄ : σ}
    (hcursor : db.respond .cursor state = (.ok opened, state₁))
    (hexecute : db.respond (.execute r.sql r.params?) state₁ = (.ok reply, state₂))
    (hfetchall : db.respond .fetchall state₂ = (.ok fetched, state₃))
    (hclose : db.respond .close state₃ = (.ok closed, state₄)) :
    Delivers db r state reply.columns fetched.rows

variable {σ : Type} {db : Database σ} {config : Config} {n : Node} {r : Rendered}
  {ws : List Warning} {c : Connection σ}

/-- The check of what was rendered leaves the database alone. -/
theorem exists_render_of_ok (h : prepare config n = .ok (r, ws)) (c : Connection σ) :
    ∃ c', render config n c = (.ok r, c') ∧ c'.state = c.state := by
  have hprepared : Run.ofExcept (prepare config n) c = (.ok (r, ws), c) := by
    rw [h]
    rfl
  rw [render, Run.bind_of_ok hprepared]
  exact ⟨_, rfl, rfl⟩

theorem exists_execute_of_ok (hprepare : prepare config n = .ok (r, ws)) {reply : Reply}
    {state : σ} (hexecute : db.respond (.execute r.sql r.params?) c.state = (.ok reply, state)) :
    ∃ c', execute db config false n c = (.ok reply, c') ∧ c'.state = state := by
  obtain ⟨c', hrendered, hstate⟩ := exists_render_of_ok hprepare c
  rw [← hstate] at hexecute
  exact ⟨_, (Run.bind_of_ok hrendered _).trans (Run.call_of_ok hexecute), rfl⟩

theorem load_of_delivers {names : List String} {rows : List (List Value)}
    (hprepare : prepare config n = .ok (r, ws))
    (hdelivers : Delivers db r c.state names rows) :
    (load db config false n c).1 = rowsOf names rows := by
  cases hdelivers with
  | @intro opened reply fetched closed state₁ state₂ state₃ state₄ hcursor hexecute hfetchall
      hclose =>
    obtain ⟨c₂, hexecuted, rfl⟩ : ∃ c₂, execute db config false n
        { c with state := state₁, events := c.events ++ [⟨.cursor, true⟩] } = (.ok reply, c₂) ∧
          c₂.state = state₂ :=
      exists_execute_of_ok hprepare hexecute
    obtain ⟨c₃, hfetched, rfl⟩ : ∃ c₃, Run.call db .fetchall c₂ = (.ok fetched, c₃) ∧
        c₃.state = state₃ :=
      ⟨_, Run.call_of_ok hfetchall, rfl⟩
    refine withCursor_of_ok hcursor ?_ hclose
    rw [Run.bind_of_ok hexecuted, Run.bind_of_ok hfetched, Run.ofExcept_apply]

/-- Rows are read by the names of their columns, and of columns with one name the last one is read,
by `loadValue` too, which takes the first place of the first row. -/
theorem load_reads_last_of_name {name : String} {names : List String} {v : Value}
    {values : List Value} {rest : List (List Value)}
    (hprepare : prepare config n = .ok (r, ws))
    (hdelivers : Delivers db r c.state (name :: names) ((v :: values) :: rest))
    (hwidth : ∀ row ∈ (v :: values) :: rest, row.length = (name :: names).length) :
    ∃ record records w,
      (load db config false n c).1 = .ok (record :: records) ∧
      (loadOne db config false n c).1 = .ok record ∧
      (loadValue db config false n c).1 = .ok w ∧
      LastPaired ((name, v) :: names.zip values) name w ∧ (name ∉ names → w = v) ∧
      List.Forall₂ (fun row record ↦ Row.IsLastOf (name :: names) row record ∧
        (Row.Reads (name :: names) row record ↔
          ∀ column ∈ (name :: names).zip row, ∀ other ∈ (name :: names).zip row,
            column.1 = other.1 → column.2 = other.2))
        ((v :: values) :: rest) (record :: records) := by
  let ofValues (row : List Value) : Row := Row.insertAll [] ((name :: names).zip row)
  have hload : (load db config false n c).1 =
      .ok (ofValues (v :: values) :: rest.map ofValues) :=
    (load_of_delivers hprepare hdelivers).trans (rowsOf_of_width hwidth)
  have hloadOne : (loadOne db config false n c).1 = .ok (ofValues (v :: values)) := by
    obtain ⟨c', hc⟩ := Run.exists_bind_of_ok hload _
    exact congrArg Prod.fst hc
  obtain ⟨w, behind, hfirst⟩ := Row.exists_insertAll_cons name v [] (names.zip values)
  have hfirst : ofValues (v :: values) = (name, w) :: behind := hfirst
  have hloadValue : (loadValue db config false n c).1 = .ok w := by
    obtain ⟨c', hc⟩ := Run.exists_bind_of_ok (hfirst ▸ hloadOne) _
    exact congrArg Prod.fst hc
  have hlast : LastPaired ((name, v) :: names.zip values) name w := by
    refine (Row.isLastOf_insertAll (name :: names) (v :: values) name w).mp ?_
    rw [show Row.insertAll [] _ = _ from hfirst, List.lookup_cons_self]
  refine ⟨_, _, w, hload, hloadOne, hloadValue, hlast, ?_, ?_⟩
  · intro hname
    refine hlast.unique ⟨[], names.zip values, rfl, ?_⟩
    intro hmem
    obtain ⟨⟨_, u⟩, hcolumn, rfl⟩ := List.mem_map.mp hmem
    exact hname (List.of_mem_zip hcolumn).1
  · rw [← List.map_cons, List.forall₂_map_right_iff, List.forall₂_same]
    intro row _
    have h : Row.IsLastOf (name :: names) row (ofValues row) := Row.isLastOf_insertAll _ row
    exact ⟨h, h.reads_iff⟩

theorem load_reads_last_of_name_of_join :
    let config : Config := { dialect := .sqlite, inlining := false }
    let v (k : Int) : Value := .scalar (.int k)
    let on : Node := .verbatim "q.p = p.id"
    let joined : Node := .select
      { columns := [.verbatim "*"]
        source := some (.ident "p")
        joins := [⟨.inner, .ident "q", "", on⟩] }
    let reply : Reply :=
      { columns := ["id", "id", "p"]
        rows := [[v 1, v 7, v 1], [v 2, v 2, v 2]] }
    let c : Connection Script := { state := { replies := [.ok reply] } }
    ∃ r, prepare config joined = .ok (r, []) ∧
      Delivers Script.database r c.state reply.columns reply.rows ∧
      (∀ row ∈ reply.rows, row.length = reply.columns.length) ∧
      (loadValue Script.database config false joined c).1 = .ok (v 7) := by
  intro config v on joined reply c
  have hprepare : prepare config joined =
      .ok (⟨"SELECT * FROM \"p\" INNER JOIN \"q\" ON q.p = p.id", []⟩, []) := by cbv
  have hdelivers (r : Rendered) : Delivers Script.database r c.state reply.columns reply.rows :=
    .intro rfl rfl rfl rfl
  have hwidth : ∀ row ∈ reply.rows, row.length = reply.columns.length := by simp [reply]
  obtain ⟨-, -, w, -, -, hw, hlast, -⟩ := load_reads_last_of_name hprepare (hdelivers _) hwidth
  obtain rfl : w = v 7 := hlast.unique ⟨[("id", v 1)], [("p", v 1)], rfl, by simp⟩
  exact ⟨_, hprepare, hdelivers _, hwidth, hw⟩

theorem not_forall_loadValue_eq_first :
    ¬∀ (config : Config) (n : Node) (r : Rendered) (ws : List Warning) (c : Connection Script)
      (name : String) (names : List String) (v : Value) (values : List Value)
      (rest : List (List Value)),
      prepare config n = .ok (r, ws) →
        Delivers Script.database r c.state (name :: names) ((v :: values) :: rest) →
          (∀ row ∈ (v :: values) :: rest, row.length = (name :: names).length) →
            (loadValue Script.database config false n c).1 = .ok v := by
  intro h
  let config : Config := { dialect := .sqlite, inlining := false }
  let v (k : Int) : Value := .scalar (.int k)
  let twice : Node := .select
    { columns := [.verbatim "a", .verbatim "a"]
      source := some (.ident "t") }
  let reply : Reply :=
    { columns := ["a", "a"]
      rows := [[v 1, v 2]] }
  let c : Connection Script := { state := { replies := [.ok reply] } }
  have hprepare : prepare config twice = .ok (⟨"SELECT a, a FROM \"t\"", []⟩, []) := by cbv
  have hdelivers : Delivers Script.database ⟨"SELECT a, a FROM \"t\"", []⟩ c.state reply.columns
      reply.rows := .intro rfl rfl rfl rfl
  have hwidth : ∀ row ∈ reply.rows, row.length = reply.columns.length := by simp [reply]
  have hfirst := h config twice _ _ c _ _ _ _ _ hprepare hdelivers hwidth
  have hsecond : (loadValue Script.database config false twice c).1 = .ok (v 2) := by cbv
  have heq : v 1 = v 2 := Except.ok.inj (hfirst.symm.trans hsecond)
  simp [v] at heq

end SqlRender.Session
