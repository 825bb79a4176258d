import Mathlib
import SqlRender.Dialect.Builtin
import SqlRender.Proofs.Session.Discipline

namespace SqlRender.Session

variable {σ α : Type}

section Run

variable {db : Database σ} {config : Config}

theorem Run.call_of_ok {k : Call} {c : Connection σ} {reply : Reply} {state : σ}
    (h : db.respond k c.state = (.ok reply, state)) :
    Run.call db k c = (.ok reply, { c with state, events := c.events ++ [⟨k, true⟩] }) := by
  rw [Run.call, h]

theorem Run.call_of_error {k : Call} {c : Connection σ} {text : String} {state : σ}
    (h : db.respond k c.state = (.error text, state)) :
    Run.call db k c = (.error (.database text),
      { c with state, events := c.events ++ [⟨k, false⟩] }) := by
  rw [Run.call, h]

theorem withCursor_of_ok {body : Run σ α} {r : Except Failure α} {c c' : Connection σ}
    {opened closed : Reply} {state state' : σ}
    (hcursor : db.respond .cursor c.state = (.ok opened, state))
    (hbody : body { c with state, events := c.events ++ [⟨.cursor, true⟩] } = (r, c'))
    (hclose : db.respond .close c'.state = (.ok closed, state')) :
    (withCursor db body c).1 = r := by
  have hclosed : (do let _ ← Run.call db .close : Run σ Unit) c' = (.ok (), _) :=
    Run.bind_of_ok (Run.call_of_ok hclose) _
  show ((Run.call db .cursor >>= fun _ ↦ Run.ensure body _) c).1 = r
  rw [Run.bind_of_ok (Run.call_of_ok hcursor), Run.ensure_of_ok hbody hclosed]

/-- A body that asks nothing of its cursor. -/
theorem withCursor_of_silent {body : Run σ α} {r : Except Failure α}
    (hbody : ∀ c, body c = (r, c)) {c : Connection σ} {opened closed : Reply} {state state' : σ}
    (hcursor : db.respond .cursor c.state = (.ok opened, state))
    (hclose : db.respond .close state = (.ok closed, state')) : (withCursor db body c).1 = r :=
  withCursor_of_ok hcursor (hbody _) hclose

theorem execute_of_done (n : Node) (c : Connection σ) :
    execute db config true n c = (.error .transactionDone, c) := rfl

/-- Nothing is done with a statement of a transaction that is done. -/
theorem runData_of_done {op : DataOp} (hop : ∀ n, op ≠ .render n) {c : Connection σ}
    {opened closed : Reply} {state state' : σ}
    (hcursor : db.respond .cursor c.state = (.ok opened, state))
    (hclose : db.respond .close state = (.ok closed, state')) :
    (runData db config true op c).1 = .error .transactionDone := by
  have hfailed {α β : Type} {m : Run σ α} (f : α → Run σ β)
      (h : (m c).1 = .error .transactionDone) : ((m >>= f) c).1 = .error .transactionDone := by
    rcases hm : m c with ⟨r, c'⟩
    rw [hm] at h
    obtain rfl : r = .error .transactionDone := h
    rw [Run.bind_of_error hm]
  have hbody {α : Type} (f : Reply → Run σ α) (n : Node) (c : Connection σ) :
      (execute db config true n >>= f) c = (.error .transactionDone, c) :=
    Run.bind_of_error (execute_of_done n c) f
  have hload (n : Node) : (load db config true n c).1 = .error .transactionDone :=
    withCursor_of_silent (hbody _ n) hcursor hclose
  cases op with
  | exec n => exact withCursor_of_silent (hbody _ n) hcursor hclose
  | load n => exact hfailed _ (hload n)
  | loadOne n => exact hfailed _ (hfailed _ (hload n))
  | loadValue n => exact hfailed _ (hfailed _ (hfailed _ (hload n)))
  | render n => exact absurd rfl (hop n)

theorem runTransaction_of_end? {op : TransactionOp} {k : Call} (h : op.end? = some k) :
    runTransaction db config false op = finish db false k := by
  cases op with
  | commit => cases h; rfl
  | rollback => cases h; rfl
  | rollbackUnlessCommitted => cases h; rfl
  | leave isFailing => cases h; rfl
  | data => cases h
  | isDone => cases h
  | raise => cases h

theorem finish_of_ok {k : Call} {c : Connection σ} {reply : Reply} {state : σ}
    (h : db.respond k c.state = (.ok reply, state)) :
    finish db false k c =
      ((.ok .nothing, true), { c with state, events := c.events ++ [⟨k, true⟩] }) := by
  simp only [finish, Run.call_of_ok h]
  rfl

theorem finish_of_error {k : Call} {c : Connection σ} {text : String} {state : σ}
    (h : db.respond k c.state = (.error text, state)) :
    finish db false k c =
      ((.error (.database text), false),
        { c with state, events := c.events ++ [⟨k, false⟩] }) := by
  simp only [finish, Run.call_of_error h]
  rfl

end Run

namespace State

variable (db : Database σ) (config : Config)

/-- A transaction that was committed or rolled back. -/
structure IsOver (s : State σ) (t : String) : Prop where
  isDone : s.step db config (.transaction t .isDone) = (.ok (.isDone true), s)
  commit : s.step db config (.transaction t .commit) = (.error .transactionDone, s)
  rollback : s.step db config (.transaction t .rollback) = (.error .transactionDone, s)
  rollbackUnlessCommitted :
    s.step db config (.transaction t .rollbackUnlessCommitted) = (.ok .nothing, s)
  leave : ∀ isFailing, s.step db config (.transaction t (.leave isFailing)) = (.ok .nothing, s)
  data : ∀ op, (∀ n, op ≠ .render n) → ∀ opened closed state state',
    db.respond .cursor s.connection.state = (.ok opened, state) →
      db.respond .close state = (.ok closed, state') →
        (s.step db config (.transaction t (.data op))).1 = .error .transactionDone
  later : ∀ steps, (∀ step ∈ steps, step ≠ .begin t) →
    (s.run db config steps).transactions.lookup t = some true ∧
      ∀ e ∈ s.eventsOn db config t steps, e.call = .cursor ∨ e.call = .close

/-- A transaction that was not ended. A call to end it is made, and decides on it. -/
structure IsOpen (s : State σ) (t : String) : Prop where
  isDone : s.step db config (.transaction t .isDone) = (.ok (.isDone false), s)
  event : ∀ op k, op.end? = some k → s.newEvents db config (.transaction t op) =
    [⟨k, (db.respond k s.connection.state).1.isOk⟩]
  result : ∀ op k, op.end? = some k → (s.step db config (.transaction t op)).1 =
    match (db.respond k s.connection.state).1 with
    | .ok _ => .ok .nothing
    | .error text => .error (.database text)
  lookup : ∀ op k, op.end? = some k →
    (s.step db config (.transaction t op)).2.transactions.lookup t =
      some (db.respond k s.connection.state).1.isOk

variable {db config}

theorem step_of_silent {s : State σ} {t : String} {isDone : Bool}
    (hs : s.transactions.lookup t = some isDone) {op : TransactionOp}
    {r : Except Failure Result}
    (hop : runTransaction db config isDone op s.connection = ((r, isDone), s.connection)) :
    s.step db config (.transaction t op) = (r, s) := by
  rw [step_transaction db config hs hop, setDone_of_lookup hs]

theorem lookup_run_of_done {s : State σ} {t : String} (hs : s.transactions.lookup t = some true)
    {steps : List (Step σ)} (hfresh : ∀ step ∈ steps, step ≠ .begin t) :
    (s.run db config steps).transactions.lookup t = some true := by
  obtain ⟨done, hdone, hkept⟩ := lookup_run db config hs hfresh
  rw [hdone, hkept rfl]

theorem calls_of_done_transaction {s : State σ} {t : String}
    (hs : s.transactions.lookup t = some true) (op : TransactionOp) :
    ∀ e ∈ s.newEvents db config (.transaction t op), e.call = .cursor ∨ e.call = .close := by
  have h : Undertakes config true op (s.newEvents db config (.transaction t op)) :=
    undertakes_of_lookup hs op
  intro e he
  generalize s.newEvents db config (.transaction t op) = es at h he
  cases h with
  | handled _ h => exact h.calls_of_done e he
  | silent => cases he
  | ended hopen => cases hopen

theorem calls_run_of_done {s : State σ} {t : String} (hs : s.transactions.lookup t = some true)
    {steps : List (Step σ)} (hsteps : ∀ step ∈ steps, ∃ op, step = .transaction t op) :
    ∀ e ∈ s.runEvents db config steps, e.call = .cursor ∨ e.call = .close := by
  induction steps generalizing s with
  | nil =>
    have hnil : s.runEvents db config [] = [] := List.drop_length
    rw [hnil]
    exact fun _ he ↦ absurd he List.not_mem_nil
  | cons step steps ih =>
    obtain ⟨⟨op, rfl⟩, hrest⟩ := List.forall_mem_cons.mp hsteps
    have hfresh : ∀ step ∈ [(.transaction t op : Step σ)], step ≠ .begin t := by simp
    have hs' : (s.step db config (.transaction t op)).2.transactions.lookup t = some true :=
      lookup_run_of_done hs hfresh
    rw [runEvents_cons, List.forall_mem_append]
    exact ⟨calls_of_done_transaction hs op, ih hs' hrest⟩

theorem calls_of_done {s : State σ} {t : String} (hs : s.transactions.lookup t = some true)
    {step : Step σ} (hon : step.on? = some t) :
    ∀ e ∈ s.newEvents db config step, e.call = .cursor ∨ e.call = .close := by
  cases step with
  | transaction u op =>
    cases hon
    exact calls_of_done_transaction hs op
  | block u ops =>
    cases hon
    obtain ⟨performed, isFailing, -, -, hrun⟩ := exists_run_of_block db config s t ops
    rw [newEvents_block db config hrun]
    apply calls_run_of_done hs
    intro step hstep
    obtain hstep | hstep := List.mem_append.mp hstep
    · obtain ⟨op, -, rfl⟩ := List.mem_map.mp hstep
      exact ⟨op, rfl⟩
    · exact ⟨_, List.mem_singleton.mp hstep⟩
  | data => cases hon
  | begin => cases hon
  | outside => cases hon

theorem calls_eventsOn_of_done {s : State σ} {t : String}
    (hs : s.transactions.lookup t = some true) {steps : List (Step σ)}
    (hfresh : ∀ step ∈ steps, step ≠ .begin t) :
    ∀ e ∈ s.eventsOn db config t steps, e.call = .cursor ∨ e.call = .close := by
  induction steps generalizing s with
  | nil => exact fun _ he ↦ absurd he List.not_mem_nil
  | cons step steps ih =>
    obtain ⟨hstep, hrest⟩ := List.forall_mem_cons.mp hfresh
    have hs' : (s.step db config step).2.transactions.lookup t = some true :=
      lookup_run_of_done hs (List.forall_mem_singleton.mpr hstep)
    rw [eventsOn, List.forall_mem_append]
    refine ⟨?_, ih hs' hrest⟩
    split
    · next hon => exact calls_of_done hs hon
    · exact fun _ he ↦ absurd he List.not_mem_nil

theorem isOver_of_lookup {s : State σ} {t : String} (hs : s.transactions.lookup t = some true) :
    s.IsOver db config t where
  isDone := step_of_silent hs rfl
  commit := step_of_silent hs rfl
  rollback := step_of_silent hs rfl
  rollbackUnlessCommitted := step_of_silent hs rfl
  leave _ := step_of_silent hs rfl
  data := by
    intro op hop opened closed state state' hcursor hclose
    rw [step, runOn_of_lookup hs]
    exact runData_of_done hop hcursor hclose
  later steps hfresh := ⟨lookup_run_of_done hs hfresh, calls_eventsOn_of_done hs hfresh⟩

theorem isOpen_of_lookup {s : State σ} {t : String} (hs : s.transactions.lookup t = some false) :
    s.IsOpen db config t := by
  have hend (op : TransactionOp) (k : Call) (hop : op.end? = some k) :
      s.newEvents db config (.transaction t op) =
          [⟨k, (db.respond k s.connection.state).1.isOk⟩] ∧
        ((s.step db config (.transaction t op)).1 =
          match (db.respond k s.connection.state).1 with
          | .ok _ => .ok .nothing
          | .error text => .error (.database text)) ∧
        (s.step db config (.transaction t op)).2.transactions.lookup t =
          some (db.respond k s.connection.state).1.isOk := by
    rcases hrespond : db.respond k s.connection.state with ⟨outcome, state⟩
    cases outcome with
    | ok reply =>
      have hstep := step_transaction db config hs
        (runTransaction_of_end? hop ▸ finish_of_ok hrespond)
      refine ⟨newEvents_eq ?_, ?_, ?_⟩
      · rw [hstep]
        rfl
      · rw [hstep]
      · rw [hstep]
        exact lookup_setDone_self hs true
    | error text =>
      have hstep := step_transaction db config hs
        (runTransaction_of_end? hop ▸ finish_of_error hrespond)
      refine ⟨newEvents_eq ?_, ?_, ?_⟩
      · rw [hstep]
        rfl
      · rw [hstep]
      · rw [hstep]
        exact lookup_setDone_self hs false
  exact
    { isDone := step_of_silent hs rfl
      event := fun op k hop ↦ (hend op k hop).1
      result := fun op k hop ↦ (hend op k hop).2.1
      lookup := fun op k hop ↦ (hend op k hop).2.2 }

/-- A transaction is done by the first of its commits and rollbacks that succeeds, and by nothing
else. From then on it leaves the connection alone, but for the cursors of statements that are
refused. Until then each call to end it is made. -/
theorem life_cycle {s : State σ} {t : String} {steps : List (Step σ)}
    (hopen : s.transactions.lookup t = some false) (hfresh : ∀ step ∈ steps, step ≠ .begin t) :
    let own := s.eventsOn db config t steps
    let s' := s.run db config steps
    s'.transactions.lookup t = some (own.any Event.settles) ∧
      own.countP Event.settles ≤ 1 ∧
      (own.any Event.settles = true → s'.IsOver db config t) ∧
      (own.any Event.settles = false → s'.IsOpen db config t) := by
  intro own s'
  obtain ⟨done, hdone, hcount⟩ := lookup_run_eventsOn db config hopen hfresh
  change done.toNat = 0 + own.countP Event.settles at hcount
  have hany : own.any Event.settles = done := by
    cases done with
    | false =>
      rw [List.any_eq_false]
      exact List.countP_eq_zero.mp (by simpa using hcount.symm)
    | true =>
      rw [List.any_eq_true]
      refine List.countP_pos_iff.mp ?_
      rw [Bool.toNat_true] at hcount
      omega
  refine ⟨hany ▸ hdone, ?_, ?_, ?_⟩
  · have hle := Bool.toNat_le done
    omega
  · intro h
    exact isOver_of_lookup (h ▸ hany ▸ hdone)
  · intro h
    exact isOpen_of_lookup (h ▸ hany ▸ hdone)

theorem life_cycle_of_failed_commit :
    let config : Config := { dialect := .sqlite, inlining := false }
    let delete : DataOp := .exec (.delete { table := "p" })
    let s : State Script := State.run Script.database config
      { connection := { state := { commitFailure := some "commit failed" } } } [.begin "t"]
    let steps : List (Step Script) :=
      [.transaction "t" (.data delete), .transaction "t" .commit, .transaction "t" .rollback]
    let s' := s.run Script.database config steps
    s.transactions.lookup "t" = some false ∧ (∀ step ∈ steps, step ≠ .begin "t") ∧
      s.eventsOn Script.database config "t" steps =
        [⟨.cursor, true⟩, ⟨.execute "DELETE FROM \"p\"" none, true⟩, ⟨.close, true⟩,
          ⟨.commit, false⟩, ⟨.rollback, true⟩] ∧
      s'.transactions.lookup "t" = some true ∧
      (s'.step Script.database config (.transaction "t" (.data delete))).1 =
        .error .transactionDone := by
  intro config delete s steps s'
  have hopen : s.transactions.lookup "t" = some false := by cbv
  have hfresh : ∀ step ∈ steps, step ≠ .begin "t" := by simp [steps]
  have hown : s.eventsOn Script.database config "t" steps =
      [⟨.cursor, true⟩, ⟨.execute "DELETE FROM \"p\"" none, true⟩, ⟨.close, true⟩,
        ⟨.commit, false⟩, ⟨.rollback, true⟩] := by cbv
  obtain ⟨hlookup, -, hover, -⟩ := @life_cycle _ Script.database config _ _ _ hopen hfresh
  refine ⟨hopen, hfresh, hown, ?_, ?_⟩
  · rw [hlookup, hown]
    rfl
  · have hdelete (n : Node) : delete ≠ .render n := by simp [delete]
    refine (hover ?_).data delete hdelete _ _ _ _ rfl rfl
    rw [hown]
    rfl

end State

end SqlRender.Session
