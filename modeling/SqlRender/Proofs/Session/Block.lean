import SqlRender.Proofs.Session.Ledger

namespace SqlRender.Session.State

variable {σ : Type}

theorem setDone_setDone (t : String) (done done' : Bool) (ts : List (String × Bool)) :
    setDone t done' (setDone t done ts) = setDone t done' ts := by
  induction ts with
  | nil => rfl
  | cons entry rest ih =>
    obtain ⟨u, isDone⟩ := entry
    by_cases hut : u = t
    · rw [setDone, if_pos hut, setDone, if_pos hut, setDone, if_pos hut]
    · rw [setDone, if_neg hut, setDone, if_neg hut, setDone, if_neg hut, ih]

variable (db : Database σ) (config : Config)

theorem step_transaction {s : State σ} {t : String} {isDone : Bool}
    (hs : s.transactions.lookup t = some isDone) {op : TransactionOp}
    {r : Except Failure Result} {done : Bool} {c : Connection σ}
    (hop : runTransaction db config isDone op s.connection = ((r, done), c)) :
    s.step db config (.transaction t op) = (r, ⟨c, setDone t done s.transactions⟩) := by
  rw [step, runOn_of_lookup hs, hop]

/-- Operations in order are steps in order, up to the first that fails. -/
theorem exists_run_of_runAll {s : State σ} {t : String} {isDone : Bool}
    (hs : s.transactions.lookup t = some isDone) (ops : List TransactionOp) :
    ∃ performed, performed <+: ops ∧
      ((runAll db config isDone ops s.connection).1.1.isOk = true → performed = ops) ∧
      s.run db config (performed.map (.transaction t)) =
        ⟨(runAll db config isDone ops s.connection).2,
          setDone t (runAll db config isDone ops s.connection).1.2 s.transactions⟩ := by
  induction ops generalizing s isDone with
  | nil =>
    refine ⟨[], List.nil_prefix, fun _ ↦ rfl, ?_⟩
    simp only [runAll, setDone_of_lookup hs]
    rfl
  | cons op rest ih =>
    rcases hop : runTransaction db config isDone op s.connection with ⟨⟨r, done⟩, c⟩
    have hstep := step_transaction db config hs hop
    cases r with
    | error e =>
      refine ⟨[op], List.prefix_append [op] rest, ?_, ?_⟩
      · simp only [runAll, hop]
        exact fun h ↦ absurd h Bool.false_ne_true
      · simp only [runAll, hop, List.map_cons, List.map_nil, run_cons, hstep]
        rfl
    | ok result =>
      obtain ⟨performed, hperformed, hall, hrun⟩ :=
        ih (s := ⟨c, setDone t done s.transactions⟩) (lookup_setDone_self hs done)
      refine ⟨op :: performed, List.prefix_cons_inj op |>.mpr hperformed, ?_, ?_⟩
      · simp only [runAll, hop]
        intro h
        rw [hall ?_]
        rcases hrest : runAll db config done rest c with ⟨⟨r, done'⟩, c'⟩
        rw [hrest] at h
        cases r with
        | error e => exact absurd h Bool.false_ne_true
        | ok results => rfl
      · rw [List.map_cons, run_cons, hstep, hrun]
        simp only [runAll, hop, setDone_setDone]
        rcases runAll db config done rest c with ⟨⟨r, done'⟩, c'⟩
        cases r with
        | error e => rfl
        | ok results => rfl

/-- A block is its operations up to the first that fails, and the end that follows from them. -/
theorem exists_run_of_block (s : State σ) (t : String) (ops : List TransactionOp) :
    ∃ performed isFailing, performed <+: ops ∧ (isFailing = false → performed = ops) ∧
      (s.step db config (.block t ops)).2 =
        s.run db config
          (performed.map (.transaction t) ++ [.transaction t (.leave isFailing)]) := by
  cases hs : s.transactions.lookup t with
  | none =>
    refine ⟨[], true, List.nil_prefix, fun h ↦ absurd h.symm Bool.false_ne_true, ?_⟩
    show (s.runOn t _).2 = (s.runOn t _).2
    rw [runOn_of_unknown hs, runOn_of_unknown hs]
  | some isDone =>
    obtain ⟨r, done, c₁, r', done', c₂, result, hall, hleave, hblock, -, -⟩ :=
      exists_leave_of_block db config isDone ops s.connection
    obtain ⟨performed, hperformed, hwhole, hrun⟩ := exists_run_of_runAll db config hs ops
    rw [hall] at hwhole hrun
    refine ⟨performed, !r.isOk, hperformed, ?_, ?_⟩
    · intro h
      exact hwhole (by simpa using h)
    · have hlookup : (setDone t done s.transactions).lookup t = some done :=
        lookup_setDone_self hs done
      change runTransaction db config done (.leave (!r.isOk)) c₁ = _ at hleave
      have hend :=
        step_transaction db config (s := ⟨c₁, setDone t done s.transactions⟩) hlookup hleave
      have hstep : (s.step db config (.block t ops)).2 = ⟨c₂, setDone t done' s.transactions⟩ := by
        show (s.runOn t _).2 = _
        rw [runOn_of_lookup hs, hblock]
      rw [hstep, run_append, hrun, run_cons, hend, setDone_setDone]
      rfl

/-- The events of a run are those of its first step, then those of the others. -/
theorem runEvents_cons (s : State σ) (step : Step σ) (steps : List (Step σ)) :
    s.runEvents db config (step :: steps) =
      s.newEvents db config step ++ (s.step db config step).2.runEvents db config steps := by
  have h := events_run db config s (step :: steps)
  rw [run_cons, events_run, events_step, List.append_assoc] at h
  exact (List.append_cancel_left h).symm

theorem newEvents_block {s : State σ} {t : String} {ops : List TransactionOp}
    {steps : List (Step σ)} (h : (s.step db config (.block t ops)).2 = s.run db config steps) :
    s.newEvents db config (.block t ops) = s.runEvents db config steps := by
  rw [newEvents, h]
  rfl

end SqlRender.Session.State
