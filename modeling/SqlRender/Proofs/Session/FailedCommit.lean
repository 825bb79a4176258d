import Mathlib
import SqlRender.Dialect.Builtin
import SqlRender.Proofs.Session.Ledger

namespace SqlRender.Session

variable {σ : Type}

namespace State

variable (db : Database σ) (config : Config)

/-- The step is one that commits at its end: a statement of the session, or a block that ends
normally. -/
inductive ClosesByCommit (s : State σ) : Step σ → Prop
  | exec (n : Node) : ClosesByCommit s (.data (.exec n))
  | leave (t : String) : ClosesByCommit s (.transaction t (.leave false))
  | block {t : String} {isDone : Bool} {ops : List TransactionOp}
    (hs : s.transactions.lookup t = some isDone)
    (hnormal : EndsNormally db config isDone ops s.connection) : ClosesByCommit s (.block t ops)

/-- The last call of the step, a commit, fails, and with it the step. It rolls nothing back, and
the transaction that it was to end stays open. -/
structure FailsAtCommit (s : State σ) (step : Step σ) (work : List Event) : Prop where
  events : s.newEvents db config step = work ++ [⟨.commit, false⟩]
  endless : Endless work
  executed : ∀ n, step = .data (.exec n) → IsExecutedAt work 1
  /-- The error is the one that the database gave to the commit. -/
  error : ∃ before text,
    db.respond .commit before = (.error text, (s.step db config step).2.connection.state) ∧
      (s.step db config step).1 = .error (.database text)
  transactions : (s.step db config step).2.transactions = s.transactions
  isOpen : ∀ t, step.on? = some t → s.transactions.lookup t = some false

variable {db config}

/-- Where a commit of the session fails, nothing comes behind it. -/
theorem respond_of_exec {n : Node} {c : Connection σ} {es : List Event}
    (hes : (runOwn db config (.exec n) c).2.events = c.events ++ es)
    (hfailed : ⟨.commit, false⟩ ∈ es) :
    ∃ before text,
      db.respond .commit before = (.error text, (runOwn db config (.exec n) c).2.state) ∧
        (runOwn db config (.exec n) c).1 = .error (.database text) := by
  obtain ⟨work, hwork, hhandles⟩ := runData_records db config false (.exec n) c
  have hendless : Endless work := hhandles.endless
  have hown : runOwn db config (.exec n) = (do
      let result ← runData db config false (.exec n)
      let _ ← Run.call db .commit
      return result) := rfl
  rcases hdata : runData db config false (.exec n) c with ⟨r, c₁⟩
  rw [hdata] at hwork
  rw [hown] at hes ⊢
  cases r with
  | error e =>
    rw [Run.bind_of_error hdata, hwork, List.append_cancel_left_eq] at hes
    subst hes
    cases hendless _ hfailed
  | ok result =>
    obtain ⟨closing, hclosing, hcall⟩ := Records.call db .commit c₁
    rcases hcommit : Run.call db .commit c₁ with ⟨r, c₂⟩
    rw [Run.bind_of_ok hdata] at hes ⊢
    cases r with
    | error e =>
      obtain ⟨text, hrespond, rfl⟩ := Run.respond_of_call_error hcommit
      rw [Run.bind_of_error hcommit]
      exact ⟨c₁.state, text, hrespond, rfl⟩
    | ok reply =>
      rw [hcommit] at hclosing hcall
      rw [Run.bind_of_ok hcommit] at hes
      obtain ⟨_, -, rfl⟩ | ⟨_, hr, -⟩ := hcall
      · have heq : c₂.events = c.events ++ es := hes
        rw [hclosing, hwork, List.append_assoc, List.append_cancel_left_eq] at heq
        subst heq
        obtain hmem | hmem := List.mem_append.mp hfailed
        · cases hendless _ hmem
        · cases List.mem_singleton.mp hmem
      · cases hr

theorem failsAtCommit_of_exec {s : State σ} {n : Node}
    (hfailed : ⟨.commit, false⟩ ∈ s.newEvents db config (.data (.exec n))) :
    ∃ work, s.FailsAtCommit db config (.data (.exec n)) work := by
  cases effect db config s (.data (.exec n)) with
  | quiet hes => cases hes _ hfailed
  | @own _ sql params isOk _ hes =>
    have hfalse : isOk = false := by
      rw [hes] at hfailed
      simpa using hfailed
    subst hfalse
    refine ⟨[⟨.cursor, true⟩, ⟨.execute sql params, true⟩, ⟨.close, true⟩], hes, ?_, ?_,
      ?_, rfl, ?_⟩
    · simp [Endless, Call.isEnd]
    · exact fun _ _ ↦ ⟨sql, params, rfl⟩
    · exact respond_of_exec (events_step db config s (.data (.exec n))) hfailed
    · intro t ht
      cases ht
  | on hon => cases hon

theorem failsAtCommit_of_leave {s : State σ} {t : String}
    (hfailed : ⟨.commit, false⟩ ∈ s.newEvents db config (.transaction t (.leave false))) :
    s.FailsAtCommit db config (.transaction t (.leave false)) [] := by
  cases effect db config s (.transaction t (.leave false)) with
  | quiet hes => cases hes _ hfailed
  | own hstep => cases hstep
  | @on _ isDone _ hon hs =>
    cases hon
    obtain ⟨es, hes, hends⟩ := leave_records db isDone false s.connection
    rcases hleave : leave db isDone false s.connection with ⟨⟨r, done⟩, c⟩
    rw [hleave] at hes hends
    have hstep : s.step db config (.transaction t (.leave false)) =
        (r, ⟨c, setDone t done s.transactions⟩) := by
      rw [step, runOn_of_lookup hs]
      simp only [runTransaction, hleave]
    have hnew : s.newEvents db config (.transaction t (.leave false)) = es := by
      apply newEvents_eq
      rw [hstep]
      exact hes
    rw [hnew] at hfailed
    cases hends with
    | done => exact absurd hfailed List.not_mem_nil
    | ended => cases List.mem_singleton.mp hfailed
    | failed hopen text =>
      rw [hopen] at hs
      refine ⟨hnew, Endless.nil, ?_, ⟨s.connection.state, text, ?_, ?_⟩, ?_, ?_⟩
      · intro n h
        cases h
      · rw [hstep]
        exact respond_of_finishUnlessDone hleave
      · rw [hstep]
      · rw [hstep]
        exact setDone_of_lookup hs
      · intro u hu
        cases hu
        exact hs

theorem failsAtCommit_of_block {s : State σ} {t : String} {isDone : Bool}
    {ops : List TransactionOp} (hs : s.transactions.lookup t = some isDone)
    (hnormal : EndsNormally db config isDone ops s.connection)
    (hfailed : ⟨.commit, false⟩ ∈ s.newEvents db config (.block t ops)) :
    ∃ work, s.FailsAtCommit db config (.block t ops) work := by
  obtain ⟨es, hes, -⟩ := runBlock_records db config isDone ops s.connection
  have hstep := runOn_of_lookup hs fun isDone ↦ runBlock db config isDone ops
  change s.step db config (.block t ops) = _ at hstep
  have hnew : s.newEvents db config (.block t ops) = es := by
    apply newEvents_eq
    rw [hstep]
    exact hes
  rw [hnew] at hfailed
  obtain ⟨hopen, work, before, text, hwork, hendless, hrespond, hblock⟩ :=
    runBlock_of_failed_commit hnormal hes hfailed
  refine ⟨work, hnew.trans hwork, hendless, ?_, ⟨before, text, ?_, ?_⟩, ?_, ?_⟩
  · intro n h
    cases h
  · rw [hstep]
    exact hrespond
  · rw [hstep, hblock]
  · rw [hstep, hblock]
    exact setDone_of_lookup (hopen ▸ hs)
  · intro u hu
    cases hu
    exact hopen ▸ hs

/-- A failed commit is not rolled back. What was executed stays pending, and the first commit or
rollback that succeeds later decides on it. -/
theorem pending_of_failed_commit {s : State σ} {step : Step σ}
    (hstep : s.ClosesByCommit db config step)
    (hfailed : ⟨.commit, false⟩ ∈ s.newEvents db config step) :
    let s' := (s.step db config step).2
    ∃ work, s.FailsAtCommit db config step work ∧
      (∀ k ∈ s.ledger.pending, k ∈ s'.ledger.pending) ∧
      (∀ i, IsExecutedAt work i → s.connection.events.length + i ∈ s'.ledger.pending) ∧
      ∀ k ∈ s'.ledger.pending, ∀ later : List (Step σ),
        k ∈ (s'.run db config later).ledger.persisted ↔
          Ledger.settledBy? (s'.runEvents db config later) = some .commit := by
  intro s'
  have hfails : ∃ work, s.FailsAtCommit db config step work := by
    cases hstep with
    | exec n => exact failsAtCommit_of_exec hfailed
    | leave t => exact ⟨[], failsAtCommit_of_leave hfailed⟩
    | block hs hnormal => exact failsAtCommit_of_block hs hnormal hfailed
  obtain ⟨work, hfails⟩ := hfails
  have hwork := hfails.endless.countP_settles
  have hledger : s'.ledger = (s.ledger.replay work).wait := by
    rw [ledger_step, hfails.events, Ledger.replay_append]
    rfl
  refine ⟨work, hfails, ?_, ?_, ?_⟩
  · intro k hk
    rw [hledger]
    exact Ledger.mem_pending_replay hk hwork
  · intro i hi
    rw [hledger, ← length_ledger]
    exact Ledger.mem_pending_replay_of_executed hi hwork
  · intro k hk later
    rw [ledger_run]
    exact Ledger.mem_persisted_replay_iff hk _

theorem pending_of_failed_commit_block :
    let config : Config := { dialect := .sqlite, inlining := false }
    let block : Step Script := .block "t" [.data (.exec (.delete { table := "p" }))]
    let s : State Script :=
      { connection := { state := { commitFailure := some "commit failed" } }
        transactions := [("t", false)] }
    let s' := (s.step Script.database config block).2
    s.ClosesByCommit Script.database config block ∧
      ⟨.commit, false⟩ ∈ s.newEvents Script.database config block ∧
      s'.transactions = [("t", false)] ∧
      1 ∈ (s'.run Script.database config [.outside fun db ↦ { db with commitFailure := none },
        .transaction "t" .commit]).ledger.persisted := by
  intro config block s s'
  have hnormal : EndsNormally Script.database config false
      [.data (.exec (.delete { table := "p" }))] s.connection := by cbv
  have hclosing : s.ClosesByCommit Script.database config block := .block (by cbv) hnormal
  have hevents : s.newEvents Script.database config block =
      [⟨.cursor, true⟩, ⟨.execute "DELETE FROM \"p\"" none, true⟩, ⟨.close, true⟩,
        ⟨.commit, false⟩] := by cbv
  have hfailed : ⟨.commit, false⟩ ∈ s.newEvents Script.database config block := by
    rw [hevents]
    simp
  obtain ⟨work, hfails, -, hwork, hlater⟩ := pending_of_failed_commit hclosing hfailed
  have hexecuted : IsExecutedAt work 1 := by
    have heq : work ++ [⟨.commit, false⟩] =
        [⟨.cursor, true⟩, ⟨.execute "DELETE FROM \"p\"" none, true⟩, ⟨.close, true⟩] ++
          [⟨.commit, false⟩] := hfails.events.symm.trans hevents
    rw [List.append_cancel_right heq]
    exact ⟨_, _, rfl⟩
  refine ⟨hclosing, hfailed, hfails.transactions, (hlater 1 (hwork 1 hexecuted) _).mpr ?_⟩
  cbv

/-- The statement of a call that failed is persisted by a later one. -/
theorem failed_commit_not_rolled_back :
    let config : Config := { dialect := .sqlite, inlining := false }
    let step : Step Script := .data (.exec (.delete { table := "p" }))
    let s : State Script :=
      { connection := { state := { commitFailure := some "commit failed" } } }
    let s' := (s.step Script.database config step).2
    (s.step Script.database config step).1 = .error (.database "commit failed") ∧
      s.newEvents Script.database config step =
        [⟨.cursor, true⟩, ⟨.execute "DELETE FROM \"p\"" none, true⟩, ⟨.close, true⟩,
          ⟨.commit, false⟩] ∧
      (s'.run Script.database config
        [.outside fun db ↦ { db with commitFailure := none }, step]).ledger.persisted = [1, 5] := by
  intro config step s s'
  refine ⟨?_, ?_, ?_⟩
  · cbv
  · cbv
  · cbv

end State

end SqlRender.Session
