import Mathlib
import SqlRender.Dialect.Builtin
import SqlRender.Proofs.Session.Ledger

namespace SqlRender.Session

variable {σ : Type}

/-- The step is not made on the transaction, and may commit. -/
inductive Step.CommitsBeside (t : String) : Step σ → Prop
  | exec (n : Node) : CommitsBeside t (.data (.exec n))
  | transaction {u : String} {op : TransactionOp} (hne : u ≠ t) (hop : op.end? = some .commit) :
    CommitsBeside t (.transaction u op)
  | block {u : String} {ops : List TransactionOp} (hne : u ≠ t) : CommitsBeside t (.block u ops)

namespace State

variable {db : Database σ} {config : Config}

theorem countP_settles_newEvents_le (s : State σ) (step : Step σ) :
    (s.newEvents db config step).countP Event.settles ≤ 1 := by
  cases effect db config s step with
  | quiet hes =>
    rw [hes.countP_settles]
    exact Nat.zero_le 1
  | @own n sql params isOk _ hes =>
    rw [hes]
    cases isOk with
    | false => exact Nat.zero_le 1
    | true => exact Nat.le_refl 1
  | @on t isDone done _ _ haccounts =>
    have hcount : done.toNat = _ := haccounts.count
    have hle := Bool.toNat_le done
    omega

theorem commitsBeside_of_mem {s : State σ} {t : String} {step : Step σ} {isOk : Bool}
    (hcommit : ⟨.commit, isOk⟩ ∈ s.newEvents db config step) (hon : step.on? ≠ some t) :
    step.CommitsBeside t := by
  cases effect db config s step with
  | quiet hes => cases hes _ hcommit
  | @own n _ _ _ hstep =>
    rw [hstep]
    exact .exec n
  | @on u _ _ hon' _ _ hend =>
    have hne : u ≠ t := fun h ↦ hon (hon'.trans (congrArg some h))
    cases step with
    | transaction v op =>
      cases hon'
      exact .transaction hne (hend u op rfl _ hcommit rfl)
    | block v ops =>
      cases hon'
      exact .block hne
    | data => cases hon'
    | begin => cases hon'
    | outside => cases hon'

/-- A commit that succeeds persists all that is pending, whoever executed it. -/
theorem mem_persisted_of_commit {s : State σ} {step : Step σ}
    (hcommit : ⟨.commit, true⟩ ∈ s.newEvents db config step) {k : Nat}
    (hk : k ∈ s.ledger.pending) : k ∈ (s.step db config step).2.ledger.persisted := by
  rw [ledger_step, Ledger.mem_persisted_replay_iff hk]
  exact Ledger.settledBy?_of_mem hcommit rfl (countP_settles_newEvents_le s step)

/-- As long as a transaction is open its own commits fail. The others are those of statements that
the session itself executes and those of other transactions, and where they succeed they persist
what was executed in this one. -/
theorem commit_while_open {s : State σ} {t : String} {before after : List (Step σ)}
    {step : Step σ} {isOk : Bool} (hs : s.transactions.lookup t = some false)
    (hfresh : ∀ step' ∈ before ++ step :: after, step' ≠ .begin t)
    (hopen : (s.run db config (before ++ step :: after)).transactions.lookup t = some false)
    (hcommit : ⟨.commit, isOk⟩ ∈ (s.run db config before).newEvents db config step) :
    ((step.on? = some t ∧ isOk = false) ∨ step.CommitsBeside t) ∧
      (isOk = true → ∀ k ∈ (s.run db config before).ledger.pending,
        k ∈ ((s.run db config before).step db config step).2.ledger.persisted) := by
  refine ⟨?_, ?_⟩
  · by_cases hon : step.on? = some t
    -- A commit of its own that succeeds leaves the transaction done for good.
    · refine .inl ⟨hon, ?_⟩
      rw [List.forall_mem_append, List.forall_mem_cons] at hfresh
      obtain ⟨hbefore, hstep, hafter⟩ := hfresh
      rw [run_append, run_cons] at hopen
      obtain ⟨isDone, hmiddle, -⟩ := lookup_run db config hs hbefore
      obtain ⟨done, hdone, hcount⟩ := lookup_step db config hmiddle hstep
      obtain rfl := lookup_of_run db config hdone hafter hopen
      rw [if_pos hon] at hcount
      cases isOk with
      | false => rfl
      | true =>
        have hpos : 0 < ((s.run db config before).newEvents db config step).countP Event.settles :=
          List.countP_pos_iff.mpr ⟨_, hcommit, rfl⟩
        change 0 = _ at hcount
        omega
    · exact .inr (commitsBeside_of_mem hcommit hon)
  · rintro rfl k hk
    exact mem_persisted_of_commit hcommit hk

theorem commit_while_open_of_other :
    let config : Config := { dialect := .sqlite, inlining := false }
    let before : List (Step Script) :=
      [.transaction "t" (.data (.exec (.delete { table := "p" })))]
    let commit : Step Script := .transaction "u" .commit
    let s : State Script :=
      { connection := { state := {} }, transactions := [("t", false), ("u", false)] }
    let s' := s.run Script.database config before
    s.transactions.lookup "t" = some false ∧
      (∀ step ∈ before ++ [commit], step ≠ .begin "t") ∧
      (s.run Script.database config (before ++ [commit])).transactions.lookup "t" = some false ∧
      ⟨.commit, true⟩ ∈ s'.newEvents Script.database config commit ∧
      commit.CommitsBeside "t" ∧
      1 ∈ (s'.step Script.database config commit).2.ledger.persisted := by
  intro config before commit s s'
  have hs : s.transactions.lookup "t" = some false := by cbv
  have hfresh : ∀ step ∈ before ++ [commit], step ≠ .begin "t" := by
    simp [before, commit]
  have hopen : (s.run Script.database config (before ++ [commit])).transactions.lookup "t" =
      some false := by cbv
  have hevents : s'.newEvents Script.database config commit = [⟨.commit, true⟩] := by cbv
  have hcommit : ⟨.commit, true⟩ ∈ s'.newEvents Script.database config commit := by
    rw [hevents]
    exact List.mem_cons_self
  have hpending : s'.ledger.pending = [1] := by cbv
  obtain ⟨⟨hon, -⟩ | hbeside, hpersisted⟩ := commit_while_open hs hfresh hopen hcommit
  · have heq : "u" = "t" := Option.some.inj hon
    exact absurd heq (by decide)
  · refine ⟨hs, hfresh, hopen, hcommit, hbeside, hpersisted rfl 1 ?_⟩
    rw [hpending]
    exact List.mem_cons_self

/-- A statement of the session commits what an open transaction executed. -/
theorem commit_beside_open_transaction :
    let config : Config := { dialect := .sqlite, inlining := false }
    let delete : DataOp := .exec (.delete { table := "p" })
    let s : State Script := State.run Script.database config { connection := { state := {} } }
      [.begin "t", .transaction "t" (.data delete)]
    let s' := (s.step Script.database config (.data delete)).2
    s.connection.events =
        [⟨.cursor, true⟩, ⟨.execute "DELETE FROM \"p\"" none, true⟩, ⟨.close, true⟩] ∧
      s.transactions.lookup "t" = some false ∧
      s.newEvents Script.database config (.data delete) =
        [⟨.cursor, true⟩, ⟨.execute "DELETE FROM \"p\"" none, true⟩, ⟨.close, true⟩,
          ⟨.commit, true⟩] ∧
      s'.transactions.lookup "t" = some false ∧ s'.ledger.persisted = [1, 4] := by
  intro config delete s s'
  refine ⟨?_, ?_, ?_, ?_, ?_⟩
  · cbv
  · cbv
  · cbv
  · cbv
  · cbv

end State

end SqlRender.Session
