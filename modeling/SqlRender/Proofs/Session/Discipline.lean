import SqlRender.Proofs.Session.Block
import SqlRender.Proofs.Session.Calls

namespace SqlRender.Session

variable {σ : Type} (db : Database σ) (config : Config)

/-- The statement of a step that is one operation on a statement. -/
def Step.data? : Step σ → Option DataOp
  | .data op | .transaction _ (.data op) => some op
  | _ => none

namespace State

/-- Whether the transaction of a step is done, where it has one. A statement of the session itself
is in none that could be. -/
def doneFor? (s : State σ) : Step σ → Option Bool
  | .data _ => some false
  | .transaction t _ => s.transactions.lookup t
  | _ => none

/-- What is asked of the connection by one step. -/
structure Follows (s : State σ) (step : Step σ) : Prop where
  brackets : Brackets (s.newEvents db config step)
  sent : ∀ op, step.data? = some op → ∀ sql params isOk,
    ⟨.execute sql params, isOk⟩ ∈ s.newEvents db config step → ∃ r,
      op.node.render config.dialect config.inlining = .ok r ∧ sql = r.sql ∧
        params = if r.params = [] then none else some r.params
  /-- A statement that does not render is not executed, nor is one whose check fails. -/
  unrendered : ∀ op e, step.data? = some op → prepare config op.node = .error e →
    ∀ event ∈ s.newEvents db config step, event.call = .cursor ∨ event.call = .close
  /-- A statement that the session executes goes from its cursor to its commit. -/
  commits : ∀ n, step = .data (.exec n) → Commits config n (s.newEvents db config step)
  /-- Any other statement that is sent asks for its cursor, and is executed on it where it can
  be. -/
  handles : ∀ op isDone, step.data? = some op → (∀ n, step ≠ .data (.exec n)) →
    s.doneFor? step = some isDone → Handles config isDone op (s.newEvents db config step)
  committed_iff : ∀ n, step = .data (.exec n) →
    ((∃ isOk, ⟨.commit, isOk⟩ ∈ s.newEvents db config step) ↔
      ⟨.cursor, true⟩ ∈ s.newEvents db config step ∧
        (∃ r, n.render config.dialect config.inlining = .ok r) ∧
        (∃ sql params, ⟨.execute sql params, true⟩ ∈ s.newEvents db config step) ∧
        ⟨.close, true⟩ ∈ s.newEvents db config step)
  committed : ∀ n isOk, step = .data (.exec n) → ⟨.commit, isOk⟩ ∈ s.newEvents db config step →
    ∃ sql params, s.newEvents db config step =
      [⟨.cursor, true⟩, ⟨.execute sql params, true⟩, ⟨.close, true⟩, ⟨.commit, isOk⟩]
  endless : ∀ op, step.data? = some op → (∀ n, step ≠ .data (.exec n)) →
    Endless (s.newEvents db config step)
  /-- No other step is about a statement, unless it is a block. -/
  ended : step.data? = none → (∀ t ops, step ≠ .block t ops) →
    ∀ event ∈ s.newEvents db config step, event.call.isEnd = true
  /-- A block is its operations one by one, and an end. -/
  block : ∀ t ops, step = .block t ops → ∃ performed isFailing, performed <+: ops ∧
    (isFailing = false → performed = ops) ∧
      (s.step db config step).2 =
        s.run db config (performed.map (.transaction t) ++ [.transaction t (.leave isFailing)])

variable {db config}

theorem newEvents_of_records {β : Type} {s : State σ} {step : Step σ}
    {m : Connection σ → β × Connection σ} {Q : β → List Event → Prop} (h : Records m Q)
    (hstep : (s.step db config step).2.connection = (m s.connection).2) :
    Q (m s.connection).1 (s.newEvents db config step) := by
  obtain ⟨es, hes, hQ⟩ := h s.connection
  rw [newEvents_eq (hstep ▸ hes)]
  exact hQ

theorem newEvents_of_unknown {s : State σ} {t : String}
    (hs : s.transactions.lookup t = none) (op : TransactionOp) :
    s.newEvents db config (.transaction t op) = [] := by
  have hstep : (s.step db config (.transaction t op)).2 = s := by
    rw [step, runOn_of_unknown hs]
  apply newEvents_eq
  rw [hstep, List.append_nil]

theorem undertakes_of_lookup {s : State σ} {t : String} {isDone : Bool}
    (hs : s.transactions.lookup t = some isDone) (op : TransactionOp) :
    Undertakes config isDone op (s.newEvents db config (.transaction t op)) := by
  have hstep : (s.step db config (.transaction t op)).2.connection =
      (runTransaction db config isDone op s.connection).2 := by
    rw [step, runOn_of_lookup hs]
  exact newEvents_of_records (runTransaction_undertakes db config isDone op) hstep

variable (db config) in
theorem exists_undertakes (s : State σ) (t : String) (op : TransactionOp) :
    ∃ isDone, Undertakes config isDone op (s.newEvents db config (.transaction t op)) := by
  cases hs : s.transactions.lookup t with
  | none => exact ⟨false, newEvents_of_unknown hs op ▸ .silent⟩
  | some isDone => exact ⟨isDone, undertakes_of_lookup hs op⟩

theorem handles_of_lookup {s : State σ} {t : String} {isDone : Bool}
    (hs : s.transactions.lookup t = some isDone) (op : DataOp) :
    Handles config isDone op (s.newEvents db config (.transaction t (.data op))) := by
  have hstep : (s.step db config (.transaction t (.data op))).2.connection =
      (runData db config isDone op s.connection).2 := by
    rw [step, runOn_of_lookup hs]
    rfl
  exact newEvents_of_records (runData_records db config isDone op) hstep

/-- An operation on a statement has no events where its transaction was never begun. -/
theorem follows_of_handles {s : State σ} {step : Step σ} {op : DataOp}
    (hdata : step.data? = some op) (hne : ∀ n, step ≠ .data (.exec n))
    (h : ∀ isDone, s.doneFor? step = some isDone →
      Handles config isDone op (s.newEvents db config step))
    (hunknown : s.doneFor? step = none → s.newEvents db config step = []) :
    s.Follows db config step := by
  have heither : (∃ isDone, Handles config isDone op (s.newEvents db config step)) ∨
      s.newEvents db config step = [] := by
    cases hdone : s.doneFor? step with
    | none => exact .inr (hunknown hdone)
    | some isDone => exact .inl ⟨isDone, h isDone hdone⟩
  exact
    { brackets := by
        obtain ⟨isDone, h⟩ | hnil := heither
        · exact h.brackets
        · rw [hnil]
          exact .nil
      sent := by
        intro op' hop sql params isOk hmem
        obtain rfl := Option.some.inj (hdata.symm.trans hop)
        obtain ⟨isDone, h⟩ | hnil := heither
        · obtain ⟨-, r, hr, rfl, rfl⟩ := h.sent hmem
          exact ⟨r, hr, rfl, r.params?_eq⟩
        · rw [hnil] at hmem
          cases hmem
      unrendered := by
        intro op' e hop he
        obtain rfl := Option.some.inj (hdata.symm.trans hop)
        obtain ⟨isDone, h⟩ | hnil := heither
        · exact h.calls_of_unrendered he
        · rw [hnil]
          exact nofun
      commits := fun n hn ↦ absurd hn (hne n)
      handles := by
        intro op' isDone hop _ hdone
        obtain rfl := Option.some.inj (hdata.symm.trans hop)
        exact h isDone hdone
      committed_iff := fun n hn ↦ absurd hn (hne n)
      committed := fun n _ hn ↦ absurd hn (hne n)
      endless := by
        intro _ _ _
        obtain ⟨isDone, h⟩ | hnil := heither
        · exact h.endless
        · rw [hnil]
          exact .nil
      ended := by
        intro hnone
        rw [hdata] at hnone
        cases hnone
      block := by
        rintro t ops rfl
        cases hdata }

theorem follows_of_commits {s : State σ} {n : Node}
    (h : Commits config n (s.newEvents db config (.data (.exec n)))) :
    s.Follows db config (.data (.exec n)) where
  brackets := h.brackets
  sent := by
    intro op hop sql params isOk hmem
    cases hop
    exact h.sent hmem
  unrendered := by
    intro op e hop he
    cases hop
    exact h.calls_of_unrendered he
  commits := by
    intro n' hn
    cases hn
    exact h
  handles _ _ _ hne := absurd rfl (hne n)
  committed_iff := by
    intro n' hn
    cases hn
    exact h.commit_mem_iff
  committed := by
    intro n' isOk hn hmem
    cases hn
    exact h.eq_of_commit_mem hmem
  endless _ _ hne := absurd rfl (hne n)
  ended := nofun
  block := nofun

theorem follows_of_isEnd {s : State σ} {step : Step σ} (hdata : step.data? = none)
    (hblock : ∀ t ops, step ≠ .block t ops) (hbrackets : Brackets (s.newEvents db config step))
    (hend : ∀ event ∈ s.newEvents db config step, event.call.isEnd = true) :
    s.Follows db config step where
  brackets := hbrackets
  sent op hop := by
    rw [hdata] at hop
    cases hop
  unrendered op _ hop := by
    rw [hdata] at hop
    cases hop
  commits := by
    rintro n rfl
    cases hdata
  handles op _ hop := by
    rw [hdata] at hop
    cases hop
  committed_iff := by
    rintro n rfl
    cases hdata
  committed := by
    rintro n isOk rfl
    cases hdata
  endless op hop := by
    rw [hdata] at hop
    cases hop
  ended _ _ := hend
  block t ops h := absurd h (hblock t ops)

theorem brackets_run {s : State σ} {steps : List (Step σ)}
    (h : ∀ s : State σ, ∀ step ∈ steps, Brackets (s.newEvents db config step)) :
    Brackets (s.runEvents db config steps) := by
  induction steps generalizing s with
  | nil =>
    have hnil : s.runEvents db config [] = [] := List.drop_length
    rw [hnil]
    exact .nil
  | cons step steps ih =>
    rw [runEvents_cons]
    have hrest (s : State σ) (step' : Step σ) (hmem : step' ∈ steps) :=
      h s step' (List.mem_cons_of_mem _ hmem)
    exact (h s step List.mem_cons_self).append (ih hrest)

theorem follows_of_silent {s : State σ} {step : Step σ} (hdata : step.data? = none)
    (hblock : ∀ t ops, step ≠ .block t ops)
    (hs : (s.step db config step).2.connection.events = s.connection.events) :
    s.Follows db config step := by
  have hes : s.newEvents db config step = [] := newEvents_eq (hs.trans (List.append_nil _).symm)
  refine follows_of_isEnd hdata hblock ?_ ?_
  · rw [hes]
    exact .nil
  · rw [hes]
    exact fun _ h ↦ absurd h List.not_mem_nil

theorem follows_of_transaction (s : State σ) (t : String) (op : TransactionOp) :
    s.Follows db config (.transaction t op) := by
  by_cases hop : ∃ data, op = .data data
  · obtain ⟨data, rfl⟩ := hop
    exact follows_of_handles rfl (fun n ↦ nofun) (fun _ hs ↦ handles_of_lookup hs data)
      fun hs ↦ newEvents_of_unknown hs _
  · have hnone : (Step.transaction t op : Step σ).data? = none := by
      cases op with
      | data data => exact absurd ⟨data, rfl⟩ hop
      | _ => rfl
    obtain ⟨isDone, h⟩ := exists_undertakes db config s t op
    refine follows_of_isEnd hnone (fun _ _ ↦ nofun) h.brackets ?_
    intro event hevent
    generalize s.newEvents db config (.transaction t op) = es at h hevent
    cases h with
    | handled hop' => exact absurd ⟨_, hop'⟩ hop
    | silent => cases hevent
    | ended _ hop =>
      rw [List.mem_singleton.mp hevent]
      exact TransactionOp.isEnd_of_end? hop

theorem follows_of_block (s : State σ) (t : String) (ops : List TransactionOp) :
    s.Follows db config (.block t ops) := by
  obtain ⟨performed, isFailing, hperformed, hwhole, hrun⟩ :=
    exists_run_of_block db config s t ops
  have hbrackets : Brackets (s.newEvents db config (.block t ops)) := by
    rw [newEvents_block db config hrun]
    apply brackets_run
    intro s step hstep
    obtain hstep | hstep := List.mem_append.mp hstep
    · obtain ⟨op, -, rfl⟩ := List.mem_map.mp hstep
      exact (follows_of_transaction s t op).brackets
    · rw [List.mem_singleton.mp hstep]
      exact (follows_of_transaction s t _).brackets
  exact
    { brackets := hbrackets
      sent := nofun
      unrendered := nofun
      commits := nofun
      handles := nofun
      committed_iff := nofun
      committed := nofun
      endless := nofun
      ended := fun _ h ↦ absurd rfl (h t ops)
      block := by
        intro t' ops' h
        cases h
        exact ⟨performed, isFailing, hperformed, hwhole, hrun⟩ }

theorem follows_step (s : State σ) (step : Step σ) : s.Follows db config step := by
  cases step with
  | data op =>
    by_cases hexec : ∃ n, op = .exec n
    · obtain ⟨n, rfl⟩ := hexec
      exact follows_of_commits (newEvents_of_records (runOwn_exec_commits db config n) rfl)
    · have hne := not_exists.mp hexec
      have hhandles : Handles config false op (s.newEvents db config (.data op)) :=
        newEvents_of_records (runOwn_records_of_ne_exec db config hne) rfl
      refine follows_of_handles rfl (fun n h ↦ hne n (Step.data.inj h)) ?_ nofun
      rintro _ ⟨⟩
      exact hhandles
  | begin t =>
    refine follows_of_silent rfl (fun _ _ h ↦ by cases h) ?_
    rw [step]
    split <;> rfl
  | transaction t op => exact follows_of_transaction s t op
  | block t ops => exact follows_of_block s t ops
  | outside change => exact follows_of_silent rfl (fun _ _ h ↦ by cases h) rfl

/-- Whatever is done, and whatever call fails, every cursor is closed by the operation that opened
it, only a statement of the session itself is committed, and only after all else succeeded. -/
theorem call_discipline (db : Database σ) (config : Config) (s : State σ) (steps : List (Step σ)) :
    Brackets (s.runEvents db config steps) ∧
      ∀ step, (s.run db config steps).Follows db config step :=
  ⟨brackets_run fun s step _ ↦ (follows_step s step).brackets, fun step ↦ follows_step _ step⟩

end State

end SqlRender.Session
