import SqlRender.Proofs.Session.Transaction
import SqlRender.Session.Step

namespace SqlRender

/-- What a statement is sent with: no parameters at all where it has none. -/
def Rendered.params? (r : Rendered) : Option (List Value) :=
  if r.params.isEmpty then none else some r.params

theorem Rendered.params?_eq (r : Rendered) :
    r.params? = if r.params = [] then none else some r.params := by
  simp only [Rendered.params?, List.isEmpty_iff]

namespace Session

variable {σ : Type}

/-- The call is made on the cursor opened last, which stays open. -/
def Call.isWork : Call → Bool
  | .execute .. | .fetchall => true
  | _ => false

/-- Every cursor that is opened is closed by one call, the last one on it, and nothing else is
called in between. -/
inductive Brackets : List Event → Prop
  | nil : Brackets []
  | unopened {rest : List Event} (hrest : Brackets rest) : Brackets (⟨.cursor, false⟩ :: rest)
  | opened {work rest : List Event} (hwork : ∀ e ∈ work, e.call.isWork = true) (isOk : Bool)
    (hrest : Brackets rest) : Brackets (⟨.cursor, true⟩ :: work ++ ⟨.close, isOk⟩ :: rest)
  | ended {e : Event} {rest : List Event} (he : e.call.isEnd = true) (hrest : Brackets rest) :
    Brackets (e :: rest)

theorem Brackets.append {first rest : List Event} (hfirst : Brackets first)
    (hrest : Brackets rest) : Brackets (first ++ rest) := by
  induction hfirst with
  | nil => exact hrest
  | unopened _ ih => exact .unopened ih
  | @opened work _ hwork isOk _ ih =>
    rw [List.append_assoc]
    exact .opened hwork isOk ih
  | ended he _ ih => exact .ended he ih

variable {db : Database σ} {config : Config}

/-- A statement is executed as it is rendered, and the parameters that it has are given. -/
theorem Executes.sent {isDone : Bool} {n : Node} {r : Except Failure Reply} {es : List Event}
    (h : Executes config isDone n r es) {sql : String} {params : Option (List Value)}
    {isOk : Bool} (hmem : ⟨.execute sql params, isOk⟩ ∈ es) :
    isDone = false ∧ r.isOk = isOk ∧ ∃ rendered,
      n.render config.dialect config.inlining = .ok rendered ∧ sql = rendered.sql ∧
        params = rendered.params? := by
  cases h with
  | done => cases hmem
  | unrendered => cases hmem
  | @called _ sent _ hopen h hr =>
    have heq := List.mem_singleton.mp hmem
    injection heq with hcall hok
    injection hcall with hsql hparams
    exact ⟨hopen, hr.trans hok.symm, sent.1, render_of_prepare h, hsql, hparams⟩

theorem Executes.isWork {isDone : Bool} {n : Node} {r : Except Failure Reply} {es : List Event}
    (h : Executes config isDone n r es) : ∀ e ∈ es, e.call.isWork = true := by
  intro e he
  cases h with
  | done => cases he
  | unrendered => cases he
  | called => rw [List.mem_singleton.mp he, Call.isWork]

section

variable {isDone : Bool} {op : DataOp} {es : List Event}

theorem Works.isWork (h : Works config isDone op es) : ∀ e ∈ es, e.call.isWork = true := by
  intro e he
  cases h with
  | executed h => exact h.isWork e he
  | fetched _ h isOk =>
    obtain he | he := List.mem_append.mp he
    · exact h.isWork e he
    · rw [List.mem_singleton.mp he, Call.isWork]

theorem Handles.brackets (h : Handles config isDone op es) : Brackets es := by
  cases h with
  | silent => exact .nil
  | unopened => exact .unopened .nil
  | opened _ h isOk => exact .opened h.isWork isOk .nil

/-- What an operation on a statement executes is the statement, as it is rendered. -/
theorem Handles.sent (h : Handles config isDone op es) {sql : String}
    {params : Option (List Value)} {isOk : Bool} (hmem : ⟨.execute sql params, isOk⟩ ∈ es) :
    isDone = false ∧ ∃ rendered,
      op.node.render config.dialect config.inlining = .ok rendered ∧ sql = rendered.sql ∧
        params = rendered.params? := by
  cases h with
  | silent => cases hmem
  | unopened => cases List.mem_singleton.mp hmem
  | @opened work _ h =>
    have hmem : ⟨.execute sql params, isOk⟩ ∈ work := by simpa using hmem
    cases h with
    | executed h =>
      obtain ⟨hopen, -, hsent⟩ := h.sent hmem
      exact ⟨hopen, hsent⟩
    | fetched _ h =>
      obtain ⟨hopen, -, hsent⟩ := h.sent (by simpa using hmem)
      exact ⟨hopen, hsent⟩

theorem Handles.calls_of_not_executed (h : Handles config isDone op es)
    (hnone : ∀ r es, Executes config isDone op.node r es → es = [] ∧ r.isOk = false) :
    ∀ event ∈ es, event.call = .cursor ∨ event.call = .close := by
  intro event hevent
  cases h with
  | silent => cases hevent
  | unopened => exact .inl (by rw [List.mem_singleton.mp hevent])
  | opened _ h isOk =>
    cases h with
    | executed h =>
      obtain ⟨rfl, -⟩ := hnone _ _ h
      obtain rfl | hevent := List.mem_cons.mp hevent
      · exact .inl rfl
      · exact .inr (by rw [List.mem_singleton.mp hevent])
    | fetched _ h => cases (hnone _ _ h).2

theorem Handles.calls_of_unrendered (h : Handles config isDone op es) {e : Failure}
    (he : prepare config op.node = .error e) :
    ∀ event ∈ es, event.call = .cursor ∨ event.call = .close := by
  refine h.calls_of_not_executed ?_
  intro r es h
  cases h with
  | done => exact ⟨rfl, rfl⟩
  | unrendered => exact ⟨rfl, rfl⟩
  | called _ h =>
    rw [he] at h
    cases h

end

theorem Handles.calls_of_done {op : DataOp} {es : List Event} (h : Handles config true op es) :
    ∀ event ∈ es, event.call = .cursor ∨ event.call = .close := by
  refine h.calls_of_not_executed ?_
  intro r es h
  cases h with
  | done => exact ⟨rfl, rfl⟩
  | unrendered => exact ⟨rfl, rfl⟩
  | called hopen => cases hopen

theorem TransactionOp.isEnd_of_end? {op : TransactionOp} {k : Call} (h : op.end? = some k) :
    k.isEnd = true := by
  cases op with
  | commit => cases h; rfl
  | rollback => cases h; rfl
  | rollbackUnlessCommitted => cases h; rfl
  | leave isFailing =>
    cases h
    cases isFailing with
    | false => rfl
    | true => rfl
  | data => cases h
  | isDone => cases h
  | raise => cases h

/-- The events of an operation on a transaction. -/
inductive Undertakes (config : Config) (isDone : Bool) (op : TransactionOp) : List Event → Prop
  | handled {data : DataOp} {es : List Event} (hop : op = .data data)
    (h : Handles config isDone data es) : Undertakes config isDone op es
  | silent : Undertakes config isDone op []
  | ended {k : Call} (hopen : isDone = false) (hop : op.end? = some k) (isOk : Bool) :
    Undertakes config isDone op [⟨k, isOk⟩]

theorem Undertakes.brackets {isDone : Bool} {op : TransactionOp} {es : List Event}
    (h : Undertakes config isDone op es) : Brackets es := by
  cases h with
  | handled _ h => exact h.brackets
  | silent => exact .nil
  | ended _ hop => exact .ended (TransactionOp.isEnd_of_end? hop) .nil

/-- The events of a statement that the session itself executes: it goes on to the next call where
the last one succeeded, and commits behind all others. -/
inductive Commits (config : Config) (n : Node) : List Event → Prop
  | unopened : Commits config n [⟨.cursor, false⟩]
  | unrendered {e : Failure} (h : prepare config n = .error e) (isOk : Bool) :
    Commits config n [⟨.cursor, true⟩, ⟨.close, isOk⟩]
  | unexecuted {sent : Rendered × List Warning} (h : prepare config n = .ok sent) (isOk : Bool) :
    Commits config n
      [⟨.cursor, true⟩, ⟨.execute sent.1.sql sent.1.params?, false⟩, ⟨.close, isOk⟩]
  | unclosed {sent : Rendered × List Warning} (h : prepare config n = .ok sent) :
    Commits config n
      [⟨.cursor, true⟩, ⟨.execute sent.1.sql sent.1.params?, true⟩, ⟨.close, false⟩]
  | committed {sent : Rendered × List Warning} (h : prepare config n = .ok sent) (isOk : Bool) :
    Commits config n
      [⟨.cursor, true⟩, ⟨.execute sent.1.sql sent.1.params?, true⟩, ⟨.close, true⟩,
        ⟨.commit, isOk⟩]

namespace Commits

variable {n : Node} {es : List Event}

theorem brackets (h : Commits config n es) : Brackets es := by
  have hnone : ∀ e ∈ ([] : List Event), e.call.isWork = true := nofun
  have hone (sql : String) (params : Option (List Value)) (isOk : Bool) :
      ∀ e ∈ [(⟨.execute sql params, isOk⟩ : Event)], e.call.isWork = true := by
    intro e he
    rw [List.mem_singleton.mp he, Call.isWork]
  cases h with
  | unopened => exact .unopened .nil
  | unrendered _ isOk => exact .opened hnone isOk .nil
  | unexecuted _ isOk => exact .opened (hone _ _ _) isOk .nil
  | unclosed => exact .opened (hone _ _ _) false .nil
  | committed => exact .opened (hone _ _ _) true (.ended rfl .nil)

theorem sent (h : Commits config n es) {sql : String} {params : Option (List Value)}
    {isOk : Bool} (hmem : ⟨.execute sql params, isOk⟩ ∈ es) :
    ∃ r, n.render config.dialect config.inlining = .ok r ∧ sql = r.sql ∧
      params = if r.params = [] then none else some r.params := by
  have hsent {sent : Rendered × List Warning} (h : prepare config n = .ok sent)
      (heq : sql = sent.1.sql ∧ params = sent.1.params?) :
      ∃ r, n.render config.dialect config.inlining = .ok r ∧ sql = r.sql ∧
        params = if r.params = [] then none else some r.params :=
    ⟨sent.1, render_of_prepare h, heq.1, heq.2.trans sent.1.params?_eq⟩
  cases h with
  | unopened => simp at hmem
  | unrendered => simp at hmem
  | @unexecuted sent h =>
    obtain ⟨heq, -⟩ : (sql = sent.1.sql ∧ params = sent.1.params?) ∧ _ := by simpa using hmem
    exact hsent h heq
  | @unclosed sent h =>
    obtain ⟨heq, -⟩ : (sql = sent.1.sql ∧ params = sent.1.params?) ∧ _ := by simpa using hmem
    exact hsent h heq
  | @committed sent h =>
    obtain ⟨heq, -⟩ : (sql = sent.1.sql ∧ params = sent.1.params?) ∧ _ := by simpa using hmem
    exact hsent h heq

theorem calls_of_unrendered (h : Commits config n es) {e : Failure}
    (he : prepare config n = .error e) :
    ∀ event ∈ es, event.call = .cursor ∨ event.call = .close := by
  have hprepared {sent : Rendered × List Warning} (h : prepare config n = .ok sent) : False := by
    rw [he] at h
    cases h
  cases h with
  | unopened => simp
  | unrendered => simp
  | unexecuted h => exact (hprepared h).elim
  | unclosed h => exact (hprepared h).elim
  | committed h => exact (hprepared h).elim

theorem commit_mem_iff (h : Commits config n es) :
    (∃ isOk, ⟨.commit, isOk⟩ ∈ es) ↔
      ⟨.cursor, true⟩ ∈ es ∧ (∃ r, n.render config.dialect config.inlining = .ok r) ∧
        (∃ sql params, ⟨.execute sql params, true⟩ ∈ es) ∧ ⟨.close, true⟩ ∈ es := by
  cases h with
  | unopened => simp
  | unrendered => simp
  | unexecuted => simp
  | unclosed => simp
  | committed h => simp [render_of_prepare h]

theorem eq_of_commit_mem (h : Commits config n es) {isOk : Bool} (hmem : ⟨.commit, isOk⟩ ∈ es) :
    ∃ sql params, es =
      [⟨.cursor, true⟩, ⟨.execute sql params, true⟩, ⟨.close, true⟩, ⟨.commit, isOk⟩] := by
  cases h with
  | unopened => simp at hmem
  | unrendered => simp at hmem
  | unexecuted => simp at hmem
  | unclosed => simp at hmem
  | committed =>
    obtain rfl : isOk = _ := by simpa using hmem
    exact ⟨_, _, rfl⟩

end Commits

variable (db config)

theorem runTransaction_undertakes (isDone : Bool) (op : TransactionOp) :
    Records (runTransaction db config isDone op) fun _ es ↦ Undertakes config isDone op es := by
  have hend {m : TransactionRun σ Result} {k : Call} (h : Records m (Ends k isDone))
      (hop : op.end? = some k) : Records m fun _ es ↦ Undertakes config isDone op es := by
    refine h.mono fun p es hp ↦ ?_
    cases hp with
    | done => exact .silent
    | ended hopen => exact .ended hopen hop true
    | failed hopen => exact .ended hopen hop false
  cases op with
  | data op =>
    intro c
    obtain ⟨es, hes, h⟩ := runData_records db config isDone op c
    exact ⟨es, hes, .handled rfl h⟩
  | commit => exact hend (finish_records db isDone .commit) rfl
  | rollback => exact hend (finish_records db isDone .rollback) rfl
  | rollbackUnlessCommitted => exact hend (finishUnlessDone_records db isDone .rollback) rfl
  | leave isFailing => exact hend (finishUnlessDone_records db isDone _) rfl
  | isDone => exact Records.of_silent (fun _ ↦ rfl) fun _ ↦ .silent
  | raise kind text => exact Records.of_silent (fun _ ↦ rfl) fun _ ↦ .silent

theorem runOwn_exec_commits (n : Node) :
    Records (State.runOwn db config (.exec n)) fun _ es ↦ Commits config n es := by
  have hcommit (result : Result) := (Records.call db .commit).bind fun _ ↦ Records.pure result
  refine ((exec_onCursor db config false n).bind hcommit).mono ?_
  rintro r es (⟨e, rfl, h⟩ | ⟨result, first, rest, rfl, h, hrest⟩)
  · cases h with
    | unopened => exact .unopened
    | closed h =>
      obtain ⟨reply, h, hreply⟩ := h
      cases h with
      | done hopen => cases hopen
      | unrendered h => exact .unrendered h true
      | called _ h hok =>
        rw [← hok, ← hreply]
        exact .unexecuted h true
    | unclosed h =>
      obtain ⟨reply, h, -⟩ := h
      cases h with
      | done hopen => cases hopen
      | unrendered h => exact .unrendered h false
      | @called _ _ isOk _ h =>
        cases isOk with
        | false => exact .unexecuted h false
        | true => exact .unclosed h
  · have hlast : ∃ isOk, rest = [⟨.commit, isOk⟩] := by
      obtain ⟨_, -, hcall⟩ | ⟨_, _, _, rfl, hcall, -, rfl⟩ := hrest
      · obtain ⟨_, -, rfl⟩ | ⟨_, -, rfl⟩ := hcall
        · exact ⟨true, rfl⟩
        · exact ⟨false, rfl⟩
      · obtain ⟨_, -, rfl⟩ | ⟨_, -, rfl⟩ := hcall
        · exact ⟨true, rfl⟩
        · exact ⟨false, rfl⟩
    obtain ⟨isOk, rfl⟩ := hlast
    cases h with
    | closed h =>
      obtain ⟨reply, h, hreply⟩ := h
      cases h with
      | done hopen => cases hopen
      | unrendered => cases hreply
      | called _ h hok =>
        rw [← hok, ← hreply]
        exact .committed h isOk

end Session

end SqlRender
