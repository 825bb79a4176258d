import SqlRender.Proofs.Session.Records

namespace SqlRender.Session

variable {σ α : Type} (db : Database σ) (config : Config)

variable {config} in
theorem render_of_prepare {n : Node} {sent : Rendered × List Warning}
    (h : prepare config n = .ok sent) : n.render config.dialect config.inlining = .ok sent.1 := by
  rw [prepare] at h
  split at h
  · cases h
  · next r hr =>
    rw [hr]
    cases hwarnings : warnings config r with
    | error e =>
      rw [hwarnings] at h
      cases h
    | ok ws =>
      rw [hwarnings] at h
      cases h
      rfl

theorem render_records (n : Node) :
    Records (render config n : Run σ Rendered) fun r es ↦
      r = (prepare config n).map Prod.fst ∧ es = [] := by
  have hwarn (sent : Rendered × List Warning) :
      Records (do
        Run.warn sent.2
        return sent.1 : Run σ Rendered) fun r es ↦ r = .ok sent.1 ∧ es = [] :=
    Records.of_silent (fun _ ↦ rfl) fun _ ↦ ⟨rfl, rfl⟩
  refine ((Records.ofExcept _).bind hwarn).mono ?_
  rintro r es (⟨e, rfl, hr, rfl⟩ | ⟨sent, first, rest, rfl, ⟨hr, rfl⟩, rfl, rfl⟩)
  · rw [← hr]
    exact ⟨rfl, rfl⟩
  · rw [← hr]
    exact ⟨rfl, rfl⟩

/-- What is executed is the statement as it was rendered, where the transaction is open and the
text passed its check. -/
inductive Executes (isDone : Bool) (n : Node) : Except Failure Reply → List Event → Prop
  | done (h : isDone = true) : Executes isDone n (.error .transactionDone) []
  | unrendered {e : Failure} (h : prepare config n = .error e) : Executes isDone n (.error e) []
  | called {r : Except Failure Reply} {sent : Rendered × List Warning} {isOk : Bool}
    (hopen : isDone = false) (h : prepare config n = .ok sent) (hr : r.isOk = isOk) :
    Executes isDone n r
      [⟨.execute sent.1.sql (if sent.1.params.isEmpty then none else some sent.1.params), isOk⟩]

theorem execute_records (isDone : Bool) (n : Node) :
    Records (execute db config isDone n) (Executes config isDone n) := by
  cases isDone with
  | true => exact Records.of_silent (fun _ ↦ rfl) fun _ ↦ .done rfl
  | false =>
    refine ((render_records config n).bind fun rendered ↦ Records.call db _).mono ?_
    rintro r es (⟨e, rfl, hr, rfl⟩ | ⟨rendered, first, rest, rfl, ⟨hr, rfl⟩, hcall⟩)
    · cases hn : prepare config n with
      | ok sent =>
        rw [hn] at hr
        cases hr
      | error e' =>
        rw [hn] at hr
        cases hr
        exact .unrendered hn
    · cases hn : prepare config n with
      | error e =>
        rw [hn] at hr
        cases hr
      | ok sent =>
        rw [hn] at hr
        cases hr
        obtain ⟨reply, rfl, rfl⟩ | ⟨text, rfl, rfl⟩ := hcall
        · exact .called rfl hn rfl
        · exact .called rfl hn rfl

/-- What comes of a body that runs on a cursor of its own. -/
inductive OnCursor (P : Except Failure α → List Event → Prop) :
    Except Failure α → List Event → Prop
  | unopened (text : String) : OnCursor P (.error (.database text)) [⟨.cursor, false⟩]
  | closed {r : Except Failure α} {es : List Event} (h : P r es) :
    OnCursor P r (⟨.cursor, true⟩ :: es ++ [⟨.close, true⟩])
  | unclosed {r : Except Failure α} {es : List Event} (h : P r es) (text : String) :
    OnCursor P (.error (.database text)) (⟨.cursor, true⟩ :: es ++ [⟨.close, false⟩])

theorem withCursor_records {body : Run σ α} {P : Except Failure α → List Event → Prop}
    (h : Records body P) : Records (withCursor db body) (OnCursor P) := by
  have hclose : Records (do let _ ← Run.call db .close : Run σ Unit) fun r es ↦
      (r = .ok () ∧ es = [⟨.close, true⟩]) ∨
        ∃ text, r = .error (.database text) ∧ es = [⟨.close, false⟩] := by
    refine ((Records.call db .close).bind fun _ ↦ Records.pure ()).mono ?_
    rintro r es (⟨e, rfl, hcall⟩ | ⟨reply, first, rest, rfl, hcall, rfl, rfl⟩)
    · obtain ⟨reply, hr, -⟩ | ⟨text, hr, rfl⟩ := hcall
      · cases hr
      · cases hr
        exact .inr ⟨text, rfl, rfl⟩
    · obtain ⟨reply, -, rfl⟩ | ⟨text, hr, -⟩ := hcall
      · exact .inl ⟨rfl, rfl⟩
      · cases hr
  refine ((Records.call db .cursor).bind fun _ ↦ h.ensure hclose).mono ?_
  rintro r es (⟨e, rfl, hcall⟩ | ⟨reply, first, rest, rfl, hcall, hensure⟩)
  · obtain ⟨reply, hr, -⟩ | ⟨text, hr, rfl⟩ := hcall
    · cases hr
    · cases hr
      exact .unopened text
  · obtain ⟨-, -, rfl⟩ | ⟨text, hr, -⟩ := hcall
    · obtain ⟨r', work, closing, rfl, hP, hclosing⟩ := hensure
      obtain ⟨⟨-, rfl⟩ | ⟨text, hr, -⟩, rfl⟩ | ⟨e, ⟨hr, -⟩ | ⟨text, hr, rfl⟩, rfl⟩ := hclosing
      · exact .closed hP
      · cases hr
      · cases hr
      · cases hr
        exact .unclosed hP text
    · cases hr

/-- The call ends what is pending on the connection, if it succeeds. -/
def Call.isEnd : Call → Bool
  | .commit | .rollback => true
  | _ => false

def Endless (es : List Event) : Prop := ∀ e ∈ es, e.call.isEnd = false

theorem Endless.append {first rest : List Event} (hfirst : Endless first) (hrest : Endless rest) :
    Endless (first ++ rest) := by
  intro e he
  obtain he | he := List.mem_append.mp he
  · exact hfirst e he
  · exact hrest e he

theorem Endless.singleton {k : Call} (h : k.isEnd = false) (isOk : Bool) :
    Endless [⟨k, isOk⟩] := by
  intro e he
  obtain rfl := List.mem_singleton.mp he
  exact h

theorem Endless.nil : Endless [] := fun _ he ↦ absurd he List.not_mem_nil

theorem Executes.endless {isDone : Bool} {n : Node} {r : Except Failure Reply} {es : List Event}
    (h : Executes config isDone n r es) : Endless es := by
  cases h with
  | done => exact .nil
  | unrendered => exact .nil
  | called => exact .singleton rfl _

theorem OnCursor.endless {P : Except Failure α → List Event → Prop} {r : Except Failure α}
    {es : List Event} (h : OnCursor P r es) (hP : ∀ r es, P r es → Endless es) : Endless es := by
  have hopen : Endless [⟨.cursor, true⟩] := .singleton rfl _
  cases h with
  | unopened => exact .singleton rfl _
  | closed h => exact (hopen.append (hP _ _ h)).append (.singleton rfl _)
  | unclosed h => exact (hopen.append (hP _ _ h)).append (.singleton rfl _)

/-- An operation that goes on without a call adds nothing to the events. -/
theorem Records.bind_of_silent {β : Type} {m : Run σ α} {f : α → Run σ β}
    {P : List Event → Prop} (hm : Records m fun _ es ↦ P es)
    (hf : ∀ a c, (f a c).2.events = c.events) : Records (m >>= f) fun _ es ↦ P es := by
  refine (hm.bind fun a ↦ Records.of_silent (Q := fun _ es ↦ es = []) (hf a) fun _ ↦ rfl).mono ?_
  rintro r es (⟨e, -, h⟩ | ⟨a, first, rest, rfl, h, rfl⟩)
  · exact h
  · rw [List.append_nil]
    exact h

theorem exec_onCursor (isDone : Bool) (n : Node) :
    Records (exec db config isDone n) (OnCursor fun r es ↦
      ∃ reply, Executes config isDone n reply es ∧ r.isOk = reply.isOk) := by
  refine withCursor_records db (((execute_records db config isDone n).bind fun reply ↦
    Records.pure (Result.executed reply.rowCount reply.lastRowId)).mono ?_)
  rintro r es (⟨e, rfl, h⟩ | ⟨reply, first, rest, rfl, h, rfl, rfl⟩)
  · exact ⟨.error e, h, rfl⟩
  · rw [List.append_nil]
    exact ⟨.ok reply, h, rfl⟩

/-- A statement that is reported as executed was executed, and its cursor closed. -/
theorem exec_records (isDone : Bool) (n : Node) :
    Records (exec db config isDone n) fun r es ↦
      Endless es ∧ (r.isOk = true → ∃ sql params,
        es = [⟨.cursor, true⟩, ⟨.execute sql params, true⟩, ⟨.close, true⟩]) := by
  refine (exec_onCursor db config isDone n).mono ?_
  intro r es h
  refine ⟨h.endless fun _ _ ⟨_, h, _⟩ ↦ h.endless, ?_⟩
  intro hr
  cases h with
  | unopened => cases hr
  | unclosed => cases hr
  | closed h =>
    obtain ⟨reply, h, hreply⟩ := h
    rw [hr] at hreply
    cases h with
    | done => cases hreply
    | unrendered => cases hreply
    | called _ _ hok =>
      rw [← hok, ← hreply]
      exact ⟨_, _, rfl⟩

namespace DataOp

def node : DataOp → Node
  | exec n | load n | loadOne n | loadValue n | render n => n

/-- The operation sends its statement to the database. -/
def isSent : DataOp → Bool
  | render _ => false
  | _ => true

/-- The operation reads the rows that its statement gives. -/
def fetches : DataOp → Bool
  | load _ | loadOne _ | loadValue _ => true
  | _ => false

theorem isSent_of_fetches {op : DataOp} (h : op.fetches = true) : op.isSent = true := by
  cases op with
  | render n => cases h
  | _ => rfl

end DataOp

/-- What is done with a statement on a cursor that is open. -/
inductive Works (isDone : Bool) (op : DataOp) : List Event → Prop
  | executed {r : Except Failure Reply} {es : List Event} (h : Executes config isDone op.node r es)
    (hr : op.fetches = true → r.isOk = false) : Works isDone op es
  | fetched {reply : Reply} {es : List Event} (hop : op.fetches = true)
    (h : Executes config isDone op.node (.ok reply) es) (isOk : Bool) :
    Works isDone op (es ++ [⟨.fetchall, isOk⟩])

theorem Works.endless {isDone : Bool} {op : DataOp} {es : List Event}
    (h : Works config isDone op es) : Endless es := by
  cases h with
  | executed h => exact h.endless
  | fetched _ h isOk => exact h.endless.append (.singleton rfl isOk)

/-- The events of one operation on a statement. One that is sent asks for a cursor, and does its
work on it if there is one. -/
inductive Handles (isDone : Bool) (op : DataOp) : List Event → Prop
  | silent (hop : op.isSent = false) : Handles isDone op []
  | unopened (hop : op.isSent = true) : Handles isDone op [⟨.cursor, false⟩]
  | opened {work : List Event} (hop : op.isSent = true) (h : Works config isDone op work)
    (isOk : Bool) : Handles isDone op (⟨.cursor, true⟩ :: work ++ [⟨.close, isOk⟩])

theorem Handles.endless {isDone : Bool} {op : DataOp} {es : List Event}
    (h : Handles config isDone op es) : Endless es := by
  cases h with
  | silent => exact .nil
  | unopened => exact .singleton rfl _
  | opened _ h isOk =>
    exact ((Endless.singleton rfl true).append h.endless).append (.singleton rfl _)

theorem OnCursor.handles {P : Except Failure α → List Event → Prop} {isDone : Bool} {op : DataOp}
    {r : Except Failure α} {es : List Event} (h : OnCursor P r es) (hop : op.isSent = true)
    (hP : ∀ r es, P r es → Works config isDone op es) : Handles config isDone op es := by
  cases h with
  | unopened => exact .unopened hop
  | closed h => exact .opened hop (hP _ _ h) true
  | unclosed h => exact .opened hop (hP _ _ h) false

theorem load_records (isDone : Bool) {op : DataOp} (hop : op.fetches = true) :
    Records (load db config isDone op.node) fun _ es ↦ Handles config isDone op es := by
  have hbody := (execute_records db config isDone op.node).bind fun reply ↦
    (Records.call db .fetchall).bind fun fetched ↦
      Records.ofExcept (rowsOf reply.columns fetched.rows)
  have hfetch {r : Except Failure Reply} {es : List Event}
      (h : (∃ reply, r = .ok reply ∧ es = [⟨.fetchall, true⟩]) ∨
        ∃ text, r = .error (.database text) ∧ es = [⟨.fetchall, false⟩]) :
      ∃ isOk, es = [⟨.fetchall, isOk⟩] := by
    obtain ⟨_, _, rfl⟩ | ⟨_, _, rfl⟩ := h
    · exact ⟨true, rfl⟩
    · exact ⟨false, rfl⟩
  refine (withCursor_records db hbody).mono fun r es h ↦
    h.handles config (DataOp.isSent_of_fetches hop) ?_
  rintro r es (⟨e, -, h⟩ | ⟨reply, first, rest, rfl, h, ⟨e, -, hcall⟩ | hrest⟩)
  · exact .executed h fun _ ↦ rfl
  · obtain ⟨isOk, rfl⟩ := hfetch hcall
    exact .fetched hop h isOk
  · obtain ⟨fetched, calls, rest, rfl, hcall, -, rfl⟩ := hrest
    obtain ⟨isOk, rfl⟩ := hfetch hcall
    exact .fetched hop h isOk

theorem loadOne_records (isDone : Bool) {op : DataOp} (hop : op.fetches = true) :
    Records (loadOne db config isDone op.node) fun _ es ↦ Handles config isDone op es := by
  refine (load_records db config isDone hop).bind_of_silent ?_
  intro rows c
  cases rows with
  | nil => rfl
  | cons row rows => rfl

theorem loadValue_records (isDone : Bool) {op : DataOp} (hop : op.fetches = true) :
    Records (loadValue db config isDone op.node) fun _ es ↦ Handles config isDone op es := by
  refine (loadOne_records db config isDone hop).bind_of_silent ?_
  intro row c
  cases row with
  | nil => rfl
  | cons column row => rfl

theorem runData_records (isDone : Bool) (op : DataOp) :
    Records (runData db config isDone op) fun _ es ↦ Handles config isDone op es := by
  cases op with
  | exec n =>
    refine (exec_onCursor db config isDone n).mono fun r es h ↦ h.handles config rfl ?_
    rintro r es ⟨reply, h, -⟩
    exact .executed h nofun
  | load n =>
    have hop : (DataOp.load n).fetches = true := rfl
    exact (load_records db config isDone hop).bind_of_silent fun _ _ ↦ rfl
  | loadOne n =>
    have hop : (DataOp.loadOne n).fetches = true := rfl
    exact (loadOne_records db config isDone hop).bind_of_silent fun _ _ ↦ rfl
  | loadValue n =>
    have hop : (DataOp.loadValue n).fetches = true := rfl
    exact (loadValue_records db config isDone hop).bind_of_silent fun _ _ ↦ rfl
  | render n =>
    refine Records.bind_of_silent ?_ fun _ _ ↦ rfl
    exact (render_records config n).mono fun _ _ h ↦ h.2 ▸ .silent rfl

end SqlRender.Session
