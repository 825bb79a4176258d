import SqlRender.Proofs.Session.Data
import SqlRender.Session.Transaction

namespace SqlRender.Session

variable {σ α : Type}

/-- What was pending on the connection is so no longer. -/
def Event.settles (e : Event) : Bool := e.call.isEnd && e.isOk

theorem Endless.countP_settles {es : List Event} (h : Endless es) :
    es.countP Event.settles = 0 := by
  rw [List.countP_eq_zero]
  intro e he
  rw [Event.settles, h e he]
  exact Bool.false_ne_true

/-- What happens in a transaction that may be done: it is done by one call that succeeds, and no
operation goes on behind one that failed. -/
structure Accounts (isDone : Bool) (p : Except Failure α × Bool) (es : List Event) : Prop where
  count : p.2.toNat = isDone.toNat + es.countP Event.settles
  ends : p.1.isOk = true → ∀ e ∈ es, e.call.isEnd = true → e.isOk = true

theorem Endless.accounts {es : List Event} (h : Endless es) (isDone : Bool)
    (r : Except Failure α) : Accounts isDone (r, isDone) es where
  count := by rw [h.countP_settles, Nat.add_zero]
  ends _ e he hend := absurd ((h e he).symm.trans hend) Bool.false_ne_true

theorem Accounts.append {β γ : Type} {isDone done done' : Bool} {r : Except Failure α}
    {r' : Except Failure β} {first rest : List Event} (hfirst : Accounts isDone (r, done) first)
    (hrest : Accounts done (r', done') rest) {q : Except Failure γ}
    (hq : q.isOk = true → r.isOk = true ∧ r'.isOk = true) :
    Accounts isDone (q, done') (first ++ rest) where
  count := by
    have h₁ : done.toNat = _ := hfirst.count
    have h₂ : done'.toNat = _ := hrest.count
    rw [List.countP_append]
    show done'.toNat = _
    omega
  ends := by
    intro hok e he
    obtain ⟨hr, hr'⟩ := hq hok
    obtain he | he := List.mem_append.mp he
    · exact hfirst.ends hr e he
    · exact hrest.ends hr' e he

theorem Accounts.endless {isDone : Bool} {p : Except Failure α × Bool} {es : List Event}
    (h : Accounts isDone p es) (hopen : p.2 = false) (hp : p.1.isOk = true) : Endless es := by
  intro e he
  have hcount := h.count
  rw [hopen, Bool.toNat_false] at hcount
  cases hend : e.call.isEnd with
  | false => rfl
  | true =>
    have hsettles : e.settles = true := by
      rw [Event.settles, hend, h.ends hp e he hend]
      rfl
    have hpos : 0 < es.countP Event.settles := List.countP_pos_iff.mpr ⟨e, he, hsettles⟩
    omega

namespace TransactionOp

/-- The call by which the operation ends an open transaction. -/
def end? : TransactionOp → Option Call
  | commit => some .commit
  | rollback | rollbackUnlessCommitted => some .rollback
  | leave isFailing => some (if isFailing then .rollback else .commit)
  | _ => none

end TransactionOp

variable (db : Database σ) (config : Config)

inductive Ends (k : Call) (isDone : Bool) : Except Failure Result × Bool → List Event → Prop
  | done {r : Except Failure Result} (h : isDone = true) : Ends k isDone (r, true) []
  | ended (h : isDone = false) : Ends k isDone (.ok .nothing, true) [⟨k, true⟩]
  | failed (h : isDone = false) (text : String) :
    Ends k isDone (.error (.database text), false) [⟨k, false⟩]

theorem finish_records (isDone : Bool) (k : Call) :
    Records (finish db isDone k) (Ends k isDone) := by
  intro c
  cases isDone with
  | true => exact ⟨[], (List.append_nil _).symm, .done rfl⟩
  | false =>
    obtain ⟨es, hes, hcall⟩ := Records.call db k c
    rcases hc : Run.call db k c with ⟨r, c'⟩
    rw [hc] at hes hcall
    simp only [finish, Bool.false_eq_true, if_false, hc]
    obtain ⟨reply, rfl, rfl⟩ | ⟨text, rfl, rfl⟩ := hcall
    · exact ⟨_, hes, .ended rfl⟩
    · exact ⟨_, hes, .failed rfl text⟩

variable {db} in
/-- What fails with a text of the database fails with that of the call. -/
theorem respond_of_finishUnlessDone {isDone done : Bool} {k : Call} {c c' : Connection σ}
    {text : String}
    (h : finishUnlessDone db isDone k c = ((.error (.database text), done), c')) :
    db.respond k c.state = (.error text, c'.state) := by
  cases isDone with
  | true => cases h
  | false =>
    rcases hcall : Run.call db k c with ⟨r, c₁⟩
    simp only [finishUnlessDone, finish, Bool.false_eq_true, if_false, hcall] at h
    cases r with
    | ok reply => cases h
    | error e =>
      cases h
      obtain ⟨text, hrespond, hfailure⟩ := Run.respond_of_call_error hcall
      cases hfailure
      exact hrespond

theorem finishUnlessDone_records (isDone : Bool) (k : Call) :
    Records (finishUnlessDone db isDone k) (Ends k isDone) := by
  cases isDone with
  | true => exact Records.of_silent (fun _ ↦ rfl) fun _ ↦ .done rfl
  | false => exact finish_records db false k

theorem Ends.accounts {k : Call} (hk : k.isEnd = true) {isDone : Bool}
    {p : Except Failure Result × Bool} {es : List Event} (h : Ends k isDone p es) :
    Accounts isDone p es := by
  cases h with
  | done h =>
    rw [h]
    exact Endless.nil.accounts true _
  | ended h =>
    have hsettles : Event.settles ⟨k, true⟩ = true := by rw [Event.settles, hk]; rfl
    refine ⟨?_, ?_⟩
    · rw [h, List.countP_singleton, if_pos hsettles]
      rfl
    · intro _ e he _
      rw [List.mem_singleton.mp he]
  | failed h text =>
    have hsettles : ¬Event.settles ⟨k, false⟩ = true := by
      rw [Event.settles, Bool.and_false]
      exact Bool.false_ne_true
    refine ⟨?_, ?_⟩
    · rw [h, List.countP_singleton, if_neg hsettles]
      rfl
    · intro hr
      cases hr

theorem Ends.call_eq {k : Call} {isDone : Bool} {p : Except Failure Result × Bool}
    {es : List Event} (h : Ends k isDone p es) : ∀ e ∈ es, e.call = k := by
  intro e he
  cases h with
  | done => exact absurd he List.not_mem_nil
  | ended => rw [List.mem_singleton.mp he]
  | failed => rw [List.mem_singleton.mp he]

theorem runTransaction_records (isDone : Bool) (op : TransactionOp) :
    Records (runTransaction db config isDone op) fun p es ↦
      Accounts isDone p es ∧ ∀ e ∈ es, e.call.isEnd = true → op.end? = some e.call := by
  have hend {m : TransactionRun σ Result} {k : Call} (h : Records m (Ends k isDone))
      (hk : k.isEnd = true) (hop : op.end? = some k) :
      Records m fun p es ↦
        Accounts isDone p es ∧ ∀ e ∈ es, e.call.isEnd = true → op.end? = some e.call := by
    refine h.mono ?_
    intro p es hp
    refine ⟨hp.accounts hk, ?_⟩
    intro e he _
    rw [hop, hp.call_eq e he]
  have hsilent (r : Except Failure Result) :
      Accounts isDone (r, isDone) [] ∧
        ∀ e ∈ ([] : List Event), e.call.isEnd = true → op.end? = some e.call :=
    ⟨Endless.nil.accounts isDone r, fun _ he ↦ absurd he List.not_mem_nil⟩
  cases op with
  | data op =>
    intro c
    obtain ⟨es, hes, hhandles⟩ := runData_records db config isDone op c
    have hendless := hhandles.endless
    refine ⟨es, hes, hendless.accounts isDone _, ?_⟩
    intro e he hend
    rw [hendless e he] at hend
    cases hend
  | commit => exact hend (finish_records db isDone .commit) rfl rfl
  | rollback => exact hend (finish_records db isDone .rollback) rfl rfl
  | rollbackUnlessCommitted => exact hend (finishUnlessDone_records db isDone .rollback) rfl rfl
  | leave isFailing =>
    refine hend (finishUnlessDone_records db isDone _) ?_ rfl
    cases isFailing with
    | false => rfl
    | true => rfl
  | isDone => exact Records.of_silent (fun _ ↦ rfl) fun _ ↦ hsilent _
  | raise kind text => exact Records.of_silent (fun _ ↦ rfl) fun _ ↦ hsilent _

theorem runAll_records (isDone : Bool) (ops : List TransactionOp) :
    Records (runAll db config isDone ops) (Accounts isDone) := by
  induction ops generalizing isDone with
  | nil => exact Records.of_silent (fun _ ↦ rfl) fun _ ↦ Endless.nil.accounts isDone _
  | cons op rest ih =>
    intro c
    obtain ⟨es, hes, hop, -⟩ := runTransaction_records db config isDone op c
    rcases hc : runTransaction db config isDone op c with ⟨⟨r, done⟩, c₁⟩
    rw [hc] at hes hop
    cases r with
    | error e =>
      simp only [runAll, hc]
      exact ⟨es, hes, hop.count, fun hr ↦ absurd hr Bool.false_ne_true⟩
    | ok result =>
      obtain ⟨es', hes', hrest⟩ := ih done c₁
      rw [hes, List.append_assoc] at hes'
      rcases hc₁ : runAll db config done rest c₁ with ⟨⟨r, done'⟩, c₂⟩
      rw [hc₁] at hes' hrest
      cases r with
      | error e =>
        simp only [runAll, hc, hc₁]
        exact ⟨es ++ es', hes', hop.append hrest fun hr ↦ absurd hr Bool.false_ne_true⟩
      | ok results =>
        simp only [runAll, hc, hc₁]
        exact ⟨es ++ es', hes', hop.append hrest fun _ ↦ ⟨rfl, rfl⟩⟩

theorem leave_records (isDone isFailing : Bool) :
    Records (leave db isDone isFailing)
      (Ends (if isFailing then .rollback else .commit) isDone) :=
  finishUnlessDone_records db isDone _

/-- A block is left in the state in which its operations end. -/
theorem exists_leave_of_block (isDone : Bool) (ops : List TransactionOp) (c : Connection σ) :
    ∃ r done c₁ r' done' c₂ result,
      runAll db config isDone ops c = ((r, done), c₁) ∧
      leave db done (!r.isOk) c₁ = ((r', done'), c₂) ∧
      runBlock db config isDone ops c = ((result, done'), c₂) ∧
      (result.isOk = true → r.isOk = true ∧ r'.isOk = true) ∧
      ∀ e, r' = .error e → result = .error e := by
  rcases hall : runAll db config isDone ops c with ⟨⟨r, done⟩, c₁⟩
  rcases hleave : leave db done (!r.isOk) c₁ with ⟨⟨r', done'⟩, c₂⟩
  have hblock : ∃ result, runBlock db config isDone ops c = ((result, done'), c₂) ∧
      (result.isOk = true → r.isOk = true ∧ r'.isOk = true) ∧
      ∀ e, r' = .error e → result = .error e := by
    have hfailed {e : Failure} : (.error e : Except Failure Result).isOk = true →
        r.isOk = true ∧ r'.isOk = true := fun h ↦ absurd h Bool.false_ne_true
    cases r with
    | ok results =>
      change leave db done false c₁ = _ at hleave
      cases r' with
      | ok result =>
        refine ⟨.ok (.block results), ?_, fun _ ↦ ⟨rfl, rfl⟩, fun e h ↦ nomatch h⟩
        simp only [runBlock, hall, hleave]
      | error e =>
        refine ⟨.error e, ?_, hfailed, fun e' h ↦ Except.error.inj h ▸ rfl⟩
        simp only [runBlock, hall, hleave]
    | error e =>
      change leave db done true c₁ = _ at hleave
      cases r' with
      | ok result =>
        refine ⟨.error e, ?_, hfailed, fun e' h ↦ nomatch h⟩
        simp only [runBlock, hall, hleave]
      | error e' =>
        refine ⟨.error e', ?_, hfailed, fun e'' h ↦ Except.error.inj h ▸ rfl⟩
        simp only [runBlock, hall, hleave]
  obtain ⟨result, hblock⟩ := hblock
  exact ⟨r, done, c₁, r', done', c₂, result, rfl, hleave, hblock⟩

theorem runBlock_records (isDone : Bool) (ops : List TransactionOp) :
    Records (runBlock db config isDone ops) (Accounts isDone) := by
  intro c
  obtain ⟨r, done, c₁, r', done', c₂, result, hall, hleave, hblock, hok, -⟩ :=
    exists_leave_of_block db config isDone ops c
  obtain ⟨es, hes, hops⟩ := runAll_records db config isDone ops c
  obtain ⟨es', hes', hend⟩ := leave_records db done (!r.isOk) c₁
  rw [hall] at hes hops
  rw [hleave] at hes' hend
  have hcall : (if !r.isOk then Call.rollback else Call.commit).isEnd = true := by
    cases r.isOk with
    | true => rfl
    | false => rfl
  rw [hes, List.append_assoc] at hes'
  rw [hblock]
  exact ⟨es ++ es', hes', hops.append (hend.accounts hcall) hok⟩

def EndsNormally (isDone : Bool) (ops : List TransactionOp) (c : Connection σ) : Prop :=
  (runAll db config isDone ops c).1.1.isOk = true

variable {db config}

/-- Where a block ends normally, a commit that fails is its own, and its last call. -/
theorem runBlock_of_failed_commit {isDone : Bool} {ops : List TransactionOp} {c : Connection σ}
    (hnormal : EndsNormally db config isDone ops c) {es : List Event}
    (hes : (runBlock db config isDone ops c).2.events = c.events ++ es)
    (hfailed : ⟨.commit, false⟩ ∈ es) :
    isDone = false ∧ ∃ work before text, es = work ++ [⟨.commit, false⟩] ∧ Endless work ∧
      db.respond .commit before = (.error text, (runBlock db config isDone ops c).2.state) ∧
      (runBlock db config isDone ops c).1 = (.error (.database text), false) := by
  obtain ⟨r, done, c₁, r', done', c₂, result, hall, hleave, hblock, -, herror⟩ :=
    exists_leave_of_block db config isDone ops c
  obtain ⟨work, hwork, hops⟩ := runAll_records db config isDone ops c
  rw [EndsNormally, hall] at hnormal
  rw [hall] at hwork hops
  rw [hblock] at hes
  have hr : r.isOk = true := hnormal
  rw [hr] at hleave
  obtain ⟨closing, hclosing, hend⟩ := leave_records db done false c₁
  change leave db done false c₁ = _ at hleave
  rw [hleave] at hclosing hend
  rw [hwork, hes, List.append_assoc, List.append_cancel_left_eq] at hclosing
  subst hclosing
  -- An operation whose commit fails would have ended the block with its error.
  have hgood : (⟨.commit, false⟩ : Event) ∉ work := by
    intro hmem
    cases hops.ends hnormal _ hmem rfl
  cases hend with
  | done h =>
    rw [List.append_nil] at hfailed
    exact absurd hfailed hgood
  | ended h =>
    obtain hmem | hmem := List.mem_append.mp hfailed
    · exact absurd hmem hgood
    · cases List.mem_singleton.mp hmem
  | failed h text =>
    have hendless := hops.endless h hnormal
    have hcount := hops.count
    have hopen : isDone = false := by
      change done.toNat = _ at hcount
      rw [h, hendless.countP_settles] at hcount
      cases isDone with
      | false => rfl
      | true => cases hcount
    refine ⟨hopen, work, c₁.state, text, rfl, hendless, ?_, ?_⟩
    · rw [hblock]
      exact respond_of_finishUnlessDone hleave
    · rw [hblock, herror _ rfl]

end SqlRender.Session
