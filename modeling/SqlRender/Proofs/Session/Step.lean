import SqlRender.Proofs.Session.Transaction
import SqlRender.Session.Step

namespace SqlRender.Session

variable {σ : Type}

def Step.on? : Step σ → Option String
  | transaction t _ | block t _ => some t
  | _ => none

namespace State

theorem lookup_setDone_self {t : String} {isDone : Bool} {ts : List (String × Bool)}
    (h : ts.lookup t = some isDone) (done : Bool) : (setDone t done ts).lookup t = some done := by
  induction ts with
  | nil => cases h
  | cons entry rest ih =>
    obtain ⟨u, done'⟩ := entry
    rw [setDone]
    split
    · next hut => rw [hut, List.lookup_cons_self]
    · next hut =>
      have hne : (t == u) = false := beq_false_of_ne (Ne.symm hut)
      rw [List.lookup_cons, hne] at h ⊢
      exact ih h

theorem lookup_setDone_of_ne {t u : String} (h : u ≠ t) (done : Bool)
    (ts : List (String × Bool)) : (setDone u done ts).lookup t = ts.lookup t := by
  induction ts with
  | nil => rfl
  | cons entry rest ih =>
    obtain ⟨v, done'⟩ := entry
    rw [setDone]
    split
    · next hvu =>
      have hne : (t == v) = false := beq_false_of_ne (Ne.symm (hvu ▸ h))
      rw [List.lookup_cons, List.lookup_cons, hne]
    · rw [List.lookup_cons, List.lookup_cons, ih]

theorem setDone_of_lookup {t : String} {isDone : Bool} {ts : List (String × Bool)}
    (h : ts.lookup t = some isDone) : setDone t isDone ts = ts := by
  induction ts with
  | nil => rfl
  | cons entry rest ih =>
    obtain ⟨u, done⟩ := entry
    rw [setDone]
    split
    · next hut =>
      rw [hut, List.lookup_cons_self] at h
      rw [hut, Option.some.inj h]
    · next hut =>
      have hne : (t == u) = false := beq_false_of_ne (Ne.symm hut)
      rw [List.lookup_cons, hne] at h
      rw [ih h]

variable (db : Database σ) (config : Config)

/-- A statement of the session itself is committed once its cursor is closed. -/
theorem runOwn_exec_records (n : Node) :
    Records (runOwn db config (.exec n)) fun r es ↦
      (r.isOk = false ∧ Endless es) ∨
        ∃ sql params isOk, r.isOk = isOk ∧
          es = [⟨.cursor, true⟩, ⟨.execute sql params, true⟩, ⟨.close, true⟩, ⟨.commit, isOk⟩] := by
  have hcommit (result : Result) := (Records.call db .commit).bind fun _ ↦ Records.pure result
  refine ((exec_records db config false n).bind hcommit).mono ?_
  rintro r es (⟨e, rfl, hendless, -⟩ | ⟨result, first, rest, rfl, ⟨-, hfirst⟩, hrest⟩)
  · exact .inl ⟨rfl, hendless⟩
  · obtain ⟨sql, params, rfl⟩ := hfirst rfl
    obtain ⟨e, rfl, hcall⟩ | ⟨reply, _, _, rfl, hcall, rfl, rfl⟩ := hrest
    · obtain ⟨_, hr, -⟩ | ⟨_, -, rfl⟩ := hcall
      · cases hr
      · exact .inr ⟨sql, params, false, rfl, rfl⟩
    · obtain ⟨_, -, rfl⟩ | ⟨_, hr, -⟩ := hcall
      · exact .inr ⟨sql, params, true, rfl, rfl⟩
      · cases hr

theorem runOwn_records_of_ne_exec {op : DataOp} (h : ∀ n, op ≠ .exec n) :
    Records (runOwn db config op) fun _ es ↦ Handles config false op es := by
  cases op with
  | exec n => exact absurd rfl (h n)
  | load n => exact (runData_records db config false _).bind_of_silent fun _ _ ↦ rfl
  | loadOne n => exact (runData_records db config false _).bind_of_silent fun _ _ ↦ rfl
  | loadValue n => exact (runData_records db config false _).bind_of_silent fun _ _ ↦ rfl
  | render n => exact (runData_records db config false _).bind_of_silent fun _ _ ↦ rfl

variable {db config}

theorem runOn_of_lookup {s : State σ} {t : String} {isDone : Bool}
    (h : s.transactions.lookup t = some isDone) (m : Bool → TransactionRun σ Result) :
    s.runOn t m =
      ((m isDone s.connection).1.1,
        ⟨(m isDone s.connection).2, setDone t (m isDone s.connection).1.2 s.transactions⟩) := by
  rw [runOn, h]

theorem runOn_of_unknown {s : State σ} {t : String} (h : s.transactions.lookup t = none)
    (m : Bool → TransactionRun σ Result) : s.runOn t m = (.error (.noTransaction t), s) := by
  rw [runOn, h]

/-- What a step can do, by the events that it adds. -/
inductive Effect (db : Database σ) (config : Config) (s : State σ) (step : Step σ)
    (es : List Event) : Prop
  | quiet (hes : Endless es)
    (hlookup : ∀ t, step ≠ .begin t →
      (s.step db config step).2.transactions.lookup t = s.transactions.lookup t)
  /-- A statement of the session itself was executed. -/
  | own {n : Node} {sql : String} {params : Option (List Value)} {isOk : Bool}
    (hstep : step = .data (.exec n))
    (hes : es = [⟨.cursor, true⟩, ⟨.execute sql params, true⟩, ⟨.close, true⟩, ⟨.commit, isOk⟩])
  | on {t : String} {isDone done : Bool} (hon : step.on? = some t)
    (hs : s.transactions.lookup t = some isDone)
    (haccounts : Accounts isDone ((s.step db config step).1, done) es)
    (hend : ∀ u op, step = .transaction u op →
      ∀ e ∈ es, e.call.isEnd = true → op.end? = some e.call)
    (htransactions : (s.step db config step).2.transactions = setDone t done s.transactions)

variable (db config)

theorem exists_effect_of_silent {s : State σ} {step : Step σ}
    (hes : (s.step db config step).2.connection.events = s.connection.events)
    (hlookup : ∀ t, step ≠ .begin t →
      (s.step db config step).2.transactions.lookup t = s.transactions.lookup t) :
    ∃ es, (s.step db config step).2.connection.events = s.connection.events ++ es ∧
      Effect db config s step es :=
  ⟨[], hes.trans (List.append_nil _).symm, .quiet .nil hlookup⟩

theorem exists_effect_of_runOn {s : State σ} {step : Step σ} {t : String}
    {m : Bool → TransactionRun σ Result} (hon : step.on? = some t)
    (hstep : s.step db config step = s.runOn t m)
    (hm : ∀ isDone, Records (m isDone) fun p es ↦ Accounts isDone p es ∧
      ∀ op, step = .transaction t op → ∀ e ∈ es, e.call.isEnd = true → op.end? = some e.call) :
    ∃ es, (s.step db config step).2.connection.events = s.connection.events ++ es ∧
      Effect db config s step es := by
  cases hs : s.transactions.lookup t with
  | none =>
    rw [runOn_of_unknown hs] at hstep
    apply exists_effect_of_silent
    · rw [hstep]
    · intro u _
      rw [hstep]
  | some isDone =>
    obtain ⟨es, hes, haccounts, hend⟩ := hm isDone s.connection
    rcases hrun : m isDone s.connection with ⟨⟨r, done⟩, c⟩
    rw [hrun] at hes haccounts
    rw [runOn_of_lookup hs, hrun] at hstep
    have hresult : (s.step db config step).1 = r := by rw [hstep]
    refine ⟨es, ?_, .on hon hs (hresult.symm ▸ haccounts) ?_ ?_⟩
    · rw [hstep]
      exact hes
    · intro u op hop
      rw [hop] at hon
      cases hon
      exact hend op hop
    · rw [hstep]

theorem exists_effect (s : State σ) (step : Step σ) :
    ∃ es, (s.step db config step).2.connection.events = s.connection.events ++ es ∧
      Effect db config s step es := by
  cases step with
  | data op =>
    by_cases hexec : ∃ n, op = .exec n
    · obtain ⟨n, rfl⟩ := hexec
      obtain ⟨es, hes, hown⟩ := runOwn_exec_records db config n s.connection
      refine ⟨es, hes, ?_⟩
      obtain ⟨-, hendless⟩ | ⟨sql, params, isOk, -, hshape⟩ := hown
      · exact .quiet hendless fun _ _ ↦ rfl
      · exact .own rfl hshape
    · obtain ⟨es, hes, hhandles⟩ :=
        runOwn_records_of_ne_exec db config (not_exists.mp hexec) s.connection
      exact ⟨es, hes, .quiet hhandles.endless fun _ _ ↦ rfl⟩
  | begin t =>
    by_cases hbegun : config.dialect.capabilities.transactions = true
    · apply exists_effect_of_silent
      · rw [step, if_pos hbegun]
      · intro u hu
        have hne : (u == t) = false := beq_false_of_ne fun h ↦ hu (h ▸ rfl)
        rw [step, if_pos hbegun, List.lookup_cons, hne]
    · apply exists_effect_of_silent
      · rw [step, if_neg hbegun]
      · intro u _
        rw [step, if_neg hbegun]
  | transaction t op =>
    have hstep : s.step db config (.transaction t op) =
        s.runOn t fun isDone ↦ runTransaction db config isDone op := rfl
    refine exists_effect_of_runOn db config rfl hstep fun isDone ↦ ?_
    refine (runTransaction_records db config isDone op).mono ?_
    intro p es h
    refine ⟨h.1, ?_⟩
    intro op' hop
    cases hop
    exact h.2
  | block t ops =>
    have hstep : s.step db config (.block t ops) =
        s.runOn t fun isDone ↦ runBlock db config isDone ops := rfl
    refine exists_effect_of_runOn db config rfl hstep fun isDone ↦ ?_
    refine (runBlock_records db config isDone ops).mono ?_
    intro p es h
    refine ⟨h, ?_⟩
    intro op hop
    cases hop
  | outside change => exact exists_effect_of_silent db config rfl fun _ _ ↦ rfl

/-- The events of a step, behind those that were before it. -/
def newEvents (s : State σ) (step : Step σ) : List Event :=
  (s.step db config step).2.connection.events.drop s.connection.events.length

variable {db config}

theorem newEvents_eq {s : State σ} {step : Step σ} {es : List Event}
    (h : (s.step db config step).2.connection.events = s.connection.events ++ es) :
    s.newEvents db config step = es := by
  rw [newEvents, h, List.drop_left]

variable (db config)

theorem events_step (s : State σ) (step : Step σ) :
    (s.step db config step).2.connection.events =
      s.connection.events ++ s.newEvents db config step := by
  obtain ⟨es, hes, -⟩ := exists_effect db config s step
  rw [newEvents_eq hes, hes]

theorem effect (s : State σ) (step : Step σ) :
    Effect db config s step (s.newEvents db config step) := by
  obtain ⟨es, hes, heffect⟩ := exists_effect db config s step
  rw [newEvents_eq hes]
  exact heffect

/-- A transaction is done by its own calls that succeed, and by nothing else. -/
theorem lookup_step {s : State σ} {step : Step σ} {t : String} {isDone : Bool}
    (hs : s.transactions.lookup t = some isDone) (hfresh : step ≠ .begin t) :
    ∃ done, (s.step db config step).2.transactions.lookup t = some done ∧
      done.toNat = isDone.toNat +
        if step.on? = some t then (s.newEvents db config step).countP Event.settles else 0 := by
  cases effect db config s step with
  | quiet hes hlookup =>
    refine ⟨isDone, (hlookup t hfresh).trans hs, ?_⟩
    rw [hes.countP_settles, ite_self, Nat.add_zero]
  | own hstep =>
    rw [hstep]
    exact ⟨isDone, hs, rfl⟩
  | @on u isDone' done hon hs' haccounts _ htransactions =>
    rw [htransactions, hon]
    by_cases hut : u = t
    · subst hut
      obtain rfl := Option.some.inj (hs.symm.trans hs')
      refine ⟨done, lookup_setDone_self hs done, ?_⟩
      rw [if_pos rfl]
      exact haccounts.count
    · refine ⟨isDone, (lookup_setDone_of_ne hut done _).trans hs, ?_⟩
      rw [if_neg fun h ↦ hut (Option.some.inj h), Nat.add_zero]

/-- The state behind some steps, those that fail included. -/
def run (s : State σ) (steps : List (Step σ)) : State σ :=
  steps.foldl (fun s step ↦ (s.step db config step).2) s

theorem run_cons (s : State σ) (step : Step σ) (steps : List (Step σ)) :
    s.run db config (step :: steps) = (s.step db config step).2.run db config steps := rfl

theorem run_append (s : State σ) (before after : List (Step σ)) :
    s.run db config (before ++ after) = (s.run db config before).run db config after :=
  List.foldl_append

/-- The events of the steps that are made on one transaction. -/
def eventsOn (t : String) (s : State σ) : List (Step σ) → List Event
  | [] => []
  | step :: steps =>
    (if step.on? = some t then s.newEvents db config step else []) ++
      eventsOn t (s.step db config step).2 steps

theorem lookup_run_eventsOn {s : State σ} {steps : List (Step σ)} {t : String} {isDone : Bool}
    (hs : s.transactions.lookup t = some isDone) (hfresh : ∀ step ∈ steps, step ≠ .begin t) :
    ∃ done, (s.run db config steps).transactions.lookup t = some done ∧
      done.toNat = isDone.toNat + (s.eventsOn db config t steps).countP Event.settles := by
  induction steps generalizing s isDone with
  | nil => exact ⟨isDone, hs, rfl⟩
  | cons step steps ih =>
    obtain ⟨hstep, hrest⟩ := List.forall_mem_cons.mp hfresh
    obtain ⟨done, hdone, hcount⟩ := lookup_step db config hs hstep
    obtain ⟨done', hdone', hcount'⟩ := ih hdone hrest
    refine ⟨done', hdone', ?_⟩
    rw [eventsOn, List.countP_append, hcount', hcount, Nat.add_assoc, apply_ite (List.countP _),
      List.countP_nil]

theorem lookup_run {s : State σ} {steps : List (Step σ)} {t : String} {isDone : Bool}
    (hs : s.transactions.lookup t = some isDone) (hfresh : ∀ step ∈ steps, step ≠ .begin t) :
    ∃ done, (s.run db config steps).transactions.lookup t = some done ∧
      (isDone = true → done = true) := by
  obtain ⟨done, hdone, hcount⟩ := lookup_run_eventsOn db config hs hfresh
  refine ⟨done, hdone, ?_⟩
  rintro rfl
  cases done with
  | true => rfl
  | false =>
    change 0 = 1 + _ at hcount
    omega

theorem lookup_of_run {s : State σ} {steps : List (Step σ)} {t : String} {isDone : Bool}
    (hs : s.transactions.lookup t = some isDone) (hfresh : ∀ step ∈ steps, step ≠ .begin t)
    (hopen : (s.run db config steps).transactions.lookup t = some false) : isDone = false := by
  obtain ⟨done, hdone, hkept⟩ := lookup_run db config hs hfresh
  rw [hopen] at hdone
  obtain rfl := Option.some.inj hdone
  cases isDone with
  | false => rfl
  | true => exact (hkept rfl).symm

end State

end SqlRender.Session
