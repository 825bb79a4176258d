import SqlRender.Proofs.Session.Step

namespace SqlRender.Session

/-- What a database keeps of the statements that were executed on it, each named by the place of
its event. -/
structure Ledger where
  length : Nat := 0
  pending : List Nat := []
  persisted : List Nat := []
  pending_lt : ∀ k ∈ pending, k < length := by simp
  persisted_lt : ∀ k ∈ persisted, k < length := by simp
  disjoint : ∀ k ∈ pending, k ∉ persisted := by simp

namespace Ledger

def wait (l : Ledger) : Ledger where
  length := l.length + 1
  pending := l.pending
  persisted := l.persisted
  pending_lt k hk := Nat.lt_succ_of_lt (l.pending_lt k hk)
  persisted_lt k hk := Nat.lt_succ_of_lt (l.persisted_lt k hk)
  disjoint := l.disjoint

def execute (l : Ledger) : Ledger where
  length := l.length + 1
  pending := l.pending ++ [l.length]
  persisted := l.persisted
  pending_lt := by
    intro k hk
    obtain hk | hk := List.mem_append.mp hk
    · exact Nat.lt_succ_of_lt (l.pending_lt k hk)
    · rw [List.mem_singleton.mp hk]
      exact Nat.lt_succ_self _
  persisted_lt k hk := Nat.lt_succ_of_lt (l.persisted_lt k hk)
  disjoint := by
    intro k hk hpersisted
    obtain hk | hk := List.mem_append.mp hk
    · exact l.disjoint k hk hpersisted
    · rw [List.mem_singleton.mp hk] at hpersisted
      exact absurd (l.persisted_lt _ hpersisted) (Nat.lt_irrefl _)

def commit (l : Ledger) : Ledger where
  length := l.length + 1
  pending := []
  persisted := l.persisted ++ l.pending
  persisted_lt := by
    intro k hk
    obtain hk | hk := List.mem_append.mp hk
    · exact Nat.lt_succ_of_lt (l.persisted_lt k hk)
    · exact Nat.lt_succ_of_lt (l.pending_lt k hk)

def rollback (l : Ledger) : Ledger where
  length := l.length + 1
  pending := []
  persisted := l.persisted
  persisted_lt k hk := Nat.lt_succ_of_lt (l.persisted_lt k hk)

/-- A commit persists all that is pending, and a rollback drops it. A call that fails changes
nothing. -/
def record (l : Ledger) (e : Event) : Ledger :=
  match e.isOk, e.call with
  | true, .execute .. => l.execute
  | true, .commit => l.commit
  | true, .rollback => l.rollback
  | _, _ => l.wait

def replay (l : Ledger) (es : List Event) : Ledger := es.foldl record l

theorem replay_cons (l : Ledger) (e : Event) (es : List Event) :
    l.replay (e :: es) = (l.record e).replay es := rfl

theorem replay_append (l : Ledger) (first rest : List Event) :
    l.replay (first ++ rest) = (l.replay first).replay rest := List.foldl_append

/-- What is recorded of an event, by what it does to the statements before it. -/
inductive Recorded (l : Ledger) (e : Event) : Ledger → Prop
  | wait (h : e.settles = false) : Recorded l e l.wait
  | execute (h : e.settles = false) : Recorded l e l.execute
  | commit (h : e.settles = true) (hcall : e.call = .commit) : Recorded l e l.commit
  | rollback (h : e.settles = true) (hcall : e.call = .rollback) : Recorded l e l.rollback

theorem recorded (l : Ledger) (e : Event) : Recorded l e (l.record e) := by
  obtain ⟨call, isOk⟩ := e
  cases isOk with
  | false => exact .wait (Bool.and_false _)
  | true =>
    cases call with
    | commit => exact .commit rfl rfl
    | rollback => exact .rollback rfl rfl
    | execute => exact .execute rfl
    | cursor => exact .wait rfl
    | fetchall => exact .wait rfl
    | close => exact .wait rfl

theorem length_replay (l : Ledger) (es : List Event) :
    (l.replay es).length = l.length + es.length := by
  induction es generalizing l with
  | nil => rfl
  | cons e es ih =>
    have hrecord : (l.record e).length = l.length + 1 := by
      have hrecorded := l.recorded e
      generalize l.record e = l' at hrecorded ⊢
      cases hrecorded with
      | wait => rfl
      | execute => rfl
      | commit => rfl
      | rollback => rfl
    rw [replay_cons, ih, hrecord, List.length_cons]
    omega

theorem mem_persisted_replay {l : Ledger} {k : Nat} (hk : k ∈ l.persisted) (es : List Event) :
    k ∈ (l.replay es).persisted := by
  induction es generalizing l with
  | nil => exact hk
  | cons e es ih =>
    apply ih
    have hrecorded := l.recorded e
    generalize l.record e = l' at hrecorded ⊢
    cases hrecorded with
    | wait => exact hk
    | execute => exact hk
    | commit => exact List.mem_append_left _ hk
    | rollback => exact hk

/-- What was dropped does not come back. -/
theorem not_mem_persisted_replay {l : Ledger} {k : Nat} (hlt : k < l.length)
    (hpending : k ∉ l.pending) (hpersisted : k ∉ l.persisted) (es : List Event) :
    k ∉ (l.replay es).persisted := by
  induction es generalizing l with
  | nil => exact hpersisted
  | cons e es ih =>
    have hlt' := Nat.lt_succ_of_lt hlt
    rw [replay_cons]
    have hrecorded := l.recorded e
    generalize l.record e = l' at hrecorded ⊢
    cases hrecorded with
    | wait => exact ih hlt' hpending hpersisted
    | execute =>
      refine ih hlt' ?_ hpersisted
      intro hk
      obtain hk | hk := List.mem_append.mp hk
      · exact hpending hk
      · have heq := List.mem_singleton.mp hk
        omega
    | commit =>
      refine ih hlt' List.not_mem_nil ?_
      intro hk
      obtain hk | hk := List.mem_append.mp hk
      · exact hpersisted hk
      · exact hpending hk
    | rollback => exact ih hlt' List.not_mem_nil hpersisted

/-- The call by which all that is pending is settled. -/
def settledBy? (es : List Event) : Option Call := (es.find? Event.settles).map Event.call

theorem settledBy?_cons_of_settles {e : Event} (h : e.settles = true) (es : List Event) :
    settledBy? (e :: es) = some e.call := by
  rw [settledBy?, List.find?_cons_of_pos h]
  rfl

theorem settledBy?_cons_of_not_settles {e : Event} (h : e.settles = false) (es : List Event) :
    settledBy? (e :: es) = settledBy? es := by
  rw [settledBy?, List.find?_cons_of_neg (by rw [h]; exact Bool.false_ne_true)]
  rfl

theorem settledBy?_of_mem {es : List Event} {e : Event} (he : e ∈ es) (hsettles : e.settles = true)
    (hcount : es.countP Event.settles ≤ 1) : settledBy? es = some e.call := by
  induction es with
  | nil => exact absurd he List.not_mem_nil
  | cons e' es ih =>
    cases h : e'.settles with
    | false =>
      rw [List.countP_cons_of_neg (by rw [h]; exact Bool.false_ne_true)] at hcount
      rw [settledBy?_cons_of_not_settles h]
      obtain rfl | he := List.mem_cons.mp he
      · rw [hsettles] at h
        cases h
      · exact ih he hcount
    | true =>
      rw [List.countP_cons_of_pos h] at hcount
      rw [settledBy?_cons_of_settles h]
      obtain rfl | he := List.mem_cons.mp he
      · rfl
      · have hpos : 0 < es.countP Event.settles := List.countP_pos_iff.mpr ⟨e, he, hsettles⟩
        omega

/-- The first commit or rollback that succeeds decides on a pending statement. -/
theorem mem_persisted_replay_iff {l : Ledger} {k : Nat} (hk : k ∈ l.pending) (es : List Event) :
    k ∈ (l.replay es).persisted ↔ settledBy? es = some .commit := by
  induction es generalizing l with
  | nil => exact iff_of_false (l.disjoint k hk) nofun
  | cons e es ih =>
    rw [replay_cons]
    have hrecorded := l.recorded e
    generalize l.record e = l' at hrecorded ⊢
    cases hrecorded with
    | wait h =>
      rw [settledBy?_cons_of_not_settles h]
      exact ih hk
    | execute h =>
      rw [settledBy?_cons_of_not_settles h]
      exact ih (List.mem_append_left _ hk)
    | commit h hcall =>
      rw [settledBy?_cons_of_settles h, hcall]
      exact iff_of_true (mem_persisted_replay (List.mem_append_right _ hk) es) rfl
    | rollback h hcall =>
      rw [settledBy?_cons_of_settles h, hcall]
      have hlt : k < l.rollback.length := Nat.lt_succ_of_lt (l.pending_lt k hk)
      have hdropped : k ∉ l.rollback.persisted := l.disjoint k hk
      exact iff_of_false (not_mem_persisted_replay hlt List.not_mem_nil hdropped es) nofun

theorem mem_pending_replay {l : Ledger} {k : Nat} (hk : k ∈ l.pending) {es : List Event}
    (h : es.countP Event.settles = 0) : k ∈ (l.replay es).pending := by
  induction es generalizing l with
  | nil => exact hk
  | cons e es ih =>
    obtain ⟨he, hes⟩ := List.forall_mem_cons.mp (List.countP_eq_zero.mp h)
    refine ih ?_ (List.countP_eq_zero.mpr hes)
    have hrecorded := l.recorded e
    generalize l.record e = l' at hrecorded ⊢
    cases hrecorded with
    | wait => exact hk
    | execute => exact List.mem_append_left _ hk
    | commit h => exact absurd h he
    | rollback h => exact absurd h he

end Ledger

def IsExecutedAt (es : List Event) (k : Nat) : Prop :=
  ∃ sql params, es[k]? = some ⟨.execute sql params, true⟩

theorem Ledger.mem_pending_replay_of_executed {l : Ledger} {es : List Event} {k : Nat}
    (hk : IsExecutedAt es k) (h : es.countP Event.settles = 0) :
    l.length + k ∈ (l.replay es).pending := by
  induction es generalizing l k with
  | nil =>
    obtain ⟨sql, params, hk⟩ := hk
    cases hk
  | cons e es ih =>
    obtain ⟨sql, params, hk⟩ := hk
    obtain ⟨he, hes⟩ := List.forall_mem_cons.mp (List.countP_eq_zero.mp h)
    have hes' := List.countP_eq_zero.mpr hes
    cases k with
    | zero =>
      obtain rfl := Option.some.inj hk
      have hlast : l.length ∈ l.execute.pending := List.mem_append_right _ List.mem_cons_self
      exact mem_pending_replay hlast hes'
    | succ k =>
      have hrest := ih (l := l.record e) ⟨sql, params, hk⟩ hes'
      have hlength : (l.record e).length = l.length + 1 := length_replay l [e]
      rw [hlength, Nat.add_assoc, Nat.add_comm 1] at hrest
      exact hrest

namespace State

variable {σ : Type} (db : Database σ) (config : Config)

def ledger (s : State σ) : Ledger := Ledger.replay {} s.connection.events

def runEvents (s : State σ) (steps : List (Step σ)) : List Event :=
  (s.run db config steps).connection.events.drop s.connection.events.length

theorem events_run (s : State σ) (steps : List (Step σ)) :
    (s.run db config steps).connection.events =
      s.connection.events ++ s.runEvents db config steps := by
  have hgrown : ∃ es, (s.run db config steps).connection.events = s.connection.events ++ es := by
    induction steps generalizing s with
    | nil => exact ⟨[], (List.append_nil _).symm⟩
    | cons step steps ih =>
      obtain ⟨es, hes⟩ := ih (s.step db config step).2
      refine ⟨s.newEvents db config step ++ es, ?_⟩
      rw [run_cons, hes, events_step, List.append_assoc]
  obtain ⟨es, hes⟩ := hgrown
  rw [runEvents, hes, List.drop_left]

theorem ledger_run (s : State σ) (steps : List (Step σ)) :
    (s.run db config steps).ledger = s.ledger.replay (s.runEvents db config steps) := by
  rw [ledger, events_run, Ledger.replay_append]
  rfl

theorem ledger_step (s : State σ) (step : Step σ) :
    (s.step db config step).2.ledger = s.ledger.replay (s.newEvents db config step) := by
  rw [ledger, events_step, Ledger.replay_append]
  rfl

theorem length_ledger (s : State σ) : s.ledger.length = s.connection.events.length := by
  rw [ledger, Ledger.length_replay]
  exact Nat.zero_add _

end State

end SqlRender.Session
