import SqlRender.Session.Data

namespace SqlRender.Session

variable {σ α β γ : Type}

namespace Run

theorem bind_of_ok {m : Run σ α} {c c' : Connection σ} {a : α} (h : m c = (.ok a, c'))
    (f : α → Run σ γ) : (m >>= f) c = f a c' := by
  show Run.bind m f c = _
  rw [Run.bind, h]

theorem bind_of_error {m : Run σ α} {c c' : Connection σ} {e : Failure}
    (h : m c = (.error e, c')) (f : α → Run σ γ) : (m >>= f) c = (.error e, c') := by
  show Run.bind m f c = _
  rw [Run.bind, h]

theorem exists_bind_of_ok {m : Run σ α} {c : Connection σ} {a : α} (h : (m c).1 = .ok a)
    (f : α → Run σ γ) : ∃ c', (m >>= f) c = f a c' :=
  ⟨(m c).2, bind_of_ok (Prod.ext h rfl) f⟩

theorem ofExcept_apply (r : Except Failure α) (c : Connection σ) : ofExcept r c = (r, c) := by
  cases r with
  | ok => rfl
  | error => rfl

/-- A call fails with the text that the database gives, and leaves the state that it gives. -/
theorem respond_of_call_error {db : Database σ} {k : Call} {c c' : Connection σ} {e : Failure}
    (h : call db k c = (.error e, c')) :
    ∃ text, db.respond k c.state = (.error text, c'.state) ∧ e = .database text := by
  rw [call] at h
  split at h
  · cases h
  · next text state hrespond =>
    cases h
    exact ⟨text, hrespond, rfl⟩

theorem ensure_of_ok {body : Run σ α} {cleanup : Run σ Unit} {c c₁ c₂ : Connection σ}
    {r : Except Failure α} (hbody : body c = (r, c₁)) (hcleanup : cleanup c₁ = (.ok (), c₂)) :
    ensure body cleanup c = (r, c₂) := by
  simp only [ensure, hbody, hcleanup]

theorem ensure_of_error {body : Run σ α} {cleanup : Run σ Unit} {c c₁ c₂ : Connection σ}
    {r : Except Failure α} {e : Failure} (hbody : body c = (r, c₁))
    (hcleanup : cleanup c₁ = (.error e, c₂)) : ensure body cleanup c = (.error e, c₂) := by
  simp only [ensure, hbody, hcleanup]

end Run

/-- From every state the operation adds events that fit its result. -/
def Records (m : Connection σ → β × Connection σ) (Q : β → List Event → Prop) : Prop :=
  ∀ c, ∃ es, (m c).2.events = c.events ++ es ∧ Q (m c).1 es

namespace Records

theorem mono {m : Connection σ → β × Connection σ} {P Q : β → List Event → Prop}
    (h : Records m P) (hPQ : ∀ r es, P r es → Q r es) : Records m Q := by
  intro c
  obtain ⟨es, hes, hP⟩ := h c
  exact ⟨es, hes, hPQ _ es hP⟩

theorem of_silent {m : Connection σ → β × Connection σ} {Q : β → List Event → Prop}
    (hm : ∀ c, (m c).2.events = c.events) (hQ : ∀ c, Q (m c).1 []) : Records m Q := by
  intro c
  exact ⟨[], by rw [hm, List.append_nil], hQ c⟩

theorem pure (a : α) : Records (Pure.pure a : Run σ α) fun r es ↦ r = .ok a ∧ es = [] :=
  of_silent (fun _ ↦ rfl) fun _ ↦ ⟨rfl, rfl⟩

theorem raise (e : Failure) :
    Records (Run.raise e : Run σ α) fun r es ↦ r = .error e ∧ es = [] :=
  of_silent (fun _ ↦ rfl) fun _ ↦ ⟨rfl, rfl⟩

theorem ofExcept (r : Except Failure α) :
    Records (Run.ofExcept r : Run σ α) fun r' es ↦ r' = r ∧ es = [] := by
  cases r with
  | ok a => exact pure a
  | error e => exact raise e

theorem call (db : Database σ) (k : Call) :
    Records (Run.call db k) fun r es ↦
      (∃ reply, r = .ok reply ∧ es = [⟨k, true⟩]) ∨
        ∃ text, r = .error (.database text) ∧ es = [⟨k, false⟩] := by
  intro c
  rw [Run.call]
  obtain ⟨outcome, state⟩ := db.respond k c.state
  cases outcome with
  | ok reply => exact ⟨_, rfl, .inl ⟨reply, rfl, rfl⟩⟩
  | error text => exact ⟨_, rfl, .inr ⟨text, rfl, rfl⟩⟩

/-- The first operation fails, or the second one goes on where it ended. -/
theorem bind {m : Run σ α} {f : α → Run σ γ} {P : Except Failure α → List Event → Prop}
    {Q : α → Except Failure γ → List Event → Prop} (hm : Records m P)
    (hf : ∀ a, Records (f a) (Q a)) :
    Records (m >>= f) fun r es ↦
      (∃ e, r = .error e ∧ P (.error e) es) ∨
        ∃ a first rest, es = first ++ rest ∧ P (.ok a) first ∧ Q a r rest := by
  intro c
  obtain ⟨first, hfirst, hP⟩ := hm c
  rcases hc : m c with ⟨r, c'⟩
  rw [hc] at hfirst hP
  cases r with
  | error e =>
    rw [Run.bind_of_error hc]
    exact ⟨first, hfirst, .inl ⟨e, rfl, hP⟩⟩
  | ok a =>
    obtain ⟨rest, hrest, hQ⟩ := hf a c'
    rw [Run.bind_of_ok hc]
    refine ⟨first ++ rest, ?_, .inr ⟨a, first, rest, rfl, hP, hQ⟩⟩
    rw [hrest, hfirst, List.append_assoc]

theorem ensure {body : Run σ α} {cleanup : Run σ Unit} {P : Except Failure α → List Event → Prop}
    {Q : Except Failure Unit → List Event → Prop} (hbody : Records body P)
    (hcleanup : Records cleanup Q) :
    Records (Run.ensure body cleanup) fun r es ↦
      ∃ r' first rest, es = first ++ rest ∧ P r' first ∧
        (Q (.ok ()) rest ∧ r = r' ∨ ∃ e, Q (.error e) rest ∧ r = .error e) := by
  intro c
  obtain ⟨first, hfirst, hP⟩ := hbody c
  rcases hc : body c with ⟨r', c₁⟩
  rw [hc] at hfirst hP
  obtain ⟨rest, hrest, hQ⟩ := hcleanup c₁
  rw [hfirst, List.append_assoc] at hrest
  rcases hc₁ : cleanup c₁ with ⟨r₂, c₂⟩
  rw [hc₁] at hrest hQ
  cases r₂ with
  | ok =>
    rw [Run.ensure_of_ok hc hc₁]
    exact ⟨first ++ rest, hrest, r', first, rest, rfl, hP, .inl ⟨hQ, rfl⟩⟩
  | error e =>
    rw [Run.ensure_of_error hc hc₁]
    exact ⟨first ++ rest, hrest, r', first, rest, rfl, hP, .inr ⟨e, hQ, rfl⟩⟩

end Records

end SqlRender.Session
