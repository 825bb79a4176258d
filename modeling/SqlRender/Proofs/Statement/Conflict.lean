import Mathlib.Data.List.DropRight
import SqlRender.Statement.Insert

namespace SqlRender.Insert

namespace Step

/-- The step says what is done with rows that exist already. -/
def isUpsert : Step → Bool
  | .onConflict _ | .doUpdate _ | .doUpdateSet .. | .doNothing => true
  | _ => false

def target? : Step → Option (List String)
  | .onConflict target => some target
  | _ => none

/-- The step decides between overwriting and doing nothing. -/
def isResolution : Step → Bool
  | .doUpdate _ | .doUpdateSet .. | .doNothing => true
  | _ => false

def isDoNothing : Step → Bool
  | .doNothing => true
  | _ => false

def actions : Step → List ConflictAction
  | .doUpdate names => names.map .proposed
  | .doUpdateSet name v => [.set name v]
  | _ => []

/-- The conflict clause behind the step. -/
def revise : Step → OnConflict → OnConflict
  | .onConflict target, c => { c with target }
  | .doUpdate names, c => c.addActions (names.map .proposed)
  | .doUpdateSet name v, c => c.addActions [.set name v]
  | .doNothing, c => c.doNothing
  | _, c => c

end Step

variable {s s' : Insert} {step : Step} {steps : List Step}

theorem conflict_of_apply (h : s.apply step = .ok s') :
    s'.conflict =
      if step.isUpsert then some (step.revise (s.conflict.getD {})) else s.conflict := by
  cases step with
  | record r =>
    obtain ⟨columnNames, rows, rfl⟩ := exists_of_addRecord h
    rfl
  | _ =>
    cases h
    rfl

theorem exists_apply_of_applyAll (h : s.applyAll (steps ++ [step]) = .ok s') :
    ∃ mid, s.applyAll steps = .ok mid ∧ mid.apply step = .ok s' := by
  rw [applyAll, List.foldlM_append] at h
  change (s.applyAll steps >>= fun mid ↦ List.foldlM apply mid [step]) = _ at h
  cases hmid : s.applyAll steps with
  | error e =>
    rw [hmid] at h
    cases h
  | ok mid =>
    rw [hmid] at h
    have hstep : List.foldlM apply mid [step] = .ok s' := h
    rw [List.foldlM_cons] at hstep
    exact ⟨mid, rfl, by simpa using hstep⟩

/-- The last target, whether the last resolution is to do nothing, and all actions since the last
time that it was. -/
def resolved (steps : List Step) : OnConflict where
  target := (steps.filterMap Step.target?).getLast?.getD []
  actions := (steps.rtakeWhile (!·.isDoNothing)).flatMap Step.actions
  ignore := (steps.filter Step.isResolution).getLast?.any Step.isDoNothing

theorem resolved_concat (steps : List Step) (step : Step) :
    resolved (steps ++ [step]) = step.revise (resolved steps) := by
  cases step <;>
    simp [resolved, Step.revise, Step.target?, Step.isResolution, Step.isDoNothing, Step.actions,
      OnConflict.addActions, OnConflict.doNothing]

theorem revise_of_not_isUpsert (h : step.isUpsert = false) (c : OnConflict) :
    step.revise c = c := by
  cases step with
  | onConflict | doUpdate | doUpdateSet | doNothing => cases h
  | _ => rfl

/-- By induction on the run: the conflict clause is there as soon as a step speaks of it. -/
theorem conflict_of_applyAll {table : String} {mapper : Mapper}
    (h : applyAll { table, mapper } steps = .ok s) :
    s.conflict.isSome = steps.any Step.isUpsert ∧ s.conflict.getD {} = resolved steps := by
  induction steps using List.reverseRecOn generalizing s with
  | nil =>
    cases h
    exact ⟨rfl, rfl⟩
  | append_singleton steps step ih =>
    obtain ⟨mid, hmid, hstep⟩ := exists_apply_of_applyAll h
    obtain ⟨hsome, hresolved⟩ := ih hmid
    rw [conflict_of_apply hstep, List.any_append, resolved_concat, ← hresolved]
    cases hupsert : step.isUpsert with
    | true => simp [hupsert]
    | false => simp [hupsert, hsome, revise_of_not_isUpsert hupsert]

theorem ignore_resolved_iff (steps : List Step) :
    (resolved steps).ignore = true ↔
      (steps.filter Step.isResolution).getLast? = some .doNothing := by
  have hisDoNothing (step : Step) : step.isDoNothing = true ↔ step = .doNothing := by
    cases step <;> simp [Step.isDoNothing]
  rw [resolved, Option.any_eq_true]
  simp only [hisDoNothing, exists_eq_right]

theorem actions_resolved_of_ignore (steps : List Step) (h : (resolved steps).ignore = true) :
    (resolved steps).actions = [] := by
  induction steps using List.reverseRecOn with
  | nil => rfl
  | append_singleton steps step ih =>
    rw [resolved_concat] at h ⊢
    cases step with
    | doUpdate | doUpdateSet => cases h
    | doNothing => rfl
    | _ => exact ih h

theorem addPairs_withConflict (s : Insert) (change : OnConflict → OnConflict)
    (pairs : List (String × Value)) :
    (s.withConflict change).addPairs pairs = (s.addPairs pairs).map (·.withConflict change) := by
  cases hcolumns : s.columnNames.isEmpty with
  | true => simp [addPairs, withConflict, hcolumns, Except.map]
  | false =>
    cases hmissing : (s.columnNames.filter fun c ↦ (lastValue? c pairs).isNone).isEmpty <;>
      simp [addPairs, withConflict, hcolumns, hmissing, Except.map]

/-- No other step reads the target, and the target is read by none. -/
theorem applyAll_onConflict_swap (s : Insert) (target : List String)
    (h : ∀ target, step ≠ .onConflict target) :
    s.applyAll [.onConflict target, step] = s.applyAll [step, .onConflict target] := by
  cases step with
  | onConflict target' => exact absurd rfl (h target')
  | record r =>
    show addRecord s.mapper.pairs (s.withConflict _) r >>= pure =
      s.apply (.record r) >>= fun s ↦ s.applyAll [.onConflict target]
    rw [bind_pure, apply, addRecord, addRecord]
    cases s.mapper.pairs r with
    | error e => rfl
    | ok pairs =>
      show addPairs _ pairs = addPairs s pairs >>= _
      rw [addPairs_withConflict]
      cases s.addPairs pairs <;> rfl
  | _ => rfl

/-- The conflict clause is there as soon as a step speaks of it. Its target is the last one, the
last resolution decides whether it does nothing, and its actions are those since it last did. The
target may be given before or behind any other step. -/
theorem conflict_normal_form {table : String} {mapper : Mapper}
    (h : applyAll { table, mapper } steps = .ok s) :
    (s.conflict = none ↔ ∀ step ∈ steps, step.isUpsert = false) ∧
      (∀ c, s.conflict = some c →
        c.target = (steps.filterMap Step.target?).getLast?.getD [] ∧
        (c.ignore = true ↔ (steps.filter Step.isResolution).getLast? = some .doNothing) ∧
        c.actions = (steps.rtakeWhile (!·.isDoNothing)).flatMap Step.actions ∧
        (c.ignore = true → c.actions = [])) ∧
      ∀ (t : Insert) (target : List String) (step : Step), (∀ other, step ≠ .onConflict other) →
        t.applyAll [.onConflict target, step] = t.applyAll [step, .onConflict target] := by
  obtain ⟨hsome, hresolved⟩ := conflict_of_applyAll h
  refine ⟨?_, ?_, fun t target step hstep ↦ applyAll_onConflict_swap t target hstep⟩
  · rw [← Option.not_isSome_iff_eq_none, hsome, List.any_eq_true]
    simp only [not_exists, not_and, Bool.not_eq_true]
  · intro c hc
    rw [hc, Option.getD_some] at hresolved
    subst hresolved
    exact ⟨rfl, ignore_resolved_iff steps, rfl, actions_resolved_of_ignore steps⟩

/-- Doing nothing is given up again, and the target is given twice. -/
theorem conflict_normal_form_of_two_targets :
    let one : Value := .scalar (.int 1)
    let record : Record := .value (.mapping [(.scalar (.text "a"), one)])
    let steps : List Step := [.onConflict ["a"], .doUpdate ["b"], .doNothing, .record record,
      .doUpdateSet "c" one, .doUpdate ["d", "e"], .onConflict ["f"], .returning ["a"]]
    ∃ s c, applyAll { table := "t" } steps = .ok s ∧ s.conflict = some c ∧ c.target = ["f"] ∧
      c.ignore ≠ true ∧ c.actions = [.set "c" one, .proposed "d", .proposed "e"] := by
  intro one record steps
  let c : OnConflict :=
    { target := ["f"]
      actions := [.set "c" one, .proposed "d", .proposed "e"] }
  let s : Insert :=
    { table := "t"
      columnNames := ["a"]
      rows := [[one]]
      conflict := some c
      returning := ["a"] }
  have hs : applyAll { table := "t" } steps = .ok s := rfl
  obtain ⟨htarget, hignore, hactions, -⟩ := (conflict_normal_form hs).2.1 c rfl
  refine ⟨s, c, hs, rfl, htarget, ?_, hactions⟩
  intro h
  cases hignore.mp h

end SqlRender.Insert
