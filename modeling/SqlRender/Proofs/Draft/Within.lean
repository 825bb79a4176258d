import SqlRender.Proofs.Draft.Adds

namespace SqlRender

/-- Members that are no scalars have a type that cannot be rendered. -/
theorem Value.error_of_scalarMembers {vs : List Value} {e : Error}
    (h : scalarMembers vs = .error e) : ∃ typeName rule, e = .unsupportedType typeName rule := by
  induction vs with
  | nil => cases h
  | cons v rest ih =>
    cases v with
    | scalar s =>
      rw [scalarMembers] at h
      cases hrest : scalarMembers rest with
      | ok scalars =>
        rw [hrest] at h
        cases h
      | error e' =>
        rw [hrest] at h
        cases h
        exact ih hrest
    | _ =>
      cases h
      exact ⟨_, _, rfl⟩

theorem Opening.error_of_ofComparison {d : Dialect} {column : String} {op : CompareOp} {v : Value}
    {e : Error} (h : ofComparison d column op v = .error e) :
    ∃ typeName rule, e = .unsupportedType typeName rule := by
  have hcollection {operator : String} {ifEmpty : Bool}
      (h : ofCollection d column operator ifEmpty v = .error e) :
      ∃ typeName rule, e = .unsupportedType typeName rule := by
    rw [ofCollection] at h
    cases hmembers : Value.scalarMembers v.members with
    | error e' =>
      rw [hmembers] at h
      cases h
      exact Value.error_of_scalarMembers hmembers
    | ok scalars =>
      rw [hmembers] at h
      cases scalars <;> cases h
  unfold ofComparison at h
  split at h
  · cases h
  · cases h
  · split at h
    · split at h
      · exact hcollection h
      · exact hcollection h
      · cases h
        exact ⟨_, _, rfl⟩
    · cases h

namespace Draft

/-- The draft ends in no errors but some, and binds no values but some. -/
structure Within (E : Error → Prop) (P : Scalar → Prop) (a : Draft) : Prop where
  error : ∀ e ∈ a.error, E e
  values : ∀ s ∈ values a.chunks, P s

namespace Within

variable {E : Error → Prop} {P : Scalar → Prop} {a b : Draft} {as : List Draft} {d : Dialect}

theorem of_values_eq_nil (herror : ∀ e ∈ a.error, E e) (hvalues : Draft.values a.chunks = []) :
    a.Within E P := by
  refine ⟨herror, ?_⟩
  rw [hvalues]
  exact fun _ hs ↦ absurd hs List.not_mem_nil

theorem of_complete (herror : a.error = none) (hvalues : ∀ s ∈ Draft.values a.chunks, P s) :
    a.Within E P := by
  refine ⟨?_, hvalues⟩
  rw [herror]
  exact fun _ he ↦ absurd he (Option.not_mem_none _)

theorem empty : Draft.empty.Within E P :=
  of_values_eq_nil (fun _ he ↦ absurd he (Option.not_mem_none _)) rfl

theorem text (sql : String) : (Draft.text sql).Within E P :=
  of_values_eq_nil (fun _ he ↦ absurd he (Option.not_mem_none _)) rfl

theorem fail {e : Error} (h : E e) : (Draft.fail e).Within E P := by
  refine of_values_eq_nil ?_ rfl
  rintro _ ⟨⟩
  exact h

theorem bind {s : Scalar} (h : P s) : (Draft.mk [.bind s] none).Within E P :=
  of_complete rfl (List.forall_mem_singleton.mpr h)

theorem append (ha : a.Within E P) (hb : b.Within E P) : (a ++ b).Within E P := by
  cases h : a.error with
  | some e =>
    rw [append_of_error h]
    exact ha
  | none =>
    rw [append_of_complete h]
    refine ⟨hb.error, ?_⟩
    rw [values_append, List.forall_mem_append]
    exact ⟨ha.values, hb.values⟩

theorem require {condition : Bool} {e : Error} (h : condition = false → E e) :
    (require condition e).Within E P := by
  cases condition with
  | true => exact empty
  | false => exact fail (h rfl)

theorem parenthesized (h : a.Within E P) : a.parenthesized.Within E P :=
  ((text "(").append h).append (text ")")

theorem operand (isQuery : Bool) (h : a.Within E P) : (operand isQuery a).Within E P := by
  cases isQuery with
  | true => exact h.parenthesized
  | false => exact h

theorem sequence (h : ∀ a ∈ as, a.Within E P) : (sequence as).Within E P := by
  induction as with
  | nil => exact empty
  | cons a rest ih =>
    obtain ⟨ha, hrest⟩ := List.forall_mem_cons.mp h
    exact ha.append (ih hrest)

theorem join (separator : String) (h : ∀ a ∈ as, a.Within E P) :
    (join separator as).Within E P := by
  induction as with
  | nil => exact empty
  | cons a rest ih =>
    obtain ⟨ha, hrest⟩ := List.forall_mem_cons.mp h
    cases rest with
    | nil => exact ha
    | cons b rest => exact (ha.append (text separator)).append (ih hrest)

theorem join_parenthesized (separator : String) (h : ∀ a ∈ as, a.Within E P) :
    (Draft.join separator (as.map Draft.parenthesized)).Within E P :=
  join separator (List.forall_mem_map.mpr fun a ha ↦ (h a ha).parenthesized)

theorem combination (op : BoolOp) (h : ∀ a ∈ as, a.Within E P) :
    (combination d op as).Within E P := by
  unfold Draft.combination
  split
  · exact text _
  · exact join_parenthesized _ h

theorem conditions (keyword : String) (h : ∀ a ∈ as, a.Within E P) :
    (conditions keyword as).Within E P := by
  unfold Draft.conditions
  split
  · exact empty
  · exact (text _).append (join_parenthesized _ h)

theorem clause (keyword : String) (h : ∀ a ∈ as, a.Within E P) :
    (clause keyword as).Within E P := by
  unfold Draft.clause
  split
  · exact empty
  · exact (text _).append (join _ h)

theorem count (keyword : String) {n : Option Nat}
    (h : ∀ m ∈ n, Digits.isTooLong m = true → E .longNumber) : (count keyword n).Within E P := by
  cases n with
  | none => exact empty
  | some n =>
    refine append (require fun hlong ↦ h n rfl ?_) (text _)
    rwa [Bool.not_eq_false'] at hlong

theorem names (columns : List String) : (names d columns).Within E P := by
  unfold Draft.names
  split
  · exact empty
  · exact text _

theorem returning (columns : List String) : (returning d columns).Within E P := by
  unfold Draft.returning
  split
  · exact empty
  · exact text _

theorem source (place : SourcePlace) {isQuery : Bool} (aliasName : String)
    (hmissing : isQuery = true → E (.missingAlias place)) (h : a.Within E P) :
    (source d place isQuery aliasName a).Within E P := by
  refine ((require fun hfalse ↦ hmissing ?_).append (h.operand isQuery)).append ?_
  · cases isQuery with
    | true => rfl
    | false => cases hfalse
  unfold Draft.aliased
  split
  · exact empty
  · exact text _

theorem member (position : Nat) (isGrouped : Bool) (h : a.Within E P) :
    (member d position isGrouped a).Within E P := by
  unfold Draft.member
  split
  · exact h
  · split
    · exact h.parenthesized
    · exact ((text _).append h.parenthesized).append (text _)

theorem template (sql : String)
    (hcount : ∀ expected got, E (.argumentCount expected got .placeholders))
    (h : ∀ a ∈ as, a.Within E P) : (template d sql as).Within E P := by
  unfold Draft.template
  split
  · exact empty
  · refine ((require fun _ ↦ hcount _ _).append (text _)).append (sequence fun b hb ↦ ?_)
    rw [← List.map_uncurry_zip_eq_zipWith] at hb
    obtain ⟨⟨arg, segment⟩, hmem, rfl⟩ := List.mem_map.mp hb
    exact (h arg (List.of_mem_zip hmem).1).append (text segment)

theorem ofExcept {r : Except Error String} (h : ∀ e, r = .error e → E e) :
    (ofExcept r).Within E P := by
  cases r with
  | ok sql => exact text sql
  | error e => exact fail (h e rfl)

variable (hE : ∀ typeName rule, E (.unsupportedType typeName rule))

include hE

theorem ofMembers {members : List Value} (h : ∀ s, .scalar s ∈ members → P s) :
    (ofMembers members).Within E P := by
  unfold Draft.ofMembers
  split
  · next e he =>
    obtain ⟨typeName, rule, rfl⟩ := Value.error_of_scalarMembers he
    exact fail (hE typeName rule)
  · exact text _
  · next first rest hmembers =>
    rw [Value.eq_map_of_scalarMembers hmembers] at h
    refine of_complete rfl ?_
    rw [values_cons, Chunk.values_bindAll]
    intro s hs
    have hmem : s ∈ first :: rest := List.append_nil (first :: rest) ▸ hs
    exact h s (List.mem_map_of_mem hmem)

theorem comparison {column : String} {op : CompareOp} {v : Value} (h : a.Within E P) :
    (comparison d column op v a).Within E P := by
  unfold Draft.comparison
  split
  · next e he =>
    obtain ⟨typeName, rule, rfl⟩ := Opening.error_of_ofComparison he
    exact fail (hE typeName rule)
  · next opening _ =>
    refine (text opening.sql).append ?_
    split
    · exact h
    · exact empty

end Within

end Draft

end SqlRender
