import SqlRender.Node.Comparison
import SqlRender.Proofs.Draft.Succeeds
import SqlRender.Proofs.Scan

namespace SqlRender.Opening

open Template (IsPlain)

variable {d : Dialect} {column : String} {op : CompareOp} {v : Value}

/-- Only equality with nothing leaves out an operand that is no collection. -/
theorem ofComparison_of_not_isCollection (h : v.isCollection = false) (column : String)
    (op : CompareOp) :
    ∃ operator hasOperand,
      ofComparison d column op v = .ok ⟨d.quote column ++ operator, hasOperand⟩ ∧
        IsPlain operator ∧ (hasOperand = true ∨ v = .scalar .null) := by
  unfold ofComparison
  split
  · exact ⟨" IS NULL", false, rfl, by decide, .inr rfl⟩
  · exact ⟨" IS NOT NULL", false, rfl, by decide, .inr rfl⟩
  · rw [h]
    exact ⟨" " ++ op.sql ++ " ", true, rfl, by cases op <;> decide, .inl rfl⟩

theorem ofComparison_of_isCollection (h : v.isCollection = true) (column : String)
    (op : CompareOp) :
    ofComparison d column op v =
      match op with
      | .eq => ofCollection d column " IN " false v
      | .neq => ofCollection d column " NOT IN " true v
      | op => .error (.unsupportedType v.typeName (some (.singleValue op))) := by
  cases v with
  | collection kind members => cases op <;> rfl
  | mapping entries => cases op <;> rfl
  | _ => cases h

/-- What may stand between a column and an operand, or behind a column without one. -/
def operators : List String :=
  [" IS NULL", " IS NOT NULL", " IN ", " NOT IN ", " = ", " != ", " > ", " >= ", " < ", " <= ",
    " LIKE ", " NOT LIKE "]

theorem isPlain_of_mem_operators : ∀ operator ∈ operators, IsPlain operator := by decide

theorem sql_mem_operators (op : CompareOp) : " " ++ op.sql ++ " " ∈ operators := by
  cases op <;> decide

/-- The truth value of a comparison with an empty collection. -/
def constant? (op : CompareOp) (v : Value) : Option Bool :=
  match op with
  | .eq => if v.isCollection && v.members.isEmpty then some false else none
  | .neq => if v.isCollection && v.members.isEmpty then some true else none
  | _ => none

/-- A comparison begins with the column and an operator, or is a truth value. -/
inductive Opens (d : Dialect) (column : String) (op : CompareOp) (v : Value) : Opening → Prop
  | operator {operator : String} (hconstant : constant? op v = none) (h : operator ∈ operators)
    (hasOperand : Bool) : Opens d column op v ⟨d.quote column ++ operator, hasOperand⟩
  | constant {b : Bool} (hconstant : constant? op v = some b) :
    Opens d column op v ⟨d.boolLiteral b, false⟩

theorem constant?_of_not_isCollection (h : v.isCollection = false) (op : CompareOp) :
    constant? op v = none := by
  unfold constant?
  rw [h]
  cases op <;> rfl

theorem opens_of_ofCollection {operator : String} (hoperator : operator ∈ operators)
    {ifEmpty : Bool} (hv : v.isCollection = true)
    (hop : constant? op v = if v.isCollection && v.members.isEmpty then some ifEmpty else none)
    {opening : Opening} (h : ofCollection d column operator ifEmpty v = .ok opening) :
    Opens d column op v opening := by
  unfold ofCollection at h
  cases hs : Value.scalarMembers v.members with
  | error e =>
    rw [hs] at h
    cases h
  | ok ss =>
    rw [hs] at h
    have hmembers := Value.eq_map_of_scalarMembers hs
    rw [hv, hmembers, List.isEmpty_map] at hop
    cases ss with
    | nil =>
      cases h
      exact .constant hop
    | cons s rest =>
      cases h
      exact .operator hop hoperator true

theorem opens_of_ofComparison {opening : Opening}
    (h : ofComparison d column op v = .ok opening) : Opens d column op v opening := by
  cases hv : v.isCollection with
  | false =>
    have hconstant := constant?_of_not_isCollection hv op
    unfold ofComparison at h
    split at h
    · cases h
      exact .operator hconstant (by decide) false
    · cases h
      exact .operator hconstant (by decide) false
    · rw [hv] at h
      cases h
      exact .operator hconstant (sql_mem_operators _) true
  | true =>
    rw [ofComparison_of_isCollection hv] at h
    cases op with
    | eq => exact opens_of_ofCollection (by decide) hv rfl h
    | neq => exact opens_of_ofCollection (by decide) hv rfl h
    | _ => cases h

end SqlRender.Opening
