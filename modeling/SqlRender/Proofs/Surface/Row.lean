import SqlRender.Proofs.Surface.Bare
import SqlRender.Proofs.Surface.Formula

namespace SqlRender

/-- The truth value that adds nothing to a list. -/
def BoolOp.neutral : BoolOp → Bool
  | and => true
  | or => false

/-- The truth value of a list where some of them may be unknown. -/
def BoolOp.truth (op : BoolOp) (ts : List (Option Bool)) : Option Bool :=
  if some (!op.neutral) ∈ ts then some (!op.neutral)
  else if none ∈ ts then none
  else some op.neutral

namespace BoolOp

variable {op : BoolOp} {ts : List (Option Bool)}

theorem truth_eq_not_neutral : op.truth ts = some (!op.neutral) ↔ some (!op.neutral) ∈ ts := by
  unfold truth
  by_cases hmem : some (!op.neutral) ∈ ts
  · simp [hmem]
  · by_cases hnone : none ∈ ts <;> simp [hmem, hnone]

theorem truth_eq_neutral : op.truth ts = some op.neutral ↔ ∀ t ∈ ts, t = some op.neutral := by
  constructor
  · intro h t ht
    unfold truth at h
    split at h
    · simp at h
    · next hmem =>
      split at h
      · cases h
      · next hnone =>
        rcases t with _ | b
        · exact absurd ht hnone
        · by_cases hb : b = op.neutral
          · rw [hb]
          · rw [Bool.eq_not_of_ne hb] at ht
            exact absurd ht hmem
  · intro h
    have hmem : some (!op.neutral) ∉ ts := by
      intro hmem
      simpa using h _ hmem
    have hnone : none ∉ ts := by
      intro hnone
      cases h _ hnone
    simp [truth, hmem, hnone]

end BoolOp

namespace Surface

namespace Formula

variable {α : Type}

/-- The truth value of a formula where that of a leaf may be unknown. -/
def truth (leafTruth : α → Option Bool) : Formula α → Option Bool
  | leaf a => leafTruth a
  | const b => some b
  | combine op items => op.truth (items.map (truth leafTruth))

theorem truth_collapse (leafTruth : α → Option Bool) (op : BoolOp) (items : List (Formula α)) :
    (collapse op items).truth leafTruth = op.truth (items.map (truth leafTruth)) := by
  match items with
  | [] =>
    rw [collapse, truth]
    cases op <;> rfl
  | [t] =>
    rw [collapse, List.map_singleton]
    cases t.truth leafTruth with
    | none => simp [BoolOp.truth]
    | some b => cases b <;> cases op <;> rfl
  | t :: t' :: rest => simp only [collapse, truth]

end Formula

/-- What a comparison asks of its column, with literals as they are read. -/
inductive Test where
  | null
  | equal (literal : List (List Char))
  | among (literals : List (List (List Char)))

/-- The token in capitals. -/
def upper (token : List Char) : String := String.ofList (token.map Char.toUpper)

/-- The words and signs that may stand behind the column of a comparison. -/
def testWords : List String := ["IS", "NOT", "IN", "=", "!"]

def isTestWord (token : List Char) : Bool := testWords.contains (upper token)

/-- What stands between commas in the parentheses. -/
def listed? (backslashEscapes : Bool) (list : List Char) : Option (List (List (List Char))) :=
  (inside? [list]).map fun inside ↦
    (Place.tokens backslashEscapes {} inside).splitOnP (· = [','])

/-- Reads what stands behind a column: the test, and whether it is negated. -/
def test? (backslashEscapes : Bool) : List (List Char) → Option (Bool × Test)
  | [] => none
  | token :: rest =>
    match upper token, rest with
    | "=", literal => some (false, .equal literal)
    | "!", equals :: literal =>
      if upper equals = "=" then some (true, .equal literal) else none
    | "IS", [null] => if upper null = "NULL" then some (false, .null) else none
    | "IS", [not, null] =>
      if upper not = "NOT" ∧ upper null = "NULL" then some (true, .null) else none
    | "IN", [list] => (listed? backslashEscapes list).map fun literals ↦ (false, .among literals)
    | "NOT", [member, list] =>
      if upper member = "IN" then
        (listed? backslashEscapes list).map fun literals ↦ (true, .among literals)
      else none
    | _, _ => none

/-- What the tokens of columns and literals stand for in a row of a table; nothing is NULL. -/
structure Row (V : Type) where
  column : List (List Char) → Option V
  literal : List (List Char) → Option V
  literal_null : literal ["NULL".toList] = none
  isSame : V → V → Bool
  /-- The truth of a condition that is no test of a column. -/
  other : List (List Char) → Option Bool

namespace Row

variable {V : Type} (row : Row V)

/-- An equality with NULL is unknown. -/
def equals (column literal : List (List Char)) : Option Bool := do
  let x ← row.column column
  let y ← row.literal literal
  return row.isSame x y

/-- IN is a disjunction of equalities. -/
def passes (column : List (List Char)) : Test → Option Bool
  | .null => some (row.column column).isNone
  | .equal literal => row.equals column literal
  | .among literals => BoolOp.or.truth (literals.map (row.equals column))

/-- The truth of a condition without AND and OR. -/
def holds (backslashEscapes : Bool) (ts : List (List Char)) : Option Bool :=
  match test? backslashEscapes (ts.dropWhile fun token ↦ !isTestWord token) with
  | some (isNegated, test) =>
    (row.passes (ts.takeWhile fun token ↦ !isTestWord token) test).map (· ^^ isNegated)
  | none => row.other ts

/-- The truth of a condition as the ordinary grammar reads it. -/
def truth (d : Dialect) (sql : String) : Option Bool :=
  (read d sql).truth (row.holds d.capabilities.backslashEscapes)

theorem holds_append {backslashEscapes : Bool} {column behind : List (List Char)}
    {isNegated : Bool} {test : Test} (hcolumn : ∀ token ∈ column, isTestWord token = false)
    (hbehind : behind.head?.any isTestWord = true)
    (htest : test? backslashEscapes behind = some (isNegated, test)) :
    row.holds backslashEscapes (column ++ behind) =
      (row.passes column test).map (· ^^ isNegated) := by
  have hall : ∀ token ∈ column, (!isTestWord token) = true := by
    intro token htoken
    rw [hcolumn token htoken]
    rfl
  cases behind with
  | nil => cases hbehind
  | cons first rest =>
    have hfirst : isTestWord first = true := hbehind
    have htake : (column ++ first :: rest).takeWhile (fun token ↦ !isTestWord token) = column := by
      rw [List.takeWhile_append_of_pos hall]
      simp [hfirst]
    have hdrop : (column ++ first :: rest).dropWhile (fun token ↦ !isTestWord token) =
        first :: rest := by
      rw [List.dropWhile_append_of_pos hall]
      simp [hfirst]
    rw [holds, htake, hdrop, htest]

end Row

variable {d : Dialect} (hd : d ∈ Registry.standard.dialects)

include hd

/-- No word or sign of a test stands in the name of a column. -/
theorem not_isTestWord_of_mem_quote {name : String} {token : List Char}
    (h : token ∈ tokens d.capabilities.backslashEscapes (d.quote name)) :
    isTestWord token = false := by
  have hwords : (testWords.flatMap String.toList).all fun c ↦
      c ∉ ['\'', '"', '\x60', '(', ')'] ∧ c ≠ '.' ∧ c ≠ '*' := by decide
  cases htest : isTestWord token with
  | false => rfl
  | true =>
    have hword : upper token ∈ testWords := List.contains_iff_mem.mp htest
    have hspecial : ∀ c ∈ token,
        c.toUpper ∉ ['\'', '"', '\x60', '(', ')'] ∧ c.toUpper ≠ '.' ∧ c.toUpper ≠ '*' := by
      intro c hc
      have hupper : c.toUpper ∈ (upper token).toList := by
        rw [upper, String.toList_ofList]
        exact List.mem_map_of_mem hc
      have hmem := List.mem_flatMap_of_mem hword hupper
      exact of_decide_eq_true (List.all_eq_true.mp hwords _ hmem)
    have hpart := infix_bare_of_mem_tokens h fun c hc ↦
      next_of_toUpper (hspecial c hc).1
    cases token with
    | nil => exact absurd hword (by decide)
    | cons c rest =>
      obtain ⟨-, hdot, hstar⟩ := hspecial c List.mem_cons_self
      have hbare := (isBareOf_quote hd name).bare c (hpart.subset List.mem_cons_self)
      rcases Bool.or_eq_true_iff.mp hbare with hc | hc
      · rw [of_decide_eq_true hc] at hdot
        exact absurd rfl hdot
      · rw [of_decide_eq_true hc] at hstar
        exact absurd rfl hstar

end Surface

end SqlRender
