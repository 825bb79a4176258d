import SqlRender.Dialect.Basic
import SqlRender.Proofs.Scan

namespace SqlRender.Template

open ScanState

variable (backslashEscapes : Bool)

/-- A scan inside quotes is still inside them behind the text, and reads nothing of it outside. -/
def IsAbsorbed (quote : Char) (cs : List Char) : Prop :=
  (quoted quote false).after backslashEscapes cs = quoted quote false ∧
    (quoted quote false).unquoted backslashEscapes cs = []

/-- The whole text stands in quotes. -/
def IsHidden (sql : String) : Prop :=
  IsClosed backslashEscapes sql ∧ unquoted backslashEscapes sql = []

instance (quote : Char) (cs : List Char) : Decidable (IsAbsorbed backslashEscapes quote cs) :=
  inferInstanceAs (Decidable (_ ∧ _))

/-- No character of the text closes single quotes or escapes in them. -/
def IsCalm (sql : String) : Prop :=
  ∀ c ∈ sql.toList, c ≠ '\'' ∧ (backslashEscapes = false ∨ c ≠ '\\')

variable {backslashEscapes} {quote : Char}

theorem IsAbsorbed.append {xs ys : List Char} (hx : IsAbsorbed backslashEscapes quote xs)
    (hy : IsAbsorbed backslashEscapes quote ys) :
    IsAbsorbed backslashEscapes quote (xs ++ ys) := by
  rw [IsAbsorbed, after_append, unquoted_append, hx.1, hx.2]
  exact hy

theorem IsAbsorbed.flatMap {α : Type} {f : α → List Char}
    (h : ∀ a, IsAbsorbed backslashEscapes quote (f a)) (xs : List α) :
    IsAbsorbed backslashEscapes quote (xs.flatMap f) := by
  induction xs with
  | nil => exact ⟨rfl, rfl⟩
  | cons x rest ih =>
    rw [List.flatMap_cons]
    exact (h x).append ih

/-- A character that neither closes the region nor escapes. -/
theorem isAbsorbed_char {c : Char} (hquote : c ≠ quote)
    (hescape : backslashEscapes = false ∨ c ≠ '\\' ∨ quote = '\x60') :
    IsAbsorbed backslashEscapes quote [c] := by
  have hcondition : (backslashEscapes && decide (c = '\\') && decide (quote ≠ '\x60')) = false := by
    rcases hescape with rfl | h | rfl
    · rfl
    · rw [decide_eq_false h, Bool.and_false, Bool.false_and]
    · exact Bool.and_false _
  have hnext : next backslashEscapes (quoted quote false) c = quoted quote false := by
    rw [next, hcondition, if_neg Bool.false_ne_true, if_neg hquote]
  refine ⟨hnext, ?_⟩
  rw [unquoted_cons_of_quoted, hnext]
  rfl

theorem isAbsorbed_doubled (hquote : isQuote quote = true) :
    IsAbsorbed backslashEscapes quote [quote, quote] := by
  have hclose := next_quoted_of_isQuote backslashEscapes hquote
  have hopen := next_normal_of_isQuote backslashEscapes hquote
  constructor
  · rw [after_cons, hclose, after_cons, hopen]
    rfl
  · rw [unquoted_cons_of_quoted, hclose, unquoted_cons_of_isQuote _ hquote]
    rfl

/-- An absorbed text is hidden between its quotes. -/
theorem isHidden_of_isAbsorbed {sql : String} {cs : List Char} (hquote : isQuote quote = true)
    (h : IsAbsorbed backslashEscapes quote cs) (hsql : sql.toList = quote :: (cs ++ [quote])) :
    IsHidden backslashEscapes sql := by
  have hopen := next_normal_of_isQuote backslashEscapes hquote
  have hclose := next_quoted_of_isQuote backslashEscapes hquote
  constructor
  · rw [IsClosed, hsql, after_cons, hopen, after_append, h.1, after_cons, hclose]
    rfl
  · rw [unquoted, hsql, unquoted_cons_of_isQuote _ hquote, unquoted_append, h.1, h.2,
      unquoted_cons_of_quoted, hclose]
    rfl

theorem isCalm_of_not_mem {sql : String} (hquote : '\'' ∉ sql.toList)
    (hslash : backslashEscapes = false ∨ '\\' ∉ sql.toList) : IsCalm backslashEscapes sql :=
  fun _ hc ↦ ⟨ne_of_mem_of_not_mem hc hquote, hslash.imp_right (ne_of_mem_of_not_mem hc)⟩

theorem IsPlain.isCalm {sql : String} (h : IsPlain sql) : IsCalm backslashEscapes sql :=
  isCalm_of_not_mem (h.not_mem (by decide)) (.inr (h.not_mem (by decide)))

theorem IsCalm.append {xs ys : String} (hx : IsCalm backslashEscapes xs)
    (hy : IsCalm backslashEscapes ys) : IsCalm backslashEscapes (xs ++ ys) := by
  rw [IsCalm, String.toList_append, List.forall_mem_append]
  exact ⟨hx, hy⟩

theorem IsCalm.isHidden {sql : String} (h : IsCalm backslashEscapes sql) :
    IsHidden backslashEscapes ("'" ++ sql ++ "'") := by
  have habsorbed : IsAbsorbed backslashEscapes '\'' sql.toList := by
    rw [IsCalm] at h
    generalize sql.toList = cs at h
    induction cs with
    | nil => exact ⟨rfl, rfl⟩
    | cons c cs ih =>
      obtain ⟨⟨hquote, hescape⟩, hrest⟩ := List.forall_mem_cons.mp h
      exact (isAbsorbed_char hquote (hescape.imp_right .inl)).append (ih hrest)
  refine isHidden_of_isAbsorbed rfl habsorbed ?_
  rw [String.toList_append, String.toList_append]
  rfl

/-- Each part of a name doubles the quotes in it. -/
theorem doubled_singleton (quote : Char) (cs : List Char) :
    Text.doubled [quote] 0 cs = cs.flatMap fun c ↦ if c = quote then [quote, quote] else [c] := by
  induction cs with
  | nil => rfl
  | cons c cs ih =>
    rw [Text.doubled, List.flatMap_cons, ← ih]
    by_cases hc : c = quote
    · simp [hc]
    · simp [hc, Ne.symm hc]

theorem isAbsorbed_doubled_part (hquote : isQuote quote = true)
    (hescape : backslashEscapes = false ∨ quote = '\x60') (part : List Char) :
    IsAbsorbed backslashEscapes quote (Text.doubled [quote] 0 part) := by
  rw [doubled_singleton]
  refine IsAbsorbed.flatMap (fun c ↦ ?_) part
  by_cases hc : c = quote
  · rw [if_pos hc]
    exact isAbsorbed_doubled hquote
  · rw [if_neg hc]
    exact isAbsorbed_char hc (hescape.imp_right .inr)

end SqlRender.Template
