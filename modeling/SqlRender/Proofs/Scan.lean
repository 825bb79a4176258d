import SqlRender.Template

namespace SqlRender.Template

variable (backslashEscapes : Bool)

namespace ScanState

/-- Where a scan stands behind some text. -/
def after (s : ScanState) (cs : List Char) : ScanState := cs.foldl (next backslashEscapes) s

/-- The characters that are read outside quotes and leave the scan there. -/
def unquoted : ScanState → List Char → List Char
  | _, [] => []
  | s, c :: cs =>
    if s = normal ∧ s.next backslashEscapes c = normal then
      c :: unquoted (s.next backslashEscapes c) cs
    else unquoted (s.next backslashEscapes c) cs

theorem after_append (s : ScanState) (xs ys : List Char) :
    s.after backslashEscapes (xs ++ ys) =
      (s.after backslashEscapes xs).after backslashEscapes ys := List.foldl_append

theorem unquoted_append (s : ScanState) (xs ys : List Char) :
    s.unquoted backslashEscapes (xs ++ ys) =
      s.unquoted backslashEscapes xs ++
        (s.after backslashEscapes xs).unquoted backslashEscapes ys := by
  induction xs generalizing s with
  | nil => rfl
  | cons c cs ih =>
    have hrest := ih (s.next backslashEscapes c)
    rw [List.cons_append, unquoted, unquoted]
    split
    · exact congrArg (c :: ·) hrest
    · exact hrest

theorem after_cons (s : ScanState) (c : Char) (cs : List Char) :
    s.after backslashEscapes (c :: cs) =
      (s.next backslashEscapes c).after backslashEscapes cs := rfl

theorem unquoted_cons_of_quoted (quote : Char) (escaped : Bool) (c : Char) (cs : List Char) :
    (quoted quote escaped).unquoted backslashEscapes (c :: cs) =
      ((quoted quote escaped).next backslashEscapes c).unquoted backslashEscapes cs :=
  if_neg fun h ↦ nomatch h.1

theorem next_normal_of_isQuote {c : Char} (h : isQuote c = true) :
    next backslashEscapes normal c = quoted c false := if_pos h

theorem unquoted_cons_of_isQuote {c : Char} (h : isQuote c = true) (cs : List Char) :
    normal.unquoted backslashEscapes (c :: cs) =
      (quoted c false).unquoted backslashEscapes cs := by
  rw [unquoted, next_normal_of_isQuote backslashEscapes h]
  exact if_neg fun h ↦ nomatch h.2

theorem next_quoted_of_isQuote {c : Char} (h : isQuote c = true) :
    next backslashEscapes (quoted c false) c = normal := by
  have hslash : c ≠ '\\' := by
    rintro rfl
    cases h
  simp only [next, hslash, decide_false, Bool.and_false, Bool.false_and, Bool.false_eq_true,
    ↓reduceIte]

theorem next_normal_of_not_isQuote {c : Char} (h : isQuote c = false) :
    next backslashEscapes normal c = normal := by
  simp only [next, h, Bool.false_eq_true, ↓reduceIte]

end ScanState

open ScanState

/-- The text outside quotes. -/
def unquoted (sql : String) : List Char := normal.unquoted backslashEscapes sql.toList

/-- The markers outside quotes. -/
def markers (sql : String) : Nat := (unquoted backslashEscapes sql).count '?'

/-- A scan of the text ends outside quotes. -/
def IsClosed (sql : String) : Prop := normal.after backslashEscapes sql.toList = normal

instance (sql : String) : Decidable (IsClosed backslashEscapes sql) :=
  inferInstanceAs (Decidable (_ = _))

theorem length_consHead (c : Char) {segments : List (List Char)} (h : segments ≠ []) :
    (consHead c segments).length = segments.length := by
  cases segments with
  | nil => exact absurd rfl h
  | cons segment rest => rfl

theorem length_segmentsFrom (s : ScanState) (cs : List Char) :
    (segmentsFrom backslashEscapes s cs).length =
      (s.unquoted backslashEscapes cs).count '?' + 1 := by
  induction cs generalizing s with
  | nil => rfl
  | cons c cs ih =>
    have hhead := length_consHead c
      (segmentsFrom_ne_nil backslashEscapes (s.next backslashEscapes c) cs)
    rw [segmentsFrom, ScanState.unquoted]
    by_cases hmarker : s = .normal ∧ c = '?'
    · obtain ⟨rfl, rfl⟩ := hmarker
      have hnext : next backslashEscapes normal '?' = normal := rfl
      rw [if_pos ⟨rfl, rfl⟩, if_pos ⟨rfl, hnext⟩, hnext, List.length_cons, ih,
        List.count_cons_self]
    · rw [if_neg hmarker, hhead, ih]
      split
      · next h =>
        have hne : c ≠ '?' := fun hc ↦ hmarker ⟨h.1, hc⟩
        rw [List.count_cons_of_ne hne]
      · rfl

/-- A text has one segment more than markers. -/
theorem length_segments (sql : String) :
    (segments backslashEscapes sql).length = markers backslashEscapes sql + 1 := by
  rw [segments, List.length_map, length_segmentsFrom]
  rfl

/-- Where a text ends outside quotes, its first segment leads there and all others stay there. -/
theorem after_segmentsFrom (s : ScanState) (cs : List Char)
    (h : s.after backslashEscapes cs = normal) :
    ∃ first rest, segmentsFrom backslashEscapes s cs = first :: rest ∧
      s.after backslashEscapes first = normal ∧
      ∀ segment ∈ rest, normal.after backslashEscapes segment = normal := by
  induction cs generalizing s with
  | nil => exact ⟨[], [], rfl, h, fun _ hnot ↦ absurd hnot List.not_mem_nil⟩
  | cons c cs ih =>
    rw [segmentsFrom]
    by_cases hmarker : s = .normal ∧ c = '?'
    · obtain ⟨rfl, rfl⟩ := hmarker
      obtain ⟨first, rest, heq, hfirst, hrest⟩ := ih normal h
      rw [if_pos ⟨rfl, rfl⟩]
      refine ⟨[], first :: rest, congrArg ([] :: ·) heq, rfl, ?_⟩
      exact List.forall_mem_cons.mpr ⟨hfirst, hrest⟩
    · obtain ⟨first, rest, heq, hfirst, hrest⟩ := ih (s.next backslashEscapes c) h
      rw [if_neg hmarker, heq]
      exact ⟨c :: first, rest, rfl, hfirst, hrest⟩

/-- The segments of a closed text are closed. -/
theorem IsClosed.of_mem_segments {sql segment : String} (h : IsClosed backslashEscapes sql)
    (hmem : segment ∈ segments backslashEscapes sql) : IsClosed backslashEscapes segment := by
  obtain ⟨first, rest, heq, hfirst, hrest⟩ := after_segmentsFrom backslashEscapes _ _ h
  obtain ⟨cs, hcs, rfl⟩ := List.mem_map.mp hmem
  rw [IsClosed, String.toList_ofList]
  rw [heq] at hcs
  rcases List.mem_cons.mp hcs with rfl | hcs
  · exact hfirst
  · exact hrest cs hcs

theorem IsClosed.append {xs ys : String} (hx : IsClosed backslashEscapes xs)
    (hy : IsClosed backslashEscapes ys) : IsClosed backslashEscapes (xs ++ ys) := by
  rw [IsClosed, String.toList_append, after_append, hx]
  exact hy

theorem unquoted_append_of_isClosed {xs : String} (h : IsClosed backslashEscapes xs)
    (ys : String) :
    unquoted backslashEscapes (xs ++ ys) =
      unquoted backslashEscapes xs ++ unquoted backslashEscapes ys := by
  rw [unquoted, String.toList_append, unquoted_append, h]
  rfl

/-- A text without quotes is read as it is. -/
theorem isClosed_of_no_quote (sql : String) (h : sql.toList.any isQuote = false) :
    IsClosed backslashEscapes sql ∧ unquoted backslashEscapes sql = sql.toList := by
  rw [IsClosed, unquoted]
  generalize sql.toList = chars at h
  induction chars with
  | nil => exact ⟨rfl, rfl⟩
  | cons c cs ih =>
    rw [List.any_cons, Bool.or_eq_false_iff] at h
    obtain ⟨hc, hcs⟩ := h
    obtain ⟨hclosed, hread⟩ := ih hcs
    have hnext := next_normal_of_not_isQuote backslashEscapes hc
    rw [ScanState.unquoted, hnext, if_pos ⟨rfl, rfl⟩, after, List.foldl_cons, hnext]
    exact ⟨hclosed, congrArg (c :: ·) hread⟩

/-- No scan takes the character for a quote, a marker or a parenthesis, and neither a statement
ends nor a comment begins with it. -/
def isPlain (c : Char) : Bool :=
  c.isAlphanum || [' ', ',', '.', ':', '=', '<', '>', '!', '*', '_', '$'].contains c

def IsPlain (sql : String) : Prop := ∀ c ∈ sql.toList, isPlain c = true

instance (sql : String) : Decidable (IsPlain sql) :=
  decidable_of_iff (sql.toList.all isPlain = true) List.all_eq_true

theorem IsPlain.append {xs ys : String} (hx : IsPlain xs) (hy : IsPlain ys) :
    IsPlain (xs ++ ys) := by
  rw [IsPlain, String.toList_append, List.forall_mem_append]
  exact ⟨hx, hy⟩

theorem isPlain_toString (n : Nat) : IsPlain (toString n) := by
  intro c hc
  rw [Nat.toString_eq_repr, Nat.toList_repr] at hc
  have hdigit := Nat.isDigit_of_mem_toDigits (by decide) (by decide) hc
  simp only [isPlain, Char.isAlphanum, hdigit, Bool.or_true, Bool.true_or]

theorem IsPlain.not_mem {sql : String} (h : IsPlain sql) {c : Char} (hc : isPlain c = false) :
    c ∉ sql.toList := by
  intro hmem
  rw [h c hmem] at hc
  cases hc

theorem isQuote_of_isPlain {c : Char} (h : isPlain c = true) : isQuote c = false := by
  have hne {q : Char} (hq : isPlain q = false) : c ≠ q := by
    rintro rfl
    rw [h] at hq
    cases hq
  have hsingle := hne (q := '\'') rfl
  have hdouble := hne (q := '"') rfl
  have hback := hne (q := '\x60') rfl
  simp only [isQuote, hsingle, hdouble, hback, decide_false, Bool.or_self]

theorem IsPlain.any_isQuote {sql : String} (h : IsPlain sql) :
    sql.toList.any isQuote = false := by
  rw [List.any_eq_false]
  intro c hc
  rw [isQuote_of_isPlain (h c hc)]
  exact Bool.false_ne_true

theorem IsPlain.isClosed {sql : String} (h : IsPlain sql) : IsClosed backslashEscapes sql :=
  (isClosed_of_no_quote backslashEscapes sql h.any_isQuote).1

theorem IsPlain.unquoted_eq {sql : String} (h : IsPlain sql) :
    unquoted backslashEscapes sql = sql.toList :=
  (isClosed_of_no_quote backslashEscapes sql h.any_isQuote).2

end SqlRender.Template
