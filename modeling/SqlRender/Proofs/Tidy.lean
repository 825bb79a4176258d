import SqlRender.Proofs.Enclosed

namespace SqlRender.Template

/-- The number of open parentheses behind a character, `none` if it closes one that is not open. -/
def openStep (n : Nat) (c : Char) : Option Nat :=
  if c = '(' then some (n + 1)
  else if c = ')' then if n = 0 then none else some (n - 1)
  else some n

/-- Each parenthesis that opens is closed, and no other one. -/
def IsBalanced (cs : List Char) : Prop := cs.foldlM openStep 0 = some 0

/-- The first character is never followed by the second one, and does not stand at the end. -/
def Apart (a b : Char) : List Char → Prop
  | [] => True
  | [c] => c ≠ a
  | c :: c' :: cs => (c = a → c' ≠ b) ∧ Apart a b (c' :: cs)

instance Apart.decidable (a b : Char) : (cs : List Char) → Decidable (Apart a b cs)
  | [] => .isTrue trivial
  | [c] => inferInstanceAs (Decidable (c ≠ a))
  | c :: c' :: cs =>
    have := decidable a b (c' :: cs)
    inferInstanceAs (Decidable ((c = a → c' ≠ b) ∧ Apart a b (c' :: cs)))

/-- No dash stands next to another one, and none at the end. -/
def DashesApart : List Char → Prop
  | [] => True
  | [c] => c ≠ '-'
  | c :: c' :: cs => (c = '-' → c' ≠ '-') ∧ DashesApart (c' :: cs)

theorem openStep_of_ne {c : Char} (hopen : c ≠ '(') (hclose : c ≠ ')') (n : Nat) :
    openStep n c = some n := by
  rw [openStep, if_neg hopen, if_neg hclose]

theorem foldlM_openStep_of_not_mem {cs : List Char} (hopen : '(' ∉ cs) (hclose : ')' ∉ cs)
    (n : Nat) : cs.foldlM openStep n = some n := by
  induction cs with
  | nil => rfl
  | cons c cs ih =>
    rw [List.mem_cons, not_or] at hopen hclose
    rw [List.foldlM_cons, openStep_of_ne (Ne.symm hopen.1) (Ne.symm hclose.1)]
    exact ih hopen.2 hclose.2

namespace Apart

variable {a b : Char} {cs xs ys : List Char}

theorem of_not_mem (h : a ∉ cs) : Apart a b cs := by
  induction cs with
  | nil => exact trivial
  | cons c cs ih =>
    rw [List.mem_cons, not_or] at h
    cases cs with
    | nil => exact Ne.symm h.1
    | cons c' cs => exact ⟨fun hc ↦ absurd hc.symm h.1, ih h.2⟩

theorem append (hx : Apart a b xs) (hy : Apart a b ys) : Apart a b (xs ++ ys) := by
  induction xs with
  | nil => exact hy
  | cons c cs ih =>
    cases cs with
    | nil =>
      cases ys with
      | nil => exact hx
      | cons y ys => exact ⟨fun hc ↦ absurd hc hx, hy⟩
    | cons c' cs => exact ⟨hx.1, ih hx.2⟩

theorem not_adjacent (h : Apart a b cs) : ¬[a, b] <:+: cs := by
  induction cs with
  | nil => exact fun hin ↦ absurd (List.infix_nil.mp hin) (List.cons_ne_nil _ _)
  | cons c cs ih =>
    cases cs with
    | nil =>
      intro hin
      have hlength : 2 ≤ 1 := hin.length_le
      exact absurd hlength (by decide)
    | cons c' cs =>
      rw [List.infix_cons_iff, not_or]
      refine ⟨?_, ih h.2⟩
      intro hprefix
      obtain ⟨rfl, hrest⟩ := List.cons_prefix_cons.mp hprefix
      obtain ⟨rfl, -⟩ := List.cons_prefix_cons.mp hrest
      exact h.1 rfl rfl

end Apart

theorem dashesApart_iff {cs : List Char} : DashesApart cs ↔ Apart '-' '-' cs := by
  induction cs with
  | nil => exact Iff.rfl
  | cons c cs ih =>
    cases cs with
    | nil => exact Iff.rfl
    | cons c' cs => exact and_congr_right fun _ ↦ ih

theorem DashesApart.of_not_mem {cs : List Char} (h : '-' ∉ cs) : DashesApart cs :=
  dashesApart_iff.mpr (Apart.of_not_mem h)

theorem DashesApart.append {xs ys : List Char} (hx : DashesApart xs) (hy : DashesApart ys) :
    DashesApart (xs ++ ys) :=
  dashesApart_iff.mpr ((dashesApart_iff.mp hx).append (dashesApart_iff.mp hy))

theorem DashesApart.not_adjacent {cs : List Char} (h : DashesApart cs) : ¬['-', '-'] <:+: cs :=
  (dashesApart_iff.mp h).not_adjacent

/-- What stands outside quotes is closed and balanced, ends no statement and begins no comment. -/
structure IsTidy (backslashEscapes : Bool) (markers : Nat) (sql : String) : Prop where
  closed : IsClosed backslashEscapes sql
  markers : Template.markers backslashEscapes sql = markers
  balanced (n : Nat) : (unquoted backslashEscapes sql).foldlM openStep n = some n
  semicolon : ';' ∉ unquoted backslashEscapes sql
  slash : '/' ∉ unquoted backslashEscapes sql
  dashes : DashesApart (unquoted backslashEscapes sql)

/-- No value or name in the text has left its quotes. -/
structure IsSafe (backslashEscapes : Bool) (markers : Nat) (sql : String) : Prop where
  closed : IsClosed backslashEscapes sql
  markers : Template.markers backslashEscapes sql = markers
  balanced : IsBalanced (unquoted backslashEscapes sql)
  /-- There is no second statement. -/
  statement : ';' ∉ unquoted backslashEscapes sql
  lineComment : ¬['-', '-'] <:+: unquoted backslashEscapes sql
  blockComment : ¬['/', '*'] <:+: unquoted backslashEscapes sql

variable {backslashEscapes : Bool}

theorem IsTidy.isSafe {markers : Nat} {sql : String} (h : IsTidy backslashEscapes markers sql) :
    IsSafe backslashEscapes markers sql where
  closed := h.closed
  markers := h.markers
  balanced := h.balanced 0
  statement := h.semicolon
  lineComment := h.dashes.not_adjacent
  blockComment := fun hin ↦ h.slash (hin.subset List.mem_cons_self)

theorem isTidy_marker : IsTidy backslashEscapes 1 "?" := by
  obtain ⟨hclosed, hunquoted⟩ := isClosed_of_no_quote backslashEscapes "?" (by decide)
  have hchars : unquoted backslashEscapes "?" = ['?'] := hunquoted
  refine ⟨hclosed, ?_, ?_, ?_, ?_, ?_⟩
  · rw [markers, hchars]
    rfl
  · rw [hchars]
    exact fun _ ↦ rfl
  · rw [hchars]
    decide
  · rw [hchars]
    decide
  · rw [hchars]
    exact .of_not_mem (by decide)

theorem IsHidden.isTidy {sql : String} (h : IsHidden backslashEscapes sql) :
    IsTidy backslashEscapes 0 sql := by
  obtain ⟨hclosed, hunquoted⟩ := h
  refine ⟨hclosed, ?_, ?_, ?_, ?_, ?_⟩
  · rw [Template.markers, hunquoted, List.count_nil]
  · rw [hunquoted]
    exact fun _ ↦ rfl
  · rw [hunquoted]
    exact List.not_mem_nil
  · rw [hunquoted]
    exact List.not_mem_nil
  · rw [hunquoted]
    exact trivial

theorem IsPlain.isTidy {sql : String} (h : IsPlain sql) : IsTidy backslashEscapes 0 sql := by
  have hunquoted := h.unquoted_eq backslashEscapes
  refine ⟨h.isClosed backslashEscapes, ?_, ?_, ?_, ?_, ?_⟩
  · rw [Template.markers, hunquoted]
    exact List.count_eq_zero.mpr (h.not_mem (by decide))
  · rw [hunquoted]
    exact foldlM_openStep_of_not_mem (h.not_mem (by decide)) (h.not_mem (by decide))
  · rw [hunquoted]
    exact h.not_mem (by decide)
  · rw [hunquoted]
    exact h.not_mem (by decide)
  · rw [hunquoted]
    exact .of_not_mem (h.not_mem (by decide))

namespace IsTidy

variable {k l : Nat} {xs ys : String}

theorem append (hx : IsTidy backslashEscapes k xs) (hy : IsTidy backslashEscapes l ys) :
    IsTidy backslashEscapes (k + l) (xs ++ ys) := by
  have hunquoted := unquoted_append_of_isClosed backslashEscapes hx.closed ys
  refine ⟨hx.closed.append backslashEscapes hy.closed, ?_, ?_, ?_, ?_, ?_⟩
  · rw [Template.markers, hunquoted, List.count_append, ← hx.markers, ← hy.markers]
    rfl
  · intro n
    rw [hunquoted, List.foldlM_append, hx.balanced]
    exact hy.balanced n
  · rw [hunquoted, List.mem_append, not_or]
    exact ⟨hx.semicolon, hy.semicolon⟩
  · rw [hunquoted, List.mem_append, not_or]
    exact ⟨hx.slash, hy.slash⟩
  · rw [hunquoted]
    exact hx.dashes.append hy.dashes

theorem parenthesized (hx : IsTidy backslashEscapes k xs) :
    IsTidy backslashEscapes k ("(" ++ xs ++ ")") := by
  have hopen := isClosed_of_no_quote backslashEscapes "(" (by decide)
  have hclose := isClosed_of_no_quote backslashEscapes ")" (by decide)
  have hclosed := hopen.1.append backslashEscapes hx.closed
  have hunquoted : unquoted backslashEscapes ("(" ++ xs ++ ")") =
      '(' :: (unquoted backslashEscapes xs ++ [')']) := by
    rw [unquoted_append_of_isClosed backslashEscapes hclosed,
      unquoted_append_of_isClosed backslashEscapes hopen.1, hopen.2, hclose.2]
    rfl
  refine ⟨hclosed.append backslashEscapes hclose.1, ?_, ?_, ?_, ?_, ?_⟩
  · rw [Template.markers, hunquoted, List.count_cons_of_ne (by decide), List.count_append]
    exact hx.markers
  · intro n
    rw [hunquoted, List.foldlM_cons]
    show List.foldlM openStep (n + 1) _ = _
    rw [List.foldlM_append, hx.balanced]
    rfl
  · rw [hunquoted, List.mem_cons, List.mem_append, not_or, not_or]
    exact ⟨by decide, hx.semicolon, by decide⟩
  · rw [hunquoted, List.mem_cons, List.mem_append, not_or, not_or]
    exact ⟨by decide, hx.slash, by decide⟩
  · rw [hunquoted]
    have hfirst : DashesApart ['('] := .of_not_mem (by decide)
    have hlast : DashesApart [')'] := .of_not_mem (by decide)
    exact hfirst.append (hx.dashes.append hlast)

end IsTidy

end SqlRender.Template
