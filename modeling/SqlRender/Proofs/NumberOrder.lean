import Mathlib.Data.Char
import Mathlib.Data.List.Forall2
import Mathlib.Data.List.Lex
import SqlRender.Proofs.Digits

/-!
The order of texts of numbers. Digits of one length are in the order of the numbers, and so are
numbers in columns of fixed widths, compared from the first to the last. Numbers without zeros in
front of them are not: the shorter one is compared with the first digits of the longer one.
-/

namespace SqlRender

theorem append_lt_append_iff {α : Type} [LT α] {xs xs' : List α}
    (h : xs.length = xs'.length) (ys ys' : List α) :
    xs ++ ys < xs' ++ ys' ↔ xs < xs' ∨ xs = xs' ∧ ys < ys' := by
  induction xs generalizing xs' with
  | nil =>
    have hnil : xs' = [] := List.eq_nil_of_length_eq_zero h.symm
    simp [hnil]
  | cons x xs ih =>
    obtain ⟨x', xs', rfl⟩ := List.exists_cons_of_length_eq_add_one h.symm
    have hrest := ih (Nat.succ.inj h)
    simp only [List.cons_append, List.cons_lt_cons_iff, hrest, List.cons.injEq]
    tauto

/-- Numbers of two parts, of which the second stays below the unit of the first. -/
theorem mul_add_lt_mul_add_iff {unit a a' b b' : Nat} (hb : b < unit) (hb' : b' < unit) :
    a * unit + b < a' * unit + b' ↔ a < a' ∨ a = a' ∧ b < b' := by
  obtain h | rfl | h := Nat.lt_trichotomy a a'
  · have hstep := Nat.mul_le_mul_right unit (Nat.succ_le_of_lt h)
    rw [Nat.succ_mul] at hstep
    simp only [h, true_or, iff_true]
    omega
  · simp
  · have hstep := Nat.mul_le_mul_right unit (Nat.succ_le_of_lt h)
    rw [Nat.succ_mul] at hstep
    simp only [Nat.lt_asymm h, (Nat.ne_of_lt h).symm, false_and, or_false, iff_false]
    omega

namespace Digits

variable {xs ys : List Char}

theorem lt_iff_value_lt (hx : IsDigits xs) (hy : IsDigits ys) (h : xs.length = ys.length) :
    xs < ys ↔ value xs < value ys := by
  induction xs generalizing ys with
  | nil =>
    have hnil : ys = [] := List.eq_nil_of_length_eq_zero h.symm
    simp [hnil]
  | cons c cs ih =>
    obtain ⟨c', cs', rfl⟩ := List.exists_cons_of_length_eq_add_one h.symm
    obtain ⟨hc, hcs⟩ := List.forall_mem_cons.mp hx
    obtain ⟨hc', hcs'⟩ := List.forall_mem_cons.mp hy
    have hlength : cs.length = cs'.length := Nat.succ.inj h
    have hlt := value_lt hcs
    rw [hlength] at hlt
    have hfirst := digit_bounds hc
    have hfirst' := digit_bounds hc'
    have hchar : c < c' ↔ c.toNat - 48 < c'.toNat - 48 := by
      have hnat : c < c' ↔ c.toNat < c'.toNat := Iff.rfl
      rw [hnat]
      omega
    have hsame : c = c' ↔ c.toNat - 48 = c'.toNat - 48 := by
      rw [← Char.toNat_inj]
      omega
    rw [List.cons_lt_cons_iff, ih hcs hcs' hlength, value_cons, value_cons, hlength,
      mul_add_lt_mul_add_iff hlt (value_lt hcs'), hchar, hsame]

theorem value_inj (hx : IsDigits xs) (hy : IsDigits ys) (h : xs.length = ys.length) :
    value xs = value ys ↔ xs = ys := by
  refine ⟨fun hvalue ↦ ?_, congrArg value⟩
  obtain hlt | heq | hgt := lt_trichotomy xs ys
  · exact absurd hvalue (Nat.ne_of_lt ((lt_iff_value_lt hx hy h).mp hlt))
  · exact heq
  · exact absurd hvalue.symm (Nat.ne_of_lt ((lt_iff_value_lt hy hx h.symm).mp hgt))

theorem length_toString_mono {n n' : Nat} (h : n ≤ n') :
    (toString n).toList.length ≤ (toString n').toList.length := by
  have hpos : 0 < (toString n').toList.length := List.length_pos_of_ne_nil (toString_ne_nil n')
  have hlt := (length_toString_le_iff hpos).mp le_rfl
  exact (length_toString_le_iff hpos).mpr (h.trans_lt hlt)

theorem toString_lt_iff {n n' : Nat}
    (h : (toString n).toList.length = (toString n').toList.length) :
    (toString n).toList < (toString n').toList ↔ n < n' := by
  rw [lt_iff_value_lt (isDigits_toString n) (isDigits_toString n') h, value_toString,
    value_toString]

theorem toString_eq_iff {n n' : Nat} : (toString n).toList = (toString n').toList ↔ n = n' := by
  refine ⟨fun h ↦ ?_, congrArg fun n ↦ (toString n).toList⟩
  rw [← value_toString n, h, value_toString]

/-- The first digits of a number are below another one just where the number is below that one with
zeros for the digits that are left out. -/
theorem value_lt_iff_append {start tail : List Char} (htail : IsDigits tail) (n : Nat) :
    value start < n ↔ value (start ++ tail) < n * 10 ^ tail.length := by
  have hparts : value start * 10 ^ tail.length + value tail < n * 10 ^ tail.length + 0 ↔
      value start < n ∨ value start = n ∧ value tail < 0 :=
    mul_add_lt_mul_add_iff (value_lt htail) (Nat.pow_pos (by decide))
  rw [value_append, ← Nat.add_zero (n * _), hparts]
  simp

theorem dash_lt {tail : List Char} (htail : IsDigits tail) (hne : tail ≠ []) (xs ys : List Char) :
    '-' :: xs < tail ++ ys := by
  obtain ⟨c, tail, rfl⟩ := List.exists_cons_of_ne_nil hne
  have hc := digit_bounds (htail c List.mem_cons_self)
  have hlt : '-' < c := show '-'.toNat < c.toNat from hc.1.trans_lt' (by decide)
  exact List.cons_lt_cons_iff.mpr (.inl hlt)

/-- A number with fewer digits is compared with the first digits of the other one, and a dash stands
in front of every digit. -/
theorem toString_dash_lt_iff {n n' : Nat}
    (h : (toString n).toList.length < (toString n').toList.length) (xs ys : List Char) :
    (toString n).toList ++ '-' :: xs < (toString n').toList ++ ys ↔
      n * 10 ^ ((toString n').toList.length - (toString n).toList.length) ≤ n' := by
  have hdigits := isDigits_toString n'
  have hvalue := value_toString n'
  -- The longer number is cut where the dash of the shorter one stands.
  obtain ⟨start, tail, hsplit, hlength⟩ : ∃ start tail, (toString n').toList = start ++ tail ∧
      (toString n).toList.length = start.length :=
    ⟨_, _, (List.take_append_drop (toString n).toList.length _).symm,
      (List.length_take_of_le (Nat.le_of_lt h)).symm⟩
  rw [hsplit] at h hdigits hvalue ⊢
  obtain ⟨hstart, htail⟩ := List.forall_mem_append.mp hdigits
  have hne : tail ≠ [] := by
    rintro rfl
    rw [List.append_nil, hlength] at h
    exact Nat.lt_irrefl _ h
  have hwidth : (start ++ tail).length - (toString n).toList.length = tail.length := by
    rw [hlength, List.length_append, Nat.add_sub_cancel_left]
  have hless : (toString n).toList < start ↔ n < value start := by
    rw [lt_iff_value_lt (isDigits_toString n) hstart hlength, value_toString]
  have hsame : (toString n).toList = start ↔ n = value start := by
    rw [← value_inj (isDigits_toString n) hstart hlength, value_toString]
  rw [List.append_assoc, hwidth]
  calc (toString n).toList ++ '-' :: xs < start ++ (tail ++ ys)
      ↔ (toString n).toList < start ∨ (toString n).toList = start ∧ '-' :: xs < tail ++ ys :=
        append_lt_append_iff hlength _ _
    _ ↔ n < value start ∨ n = value start := by
        rw [hless, hsame, and_iff_left (dash_lt htail hne xs ys)]
    _ ↔ n ≤ value start := Nat.le_iff_lt_or_eq.symm
    _ ↔ n * 10 ^ tail.length ≤ n' := by
        rw [← Nat.not_lt, value_lt_iff_append htail, hvalue, Nat.not_lt]

theorem toString_dash_inj {n n' : Nat} {xs ys : List Char}
    (h : (toString n).toList ++ '-' :: xs = (toString n').toList ++ '-' :: ys) :
    n = n' ∧ xs = ys := by
  have hdash (zs : List Char) : ∀ c ∈ ('-' :: zs).head?, c.isDigit = false := by
    intro c hc
    cases hc
    rfl
  have hspan := congrArg (List.span Char.isDigit) h
  rw [span_isDigit (isDigits_toString n) (hdash xs), span_isDigit (isDigits_toString n') (hdash ys),
    Prod.mk.injEq, List.cons.injEq] at hspan
  obtain ⟨hdigits, -, hrest⟩ := hspan
  exact ⟨toString_eq_iff.mp hdigits, hrest⟩

/-- Each number has the width of its column, and the mark of the column behind it. -/
def columns : List (Nat × Char) → List Nat → List Char
  | (width, mark) :: layout, n :: ns => (padded width n).toList ++ mark :: columns layout ns
  | _, _ => []

def Fits (column : Nat × Char) (n : Nat) : Prop := 0 < column.1 ∧ n < 10 ^ column.1

theorem columns_lt_iff {layout : List (Nat × Char)} {ns ns' : List Nat}
    (h : List.Forall₂ Fits layout ns) (h' : List.Forall₂ Fits layout ns') :
    columns layout ns < columns layout ns' ↔ ns < ns' := by
  induction h generalizing ns' with
  | nil =>
    cases h'
    simp [columns]
  | @cons column n layout ns hfits _ ih =>
    cases h' with
    | @cons _ n' _ ns' hfits' hrest' =>
      obtain ⟨width, mark⟩ := column
      have hlength := length_padded hfits.1 hfits.2
      have hlength' := length_padded hfits'.1 hfits'.2
      have hwidth : (padded width n).toList.length = (padded width n').toList.length :=
        hlength.trans hlength'.symm
      have hdigits := isDigits_padded width n
      have hdigits' := isDigits_padded width n'
      have hnumber := value_inj hdigits hdigits' hwidth
      have horder := lt_iff_value_lt hdigits hdigits' hwidth
      rw [value_padded, value_padded] at hnumber horder
      rw [columns, columns, append_lt_append_iff hwidth, horder, ← hnumber, List.cons_lt_cons_self,
        ih hrest', List.cons_lt_cons_iff]

theorem columns_inj {layout : List (Nat × Char)} {ns ns' : List Nat}
    (h : List.Forall₂ Fits layout ns) (h' : List.Forall₂ Fits layout ns')
    (heq : columns layout ns = columns layout ns') : ns = ns' := by
  obtain hlt | hsame | hgt := lt_trichotomy ns ns'
  · have hcolumns := (columns_lt_iff h h').mpr hlt
    rw [heq] at hcolumns
    exact absurd hcolumns (lt_irrefl _)
  · exact hsame
  · have hcolumns := (columns_lt_iff h' h).mpr hgt
    rw [heq] at hcolumns
    exact absurd hcolumns (lt_irrefl _)

end Digits

end SqlRender
