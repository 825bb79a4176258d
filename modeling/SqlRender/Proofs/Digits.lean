import Mathlib.Algebra.Group.Nat.Defs
import Mathlib.Data.List.TakeDrop
import SqlRender.Text.Blank
import SqlRender.Text.Digits

/-!
The decimal digits of a number, with zeros in front of them or not: what they are, how many they
are, where they end, and the number that they denote.
-/

namespace SqlRender.Digits

def IsDigits (cs : List Char) : Prop := ∀ c ∈ cs, c.isDigit = true

variable {xs ys : List Char}

theorem IsDigits.append (hx : IsDigits xs) (hy : IsDigits ys) : IsDigits (xs ++ ys) :=
  List.forall_mem_append.mpr ⟨hx, hy⟩

theorem isDigits_toString (n : Nat) : IsDigits (toString n).toList := by
  intro c hc
  rw [Nat.toString_eq_repr, Nat.toList_repr] at hc
  exact Nat.isDigit_of_mem_toDigits (by decide) (by decide) hc

theorem toList_padded (width n : Nat) : (padded width n).toList =
    List.replicate (width - (toString n).length) '0' ++ (toString n).toList := by
  rw [padded, String.toList_append, String.toList_ofList]

theorem isDigits_padded (width n : Nat) : IsDigits (padded width n).toList := by
  rw [toList_padded]
  refine IsDigits.append (fun c hc ↦ ?_) (isDigits_toString n)
  rw [List.eq_of_mem_replicate hc]
  rfl

theorem toString_ne_nil (n : Nat) : (toString n).toList ≠ [] := by
  rw [Nat.toString_eq_repr, Nat.toList_repr]
  exact Nat.toDigits_ne_nil

theorem length_toString_le_iff {n width : Nat} (h : 0 < width) :
    (toString n).toList.length ≤ width ↔ n < 10 ^ width := by
  rw [Nat.toString_eq_repr, Nat.toList_repr]
  exact Nat.length_toDigits_le_iff (by decide) h

/-- The longest number that is written has as many digits as the bound tells. -/
theorem isTooLong_eq_false_iff {n : Nat} : isTooLong n = false ↔ n < 10 ^ longest := by
  rw [isTooLong, decide_eq_false_iff_not, Nat.not_lt]
  exact Nat.length_toDigits_le_iff (by decide) (by decide)

theorem isTooLong_pow_longest : isTooLong (10 ^ longest) = true := by
  rw [← Bool.not_eq_false, isTooLong_eq_false_iff]
  exact Nat.lt_irrefl _

/-- A number that fits is written with just the digits that are asked for. -/
theorem length_padded {width n : Nat} (hwidth : 0 < width) (h : n < 10 ^ width) :
    (padded width n).toList.length = width := by
  have hlength := (length_toString_le_iff hwidth).mpr h
  rw [String.length_toList] at hlength
  rw [toList_padded, List.length_append, List.length_replicate, String.length_toList]
  omega

/-- No zeros are filled in just where the digits are as many as asked for. -/
theorem padded_succ_eq_toString_iff {width n : Nat} (h : 0 < width) :
    padded (width + 1) n = toString n ↔ 10 ^ width ≤ n := by
  have hlength := length_toString_le_iff (n := n) h
  rw [String.length_toList] at hlength
  rw [← String.toList_inj, toList_padded, List.append_left_eq_self, List.replicate_eq_nil_iff]
  omega

theorem value_append (xs ys : List Char) :
    value (xs ++ ys) = value xs * 10 ^ ys.length + value ys := by
  show Nat.ofDigitChars 10 (xs ++ ys) 0 = _
  rw [Nat.ofDigitChars_append, Nat.ofDigitChars_eq_ofDigitChars_zero, Nat.mul_comm]
  rfl

theorem value_toString (n : Nat) : value (toString n).toList = n := by
  rw [Nat.toString_eq_repr, Nat.toList_repr]
  exact Nat.ofDigitChars_toDigits (by decide) (by decide)

theorem value_replicate_zero (n : Nat) : value (List.replicate n '0') = 0 := by
  show Nat.ofDigitChars 10 (List.replicate n '0') 0 = 0
  rw [Nat.ofDigitChars_replicate_zero, Nat.mul_zero]

theorem value_padded (width n : Nat) : value (padded width n).toList = n := by
  rw [toList_padded, value_append, value_replicate_zero, value_toString, Nat.zero_mul, Nat.zero_add]

theorem digit_bounds {c : Char} (h : c.isDigit = true) : 48 ≤ c.toNat ∧ c.toNat ≤ 57 := by
  simp only [Char.isDigit, Bool.and_eq_true, decide_eq_true_eq] at h
  exact ⟨UInt32.le_iff_toNat_le.mp h.1, UInt32.le_iff_toNat_le.mp h.2⟩

theorem isBlank_of_isDigit {c : Char} (h : c.isDigit = true) : Text.isBlank c = false := by
  have hbounds := digit_bounds h
  simp only [Text.isBlank, Bool.or_eq_false_iff, Bool.and_eq_false_iff, beq_eq_false_iff_ne,
    decide_eq_false_iff_not]
  omega

theorem value_cons (c : Char) (cs : List Char) :
    value (c :: cs) = (c.toNat - 48) * 10 ^ cs.length + value cs := by
  rw [← List.singleton_append, value_append]
  simp [value]

theorem value_lt (h : IsDigits xs) : value xs < 10 ^ xs.length := by
  induction xs with
  | nil => decide
  | cons c cs ih =>
    obtain ⟨hc, hcs⟩ := List.forall_mem_cons.mp h
    have hdigit := digit_bounds hc
    have hrest := ih hcs
    have hfirst := Nat.mul_le_mul_right (10 ^ cs.length) (show c.toNat - 48 ≤ 9 by omega)
    rw [value_cons, List.length_cons, Nat.pow_succ]
    omega

theorem isDigits_takeWhile (cs : List Char) : IsDigits (cs.takeWhile Char.isDigit) :=
  List.all_eq_true.mp List.all_takeWhile

theorem span_isDigit {cs rest : List Char} (h : IsDigits cs)
    (hrest : ∀ c ∈ rest.head?, c.isDigit = false) :
    (cs ++ rest).span Char.isDigit = (cs, rest) := by
  have hbehind : rest.takeWhile Char.isDigit = [] ∧ rest.dropWhile Char.isDigit = rest := by
    cases rest with
    | nil => exact ⟨rfl, rfl⟩
    | cons c rest =>
      have hc : c.isDigit = false := hrest c rfl
      simp [hc]
  rw [List.span_eq_takeWhile_dropWhile, List.takeWhile_append_of_pos h,
    List.dropWhile_append_of_pos h, hbehind.1, hbehind.2, List.append_nil]

/-- A number begins with a zero only where it is zero. -/
theorem toString_of_head?_zero {n : Nat} (h : (toString n).toList.head? = some '0') :
    (toString n).toList = ['0'] := by
  obtain ⟨cs, hcs⟩ := List.head?_eq_some_iff.mp h
  cases cs with
  | nil => exact hcs
  | cons c cs =>
    have hdigits : IsDigits (c :: cs) := by
      intro c' hc'
      apply isDigits_toString n
      rw [hcs]
      exact List.mem_cons_of_mem _ hc'
    have hlt := value_lt hdigits
    have hvalue : value (c :: cs) = n := by
      rw [← value_toString n, hcs]
      rfl
    rw [hvalue] at hlt
    have hshort := (length_toString_le_iff (Nat.succ_pos cs.length)).mpr hlt
    rw [hcs] at hshort
    exact absurd hshort (Nat.not_succ_le_self _)

end SqlRender.Digits
