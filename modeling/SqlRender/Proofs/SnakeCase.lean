import Mathlib
import SqlRender.Text.SnakeCase

namespace SqlRender.Text

/-- Between the character at `i` and the capital behind it a word ends: with a small letter or a
digit, or in front of a capital that begins a word of small letters, unless that begins a line. -/
def isBreak (cs : List Char) (i : Nat) : Bool :=
  cs[i + 1]?.any Char.isUpper &&
    (cs[i]?.any (fun c ↦ c.isLower || c.isDigit) ||
      cs[i]?.any (· ≠ '\n') && cs[i + 2]?.any Char.isLower)

/-- An underscore stands behind every character where a word ends, and nowhere else. -/
def underscored (cs : List Char) : List Char :=
  cs.zipIdx.flatMap fun (c, i) ↦ if isBreak cs i then [c, '_'] else [c]

variable {c d e : Char} {cs : List Char} {inWord : Bool}

theorem isBreak_cons_zero : isBreak (c :: cs) 0 =
    (cs[0]?.any Char.isUpper &&
      ((c.isLower || c.isDigit) || c ≠ '\n' && cs[1]?.any Char.isLower)) :=
  rfl

theorem underscored_cons :
    underscored (c :: cs) = (if isBreak (c :: cs) 0 then [c, '_'] else [c]) ++ underscored cs := by
  rw [underscored, List.zipIdx_cons', List.flatMap_cons, List.flatMap_map]
  rfl

theorem underscored_of_not_isUpper (h : ∀ c ∈ cs, c.isUpper = false) : underscored cs = cs := by
  induction cs with
  | nil => rfl
  | cons c cs ih =>
    have hbehind : cs[0]?.any Char.isUpper = false := by
      rw [Option.any_eq_false]
      intro d hd
      exact h d (List.mem_cons_of_mem _ (List.mem_of_getElem? hd))
    rw [underscored_cons, isBreak_cons_zero, hbehind, Bool.false_and,
      ih fun d hd ↦ h d (List.mem_cons_of_mem _ hd)]
    rfl

theorem head?_splitWords (inWord : Bool) (cs : List Char) :
    (splitWords inWord cs)[0]? = cs[0]? := by
  fun_cases splitWords inWord cs <;> rfl

theorem splitCapitals_cons : splitCapitals (c :: cs) =
    (if (c.isLower || c.isDigit) && cs[0]?.any Char.isUpper then [c, '_'] else [c]) ++
      splitCapitals cs := by
  cases cs with
  | nil => simp [splitCapitals]
  | cons d cs =>
    rw [splitCapitals, List.getElem?_cons_zero, Option.any_some]
    split <;> rfl

theorem not_isLower_or_isDigit (h : c.isUpper = true) : (c.isLower || c.isDigit) = false := by
  simp only [Char.isUpper, Char.isLower, Char.isDigit] at h ⊢
  grind

theorem isBreak_of_isLower (h : c.isLower = true) :
    isBreak (c :: cs) 0 = ((c.isLower || c.isDigit) && cs[0]?.any Char.isUpper) := by
  rw [isBreak_cons_zero, h, Bool.true_or, Bool.true_or, Bool.and_true, Bool.true_and]

theorem isBreak_of_no_word (h : ¬(c ≠ '\n' && d.isUpper && e.isLower) = true) :
    isBreak (c :: d :: e :: cs) 0 = ((c.isLower || c.isDigit) && d.isUpper) := by
  rw [isBreak_cons_zero, List.getElem?_cons_zero, List.getElem?_cons_succ,
    List.getElem?_cons_zero, Option.any_some, Option.any_some, Bool.and_or_distrib_left,
    ← Bool.and_assoc, Bool.and_comm d.isUpper (decide _), Bool.eq_false_of_not_eq_true h,
    Bool.or_false, Bool.and_comm]

theorem isBreak_of_length_le_one (h : cs.length ≤ 1) :
    isBreak (c :: cs) 0 = ((c.isLower || c.isDigit) && cs[0]?.any Char.isUpper) := by
  rw [isBreak_cons_zero, List.getElem?_eq_none h, Option.any_none, Bool.and_false, Bool.or_false,
    Bool.and_comm]

/-- A word that has small letters hides the last of them from the first pass, and only from it: what
that leaves out is in front of a capital, where the second pass finds it. -/
theorem splitCapitals_splitWords (inWord : Bool) (cs : List Char) :
    splitCapitals (splitWords inWord cs) = underscored cs := by
  fun_induction splitWords inWord cs with
  | case1 inWord c d e cs hpassed ih =>
    have hc : c.isLower = true := (Bool.and_eq_true_iff.mp hpassed).2
    rw [splitCapitals_cons, head?_splitWords, underscored_cons, isBreak_of_isLower hc, ih]
  | case2 inWord c d e cs _ hword ih =>
    simp only [Bool.and_eq_true, decide_eq_true_eq] at hword
    obtain ⟨⟨hc, hd⟩, he⟩ := hword
    have hbreak : isBreak (c :: d :: e :: cs) 0 = true := by
      simp [isBreak_cons_zero, hc, hd, he]
    have hnone : isBreak (d :: e :: cs) 0 = false := by
      simp [isBreak_cons_zero, Char.not_isUpper_of_isLower he]
    rw [underscored_cons, hbreak, underscored_cons, hnone, ← ih]
    simp [splitCapitals_cons, not_isLower_or_isDigit hd]
  | case3 inWord c d e cs _ hword ih =>
    rw [splitCapitals_cons, head?_splitWords, underscored_cons, isBreak_of_no_word hword, ih,
      List.getElem?_cons_zero, Option.any_some]
  | case4 inWord cs hshort =>
    match cs, hshort with
    | [], _ => rfl
    | [c], _ => rfl
    | [c, d], _ =>
      rw [splitCapitals_cons, underscored_cons, isBreak_of_length_le_one Nat.le.refl]
      rfl
    | c :: d :: e :: cs, hshort => exact (hshort c d e cs rfl).elim

theorem forall_mem_underscored {p : Char → Prop} (hmark : p '_') (h : ∀ c ∈ cs, p c) :
    ∀ c ∈ underscored cs, p c := by
  induction cs with
  | nil => exact h
  | cons c cs ih =>
    obtain ⟨hc, hcs⟩ := List.forall_mem_cons.mp h
    rw [underscored_cons, List.forall_mem_append]
    refine ⟨?_, ih hcs⟩
    split
    · simp [hc, hmark]
    · simp [hc]

theorem toNat_toLower_lt (h : c.toNat < 128) : c.toLower.toNat < 128 := by
  rw [Char.toLower]
  split
  · next hupper =>
    have hle : c.val.toNat ≤ 90 := UInt32.le_iff_toNat_le.mp hupper.2
    show (c.val.toNat + 32) % 2 ^ 32 < 128
    omega
  · exact h

theorem lowerFrom_of_isAscii (afterCased : Bool) (h : ∀ c ∈ cs, c.toNat < 128) :
    lowerFrom afterCased cs = cs.map Char.toLower := by
  induction cs generalizing afterCased with
  | nil => rfl
  | cons c cs ih =>
    obtain ⟨hc, hcs⟩ := List.forall_mem_cons.mp h
    have hsigma : ¬(c.toNat = 0x3A3 ∧ afterCased ∧ !startsCased cs) := by omega
    rw [lowerFrom, if_neg hsigma, smallLetters, if_pos hc, ih _ hcs]
    rfl

theorem snakeCase_of_isAscii {s : String} (h : ∀ c ∈ s.toList, c.toNat < 128) :
    snakeCase s = String.ofList ((underscored s.toList).map Char.toLower) := by
  rw [snakeCase, splitCapitals_splitWords,
    lowerFrom_of_isAscii false (forall_mem_underscored (by decide) h)]

theorem snakeCase_of_not_isUpper {s : String}
    (h : ∀ c ∈ s.toList, c.isUpper = false ∧ c.toNat < 128) : snakeCase s = s := by
  have hlower : ∀ c ∈ s.toList, c.toLower = c := fun c hc ↦
    Char.toLower_eq_of_not_isUpper (Bool.eq_false_iff.mp (h c hc).1)
  rw [snakeCase_of_isAscii fun c hc ↦ (h c hc).2, underscored_of_not_isUpper fun c hc ↦ (h c hc).1,
    List.map_congr_left hlower, List.map_id', String.ofList_toList]

/-- The two passes put an underscore between two characters just where a word ends between them, and
change no other character but to its small letters. A name of ASCII characters comes out as it is
when it is given again. -/
theorem snakeCase_eq_lower_underscored (s : String) :
    snakeCase s = lower (String.ofList (underscored s.toList)) ∧
      ((∀ c ∈ s.toList, c.toNat < 128) → snakeCase (snakeCase s) = snakeCase s) := by
  constructor
  · rw [snakeCase, splitCapitals_splitWords, lower, String.toList_ofList]
  · intro h
    apply snakeCase_of_not_isUpper
    rw [snakeCase_of_isAscii h, String.toList_ofList, List.forall_mem_map]
    intro c hc
    exact ⟨Char.isUpper_toLower_eq_false c,
      toNat_toLower_lt (forall_mem_underscored (by decide) h c hc)⟩

theorem snakeCase_eq_lower_underscored_of_acronym :
    (∀ c ∈ "getHTTPCode2B_X".toList, c.toNat < 128) ∧
      snakeCase "getHTTPCode2B_X" = lower "get_HTTP_Code2_B_X" ∧
      snakeCase (snakeCase "getHTTPCode2B_X") = snakeCase "getHTTPCode2B_X" := by
  have hascii : ∀ c ∈ "getHTTPCode2B_X".toList, c.toNat < 128 := by simp
  have hbreaks : underscored "getHTTPCode2B_X".toList = "get_HTTP_Code2_B_X".toList := by decide
  obtain ⟨hlower, hagain⟩ := snakeCase_eq_lower_underscored "getHTTPCode2B_X"
  rw [hbreaks, String.ofList_toList] at hlower
  exact ⟨hascii, hlower, hagain hascii⟩

end SqlRender.Text
