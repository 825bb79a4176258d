import Mathlib.Data.List.TakeWhile
import SqlRender.Api.BodyLimit
import SqlRender.Proofs.Digits

/-!
Whole numbers in a header. Main statement: a number is read just from a text that consists of
blanks, a sign, groups of digits with single underscores between them, and blanks again.
-/

namespace SqlRender

namespace Text

variable {p : Char → Bool} {before middle after cs : List Char}

theorem dropWhile_append_of_head? (hbefore : ∀ c ∈ before, p c = true)
    (hhead : ∀ c ∈ middle.head?, p c = false) : (before ++ middle).dropWhile p = middle := by
  rw [List.dropWhile_append_of_pos hbefore]
  cases middle with
  | nil => rfl
  | cons c middle => rw [List.dropWhile_cons_of_neg (by simp [hhead c rfl])]

theorem trimmed_append (hne : middle ≠ []) (hbefore : ∀ c ∈ before, p c = true)
    (hafter : ∀ c ∈ after, p c = true) (hhead : ∀ c ∈ middle.head?, p c = false)
    (hlast : ∀ c ∈ middle.getLast?, p c = false) :
    trimmed p (before ++ middle ++ after) = middle := by
  have hfront : (before ++ (middle ++ after)).dropWhile p = middle ++ after := by
    refine dropWhile_append_of_head? hbefore ?_
    obtain ⟨c, rest, rfl⟩ := List.exists_cons_of_ne_nil hne
    exact hhead
  have hback : (after.reverse ++ middle.reverse).dropWhile p = middle.reverse := by
    refine dropWhile_append_of_head? (fun c hc ↦ hafter c (List.mem_reverse.mp hc)) ?_
    rwa [List.head?_reverse]
  rw [trimmed, List.append_assoc, hfront, List.reverse_append, hback, List.reverse_reverse]

theorem exists_append_trimmed (p : Char → Bool) (cs : List Char) :
    ∃ before after, cs = before ++ trimmed p cs ++ after ∧
      (∀ c ∈ before, p c = true) ∧ ∀ c ∈ after, p c = true := by
  refine ⟨cs.takeWhile p, ((cs.dropWhile p).reverse.takeWhile p).reverse, ?_, ?_, ?_⟩
  · rw [trimmed, List.append_assoc, ← List.reverse_append, List.takeWhile_append_dropWhile,
      List.reverse_reverse, List.takeWhile_append_dropWhile]
  · exact fun c hc ↦ List.mem_takeWhile_imp hc
  · exact fun c hc ↦ List.mem_takeWhile_imp (List.mem_reverse.mp hc)

end Text

namespace Digits

variable {cs digits group : List Char} {groups : List (List Char)}

/-- Digits in groups with one underscore between two groups. -/
def IsGrouped (groups : List (List Char)) (cs : List Char) : Prop :=
  groups ≠ [] ∧ (∀ group ∈ groups, group ≠ [] ∧ IsDigits group) ∧ ['_'].intercalate groups = cs

theorem ne_underscore_of_isDigit {c : Char} (h : c.isDigit = true) : c ≠ '_' := by
  rintro rfl
  cases h

theorem ungrouped?_cons_cons {c d : Char} (hc : c.isDigit = true) (hd : d ≠ '_') :
    ungrouped? (c :: d :: cs) = (ungrouped? (d :: cs)).map (c :: ·) := by
  rw [ungrouped?, if_pos hc]
  exact hd

theorem ungrouped?_cons_underscore {c : Char} (hc : c.isDigit = true) :
    ungrouped? (c :: '_' :: cs) = (ungrouped? cs).map (c :: ·) := by
  rw [ungrouped?, if_pos hc]

/-- By induction on the group, whose last digit decides with what follows it. -/
theorem ungrouped?_append {tail : List Char} {rest : Option (List Char)} (hne : group ≠ [])
    (hgroup : IsDigits group)
    (hlast : ∀ c : Char, c.isDigit = true → ungrouped? (c :: tail) = rest.map (c :: ·)) :
    ungrouped? (group ++ tail) = rest.map (group ++ ·) := by
  induction group with
  | nil => exact absurd rfl hne
  | cons c group ih =>
    obtain ⟨hc, hgroup⟩ := List.forall_mem_cons.mp hgroup
    cases group with
    | nil => exact hlast c hc
    | cons d group =>
      have hd : d ≠ '_' := ne_underscore_of_isDigit (hgroup d List.mem_cons_self)
      have hrest := ih (List.cons_ne_nil d group) hgroup
      rw [List.cons_append, List.cons_append, ungrouped?_cons_cons hc hd, ← List.cons_append, hrest,
        Option.map_map]
      rfl

theorem ungrouped?_intercalate (hne : groups ≠ [])
    (h : ∀ group ∈ groups, group ≠ [] ∧ IsDigits group) :
    ungrouped? (['_'].intercalate groups) = some groups.flatten := by
  induction groups with
  | nil => exact absurd rfl hne
  | cons group groups ih =>
    obtain ⟨⟨hgroup, hdigits⟩, hgroups⟩ := List.forall_mem_cons.mp h
    rcases eq_or_ne groups [] with rfl | hgroups_ne
    · rw [List.intercalate_singleton, List.flatten_singleton]
      have hlast (c : Char) (hc : c.isDigit = true) : ungrouped? [c] = (some []).map (c :: ·) := by
        rw [ungrouped?, if_pos hc]
        rfl
      simpa using ungrouped?_append hgroup hdigits hlast
    · rw [List.intercalate_cons_of_ne_nil hgroups_ne, List.append_assoc, List.singleton_append,
        ungrouped?_append hgroup hdigits fun c hc ↦ ungrouped?_cons_underscore hc,
        ih hgroups_ne hgroups]
      rfl

theorem exists_isGrouped_of_ungrouped? (h : ungrouped? cs = some digits) :
    ∃ groups, IsGrouped groups cs ∧ groups.flatten = digits := by
  fun_induction ungrouped? cs generalizing digits with
  | case1 => cases h
  | case2 c hc =>
    cases h
    exact ⟨[[c]], by simp [IsGrouped, IsDigits, hc], rfl⟩
  | case3 => cases h
  | case4 c cs hc ih =>
    obtain ⟨digits, hdigits, rfl⟩ := Option.map_eq_some_iff.mp h
    obtain ⟨groups, ⟨hne, hgroups, rfl⟩, rfl⟩ := ih hdigits
    refine ⟨[c] :: groups, ⟨List.cons_ne_nil _ _, ?_, ?_⟩, rfl⟩
    · exact List.forall_mem_cons.mpr ⟨⟨List.cons_ne_nil _ _, by simp [IsDigits, hc]⟩, hgroups⟩
    · rw [List.intercalate_cons_of_ne_nil hne]
      rfl
  | case5 => cases h
  | case6 c d cs hd hc ih =>
    obtain ⟨digits, hdigits, rfl⟩ := Option.map_eq_some_iff.mp h
    obtain ⟨groups, ⟨hne, hgroups, hcs⟩, rfl⟩ := ih hdigits
    obtain ⟨group, groups, rfl⟩ := List.exists_cons_of_ne_nil hne
    obtain ⟨⟨-, hgroup⟩, hgroups⟩ := List.forall_mem_cons.mp hgroups
    refine ⟨(c :: group) :: groups, ⟨List.cons_ne_nil _ _, ?_, ?_⟩, rfl⟩
    · exact List.forall_mem_cons.mpr
        ⟨⟨List.cons_ne_nil _ _, List.forall_mem_cons.mpr ⟨hc, hgroup⟩⟩, hgroups⟩
    · rw [List.intercalate_cons_cons_left, hcs]
  | case7 => cases h

theorem ungrouped?_eq_some_iff :
    ungrouped? cs = some digits ↔ ∃ groups, IsGrouped groups cs ∧ groups.flatten = digits := by
  refine ⟨exists_isGrouped_of_ungrouped?, ?_⟩
  rintro ⟨groups, ⟨hne, hgroups, rfl⟩, rfl⟩
  exact ungrouped?_intercalate hne hgroups

theorem IsGrouped.exists_head? (h : IsGrouped groups cs) :
    ∃ c rest, cs = c :: rest ∧ c.isDigit = true := by
  obtain ⟨hne, hgroups, rfl⟩ := h
  obtain ⟨group, groups, rfl⟩ := List.exists_cons_of_ne_nil hne
  obtain ⟨hgroup, hdigits⟩ := hgroups group List.mem_cons_self
  obtain ⟨c, rest, rfl⟩ := List.exists_cons_of_ne_nil hgroup
  exact ⟨c, _, List.intercalate_cons_cons_left, hdigits c List.mem_cons_self⟩

theorem IsGrouped.exists_getLast? (h : IsGrouped groups cs) :
    ∃ rest c, cs = rest ++ [c] ∧ c.isDigit = true := by
  obtain ⟨hne, hgroups, rfl⟩ := h
  induction groups with
  | nil => exact absurd rfl hne
  | cons group groups ih =>
    obtain ⟨⟨hgroup, hdigits⟩, hgroups⟩ := List.forall_mem_cons.mp hgroups
    rcases eq_or_ne groups [] with rfl | hgroups_ne
    · rw [List.intercalate_singleton]
      exact ⟨group.dropLast, group.getLast hgroup, (List.dropLast_concat_getLast hgroup).symm,
        hdigits _ (List.getLast_mem hgroup)⟩
    · obtain ⟨rest, c, hrest, hc⟩ := ih hgroups_ne hgroups
      refine ⟨group ++ ['_'] ++ rest, c, ?_, hc⟩
      rw [List.intercalate_cons_of_ne_nil hgroups_ne, hrest, List.append_assoc _ rest]

end Digits

namespace Api.BodyLimit

open Digits

variable {cs : List Char} {m : Nat} {n : Int}

/-- Not too many digits in groups, which stand for the number. -/
def IsNumeral (cs : List Char) (m : Nat) : Prop :=
  ∃ groups, IsGrouped groups cs ∧ groups.flatten.length ≤ longest ∧ value groups.flatten = m

/-- A number, and its sign in front of it unless it is left out. -/
def IsSigned (cs : List Char) (n : Int) : Prop :=
  ∃ sign digits m, cs = sign ++ digits ∧ IsNumeral digits m ∧
    (sign = ['-'] ∧ n = -(m : Int) ∨ (sign = [] ∨ sign = ['+']) ∧ n = m)

/-- A number with blanks around it. -/
def Declares (header : String) (n : Int) : Prop :=
  ∃ before cs after, header.toList = before ++ cs ++ after ∧ IsSigned cs n ∧
    (∀ c ∈ before, Text.isWhiteSpace c = true) ∧ ∀ c ∈ after, Text.isWhiteSpace c = true

theorem numeral?_eq_some_iff : numeral? cs = some m ↔ IsNumeral cs m := by
  rw [numeral?, IsNumeral]
  constructor
  · intro h
    obtain ⟨digits, hdigits, h⟩ := Option.bind_eq_some_iff.mp h
    obtain ⟨groups, hgroups, rfl⟩ := ungrouped?_eq_some_iff.mp hdigits
    obtain ⟨hlength, hvalue⟩ := Option.ite_none_left_eq_some.mp h
    exact ⟨groups, hgroups, Nat.not_lt.mp hlength, Option.some_inj.mp hvalue⟩
  · rintro ⟨groups, hgroups, hlength, rfl⟩
    rw [ungrouped?_eq_some_iff.mpr ⟨groups, hgroups, rfl⟩]
    exact if_neg (Nat.not_lt.mpr hlength)

theorem signed?_of_isNumeral (h : IsNumeral cs m) : signed? cs = some (m : Int) := by
  obtain ⟨groups, hgroups, -⟩ := id h
  obtain ⟨c, rest, rfl, hc⟩ := hgroups.exists_head?
  rw [signed?, numeral?_eq_some_iff.mpr h]
  · rfl
  · rintro _ ⟨⟩
    cases hc
  · rintro _ ⟨⟩
    cases hc

theorem signed?_minus (cs : List Char) :
    signed? ('-' :: cs) = (numeral? cs).map fun (m : Nat) ↦ -(m : Int) := by
  rw [signed?]

theorem signed?_plus (cs : List Char) : signed? ('+' :: cs) = (numeral? cs).map Int.ofNat := by
  rw [signed?]

theorem signed?_eq_some_iff : signed? cs = some n ↔ IsSigned cs n := by
  constructor
  · intro h
    rw [signed?.eq_def] at h
    split at h
    · obtain ⟨m, hm, rfl⟩ := Option.map_eq_some_iff.mp h
      exact ⟨['-'], _, m, rfl, numeral?_eq_some_iff.mp hm, .inl ⟨rfl, rfl⟩⟩
    · obtain ⟨m, hm, rfl⟩ := Option.map_eq_some_iff.mp h
      exact ⟨['+'], _, m, rfl, numeral?_eq_some_iff.mp hm, .inr ⟨.inr rfl, rfl⟩⟩
    · obtain ⟨m, hm, rfl⟩ := Option.map_eq_some_iff.mp h
      exact ⟨[], _, m, rfl, numeral?_eq_some_iff.mp hm, .inr ⟨.inl rfl, rfl⟩⟩
  · rintro ⟨sign, digits, m, rfl, hm, ⟨rfl, rfl⟩ | ⟨rfl | rfl, rfl⟩⟩
    · rw [List.singleton_append, signed?_minus, numeral?_eq_some_iff.mpr hm]
      rfl
    · exact signed?_of_isNumeral hm
    · rw [List.singleton_append, signed?_plus, numeral?_eq_some_iff.mpr hm]
      rfl

theorem isWhiteSpace_of_isDigit {c : Char} (h : c.isDigit = true) :
    Text.isWhiteSpace c = false := by
  rw [Text.isWhiteSpace, isBlank_of_isDigit h, Bool.false_and]

theorem IsSigned.trimmed {before after : List Char} (h : IsSigned cs n)
    (hbefore : ∀ c ∈ before, Text.isWhiteSpace c = true)
    (hafter : ∀ c ∈ after, Text.isWhiteSpace c = true) :
    Text.trimmed Text.isWhiteSpace (before ++ cs ++ after) = cs := by
  obtain ⟨sign, digits, m, rfl, ⟨groups, hgroups, -⟩, hsign⟩ := h
  refine Text.trimmed_append ?_ hbefore hafter ?_ ?_
  · obtain ⟨c, rest, rfl, -⟩ := hgroups.exists_head?
    exact List.append_ne_nil_of_right_ne_nil _ (List.cons_ne_nil c rest)
  · obtain ⟨c, rest, rfl, hc⟩ := hgroups.exists_head?
    obtain ⟨rfl, -⟩ | ⟨rfl | rfl, -⟩ := hsign <;> rintro _ ⟨⟩
    · rfl
    · exact isWhiteSpace_of_isDigit hc
    · rfl
  · obtain ⟨rest, c, rfl, hc⟩ := hgroups.exists_getLast?
    rw [← List.append_assoc, List.getLast?_concat]
    rintro _ ⟨⟩
    exact isWhiteSpace_of_isDigit hc

theorem declared?_eq_some_iff {header : String} :
    declared? header = some n ↔ Declares header n := by
  rw [declared?, signed?_eq_some_iff]
  constructor
  · intro h
    obtain ⟨before, after, hchars, hbefore, hafter⟩ :=
      Text.exists_append_trimmed Text.isWhiteSpace header.toList
    exact ⟨before, _, after, hchars, h, hbefore, hafter⟩
  · rintro ⟨before, cs, after, hchars, hcs, hbefore, hafter⟩
    rwa [hchars, hcs.trimmed hbefore hafter]

end Api.BodyLimit

end SqlRender
