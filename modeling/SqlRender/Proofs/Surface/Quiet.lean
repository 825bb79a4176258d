import SqlRender.Proofs.Draft.Adds
import SqlRender.Proofs.LexicalSafety
import SqlRender.Proofs.Surface.Token

namespace SqlRender.Surface

open Template (Apart IsClosed IsHidden IsPlain isQuote unquoted)
open Sql (isWordChar)

/-- The token is the word in capitals or small letters. -/
def isWord (word : String) (token : List Char) : Bool := token.map Char.toUpper = word.toList

/-- Of the keywords by which a text is cut each has two letters that meet in no other word. -/
def connectivePairs : List (Char × Char) := [('N', 'D'), ('O', 'R')]

def clausePairs : List (Char × Char) := [('N', 'I'), ('R', 'D'), ('M', 'I'), ('F', 'F')]

def keywordPairs : List (Char × Char) := connectivePairs ++ clausePairs

/-- Outside quotes and parentheses the text has no keyword with one of the pairs of letters, and
gets none where another such text is written behind it. -/
structure IsQuiet (backslashEscapes : Bool) (pairs : List (Char × Char)) (sql : String) :
    Prop where
  level : IsLevel backslashEscapes sql
  apart : ∀ pair ∈ pairs, Apart pair.1 pair.2 ((bare backslashEscapes sql).map Char.toUpper)

variable {backslashEscapes : Bool} {pairs : List (Char × Char)} {sql : String}

theorem toUpper_of_not_isAlpha {c : Char} (h : c.isAlpha = false) : c.toUpper = c := by
  unfold Char.toUpper
  split
  · next hc =>
    have hlower : c.isLower = true := Bool.and_eq_true_iff.mpr
      ⟨decide_eq_true hc.1, decide_eq_true hc.2⟩
    have halpha : c.isAlpha = (c.isUpper || c.isLower) := rfl
    rw [halpha, hlower, Bool.or_true] at h
    cases h
  · rfl

theorem isWordChar_of_toUpper {c : Char} (h : isWordChar c.toUpper = true) :
    isWordChar c = true := by
  cases hc : c.isAlpha with
  | true => rw [isWordChar, Char.isAlphanum, hc, Bool.true_or, Bool.true_or, Bool.true_or,
      Bool.true_or]
  | false => rwa [toUpper_of_not_isAlpha hc] at h

namespace IsQuiet

theorem additive : Draft.Additive (IsQuiet backslashEscapes pairs) where
  empty := ⟨rfl, fun _ _ ↦ trivial⟩
  append hx hy := by
    refine ⟨hx.level.append hy.level, fun pair hpair ↦ ?_⟩
    rw [bare_append hx.level, List.map_append]
    exact (hx.apart pair hpair).append (hy.apart pair hpair)

theorem of_subset {pairs' : List (Char × Char)} (h : IsQuiet backslashEscapes pairs sql)
    (hpairs : ∀ pair ∈ pairs', pair ∈ pairs) : IsQuiet backslashEscapes pairs' sql :=
  ⟨h.level, fun pair hpair ↦ h.apart pair (hpairs pair hpair)⟩

theorem of_isPlain (h : IsPlain sql)
    (hpairs : ∀ pair ∈ pairs, Apart pair.1 pair.2 (sql.toList.map Char.toUpper)) :
    IsQuiet backslashEscapes pairs sql := by
  have hunquoted := h.unquoted_eq backslashEscapes
  have hopen : '(' ∉ unquoted backslashEscapes sql := hunquoted ▸ h.not_mem rfl
  have hclose : ')' ∉ unquoted backslashEscapes sql := hunquoted ▸ h.not_mem rfl
  obtain ⟨hlevel, hbare⟩ := bare_eq_unquoted (h.isClosed backslashEscapes) hopen hclose
  refine ⟨hlevel, ?_⟩
  rw [hbare, hunquoted]
  exact hpairs

theorem of_isHidden (h : IsHidden backslashEscapes sql) : IsQuiet backslashEscapes pairs sql := by
  obtain ⟨hlevel, hbare⟩ := bare_eq_unquoted h.1 (h.2 ▸ List.not_mem_nil)
    (h.2 ▸ List.not_mem_nil)
  refine ⟨hlevel, fun pair _ ↦ ?_⟩
  rw [hbare, h.2]
  trivial

theorem parenthesized (h : IsNested backslashEscapes sql) :
    IsQuiet backslashEscapes pairs ("(" ++ sql ++ ")") := by
  refine ⟨h.isLevel_parenthesized, fun pair _ ↦ ?_⟩
  rw [h.bare_parenthesized]
  trivial

theorem of_mute (hpairs : ∀ pair ∈ pairs, pair.1.isAlpha = true)
    (hclosed : IsClosed backslashEscapes sql)
    (h : ∀ c ∈ unquoted backslashEscapes sql, c ≠ '(' ∧ c ≠ ')' ∧ c.isAlpha = false) :
    IsQuiet backslashEscapes pairs sql := by
  obtain ⟨hlevel, hbare⟩ := bare_eq_unquoted hclosed (fun hc ↦ (h _ hc).1 rfl)
    (fun hc ↦ (h _ hc).2.1 rfl)
  refine ⟨hlevel, fun pair hpair ↦ .of_not_mem ?_⟩
  rw [hbare, List.mem_map]
  rintro ⟨c, hc, heq⟩
  rw [toUpper_of_not_isAlpha (h c hc).2.2] at heq
  have halpha := (h c hc).2.2
  rw [heq, hpairs pair hpair] at halpha
  cases halpha

/-- A quiet text has no token that is a keyword with a pair of letters that stay apart. -/
theorem not_isWord (h : IsQuiet backslashEscapes pairs sql) {word : String} {a b : Char}
    (hword : word.toList.all isWordChar = true) (hpair : (a, b) ∈ pairs)
    (hin : [a, b] <:+: word.toList) {token : List Char}
    (htoken : token ∈ tokens backslashEscapes sql) : isWord word token = false := by
  refine decide_eq_false fun heq ↦ ?_
  have hall : ∀ c ∈ token, Place.next backslashEscapes {} c = {} := by
    intro c hc
    apply Place.next_of_isWordChar
    apply isWordChar_of_toUpper
    exact List.all_eq_true.mp hword _ (heq ▸ List.mem_map_of_mem hc)
  have hpart := (infix_bare_of_mem_tokens htoken hall).map Char.toUpper
  rw [heq] at hpart
  exact (h.apart _ hpair).not_adjacent (hin.trans hpart)

end IsQuiet

/-- A character that is neither a quote or a parenthesis nor a letter. -/
def isMute (c : Char) : Bool := !isQuote c && c ≠ '(' && c ≠ ')' && !c.isAlpha

def IsMute (sql : String) : Prop := ∀ c ∈ sql.toList, isMute c = true

instance (sql : String) : Decidable (IsMute sql) :=
  decidable_of_iff (sql.toList.all isMute = true) List.all_eq_true

theorem IsMute.append {xs ys : String} (hx : IsMute xs) (hy : IsMute ys) : IsMute (xs ++ ys) := by
  rw [IsMute, String.toList_append, List.forall_mem_append]
  exact ⟨hx, hy⟩

theorem IsMute.isQuiet (h : IsMute sql) : IsQuiet backslashEscapes keywordPairs sql := by
  have hmute : ∀ c ∈ sql.toList, isQuote c = false ∧ c ≠ '(' ∧ c ≠ ')' ∧ c.isAlpha = false := by
    intro c hc
    have hmute := h c hc
    simp only [isMute, Bool.and_eq_true, Bool.not_eq_true', decide_eq_true_eq] at hmute
    obtain ⟨⟨⟨hquote, hopen⟩, hclose⟩, halpha⟩ := hmute
    exact ⟨hquote, hopen, hclose, halpha⟩
  have hquote : sql.toList.any isQuote = false := by
    rw [List.any_eq_false]
    intro c hc
    rw [(hmute c hc).1]
    exact Bool.false_ne_true
  obtain ⟨hclosed, hunquoted⟩ := Template.isClosed_of_no_quote backslashEscapes sql hquote
  refine IsQuiet.of_mute (by decide) hclosed ?_
  rw [hunquoted]
  exact fun c hc ↦ (hmute c hc).2

theorem isMute_of_isDigit {c : Char} (h : c.isDigit = true) : isMute c = true := by
  have hne (c' : Char) (hc : c'.isDigit = false) : c ≠ c' := by
    rintro rfl
    rw [h] at hc
    cases hc
  have halpha : c.isAlpha = false := by
    have hnine : '9'.val.toNat = 57 := rfl
    have hcapital : 'A'.val.toNat = 65 := rfl
    have hsmall : 'a'.val.toNat = 97 := rfl
    have hdigit : (decide ('0'.val ≤ c.val) && decide (c.val ≤ '9'.val)) = true := h
    have hletter : c.isAlpha = (decide ('A'.val ≤ c.val ∧ c.val ≤ 'Z'.val) ||
        decide ('a'.val ≤ c.val) && decide (c.val ≤ 'z'.val)) := rfl
    simp only [Bool.and_eq_true, decide_eq_true_eq, UInt32.le_iff_toNat_le] at hdigit
    simp only [hletter, Bool.or_eq_false_iff, Bool.and_eq_false_iff, decide_eq_false_iff_not,
      UInt32.le_iff_toNat_le]
    omega
  simp only [isMute, isQuote, hne '\'' rfl, hne '"' rfl, hne '\x60' rfl, hne '(' rfl, hne ')' rfl,
    halpha, decide_false, Bool.or_self, Bool.not_false, ne_eq, not_false_eq_true, decide_true,
    Bool.and_self]

theorem IsMute.of_isNumeral (h : IsNumeral sql) : IsMute sql := by
  intro c hc
  obtain hdigit | rfl | rfl := h c hc
  · exact isMute_of_isDigit hdigit
  · rfl
  · rfl

variable {d : Dialect} (hd : d ∈ Registry.standard.dialects)

include hd

theorem isQuiet_boolLiteral (b : Bool) :
    IsQuiet backslashEscapes keywordPairs (d.boolLiteral b) := by
  have hapart : ∀ d ∈ Registry.standard.dialects, ∀ b, ∀ pair ∈ keywordPairs,
      Apart pair.1 pair.2 ((d.boolLiteral b).toList.map Char.toUpper) :=
    Registry.forall_mem_standard (by decide) (by decide) (by decide) (by decide)
  exact .of_isPlain (Registry.boolLiteral_isPlain d hd b) (hapart d hd b)

theorem isQuiet_literal {s : Scalar} (h : d.literal s = .ok sql) :
    IsQuiet d.capabilities.backslashEscapes keywordPairs sql := by
  have hwords : ∀ sql ∈ ["NULL", "X", "::bytea", "unhex"], IsPlain sql ∧
      ∀ pair ∈ keywordPairs, Apart pair.1 pair.2 (sql.toList.map Char.toUpper) := by decide
  refine Registry.literal_induction d hd (fun _ ↦ .of_isHidden) ?_ ?_ (isQuiet_boolLiteral hd) ?_
    (fun _ _ ↦ IsQuiet.additive.append) h
  · intro digits hdigits
    exact .parenthesized (.of_isTidy hdigits.isTidy)
  · intro number hnumber
    exact (IsMute.of_isNumeral hnumber).isQuiet
  · intro word hword
    obtain ⟨hplain, hapart⟩ := hwords word hword
    exact .of_isPlain hplain hapart

/-- What stands for a value has no keyword, whether it is its literal or a mark. -/
theorem isQuiet_gapText (inlining : Bool) (held : Nat) (s : Scalar) :
    IsQuiet d.capabilities.backslashEscapes keywordPairs (d.gapText inlining held s) := by
  cases inlining with
  | true =>
    show IsQuiet _ _ (d.inlineText held s)
    unfold Dialect.inlineText
    split
    · next h => exact isQuiet_literal hd h
    · exact IsQuiet.additive.empty
  | false =>
    show IsQuiet _ _ (d.placeholder _)
    unfold Dialect.placeholder
    apply IsMute.isQuiet
    cases d.placeholderStyle with
    | mark => exact (by decide : IsMute "?")
    | numbered => exact IsMute.append (by decide : IsMute "$") (.of_isNumeral (.ofNat (held + 1)))

theorem isQuiet_quote (name : String) :
    IsQuiet d.capabilities.backslashEscapes keywordPairs (d.quote name) :=
  Registry.quote_induction d hd (fun _ ↦ .of_isHidden) (IsMute.isQuiet (by decide))
    (IsMute.isQuiet (by decide)) (fun _ _ ↦ IsQuiet.additive.append) name

end SqlRender.Surface
