import SqlRender.Proofs.Surface.Quiet

namespace SqlRender.Surface

/-- Outside quotes and parentheses the text has only characters of a class. -/
structure IsBareOf (backslashEscapes : Bool) (p : Char → Bool) (sql : String) : Prop where
  level : IsLevel backslashEscapes sql
  bare : ∀ c ∈ bare backslashEscapes sql, p c = true

variable {backslashEscapes : Bool} {p : Char → Bool} {sql : String}

theorem bare_of_next (h : ∀ c ∈ sql.toList, Place.next backslashEscapes {} c = {}) :
    IsLevel backslashEscapes sql ∧ bare backslashEscapes sql = sql.toList := by
  rw [IsLevel, bare]
  generalize sql.toList = chars at h
  induction chars with
  | nil => exact ⟨rfl, rfl⟩
  | cons c cs ih =>
    obtain ⟨hc, hcs⟩ := List.forall_mem_cons.mp h
    obtain ⟨hlevel, hbare⟩ := ih hcs
    rw [Place.after_cons, hc, Place.bare_of_top backslashEscapes hc, hbare]
    exact ⟨hlevel, rfl⟩

theorem next_of_toUpper {c : Char} (h : c.toUpper ∉ ['\'', '"', '\x60', '(', ')']) :
    Place.next backslashEscapes {} c = {} := by
  have hne (c' : Char) (hc : c'.toUpper ∈ ['\'', '"', '\x60', '(', ')']) : c ≠ c' := by
    rintro rfl
    exact h hc
  apply Place.next_of_not_special
  · simp [Template.isQuote, hne '\'' (by decide), hne '"' (by decide), hne '\x60' (by decide)]
  · exact hne '(' (by decide)
  · exact hne ')' (by decide)

namespace IsBareOf

theorem additive : Draft.Additive (IsBareOf backslashEscapes p) where
  empty := ⟨rfl, nofun⟩
  append hx hy := by
    refine ⟨hx.level.append hy.level, ?_⟩
    rw [bare_append hx.level, List.forall_mem_append]
    exact ⟨hx.bare, hy.bare⟩

theorem of_isHidden (h : Template.IsHidden backslashEscapes sql) :
    IsBareOf backslashEscapes p sql := by
  obtain ⟨hlevel, hbare⟩ := bare_eq_unquoted h.1 (h.2 ▸ List.not_mem_nil)
    (h.2 ▸ List.not_mem_nil)
  refine ⟨hlevel, ?_⟩
  rw [hbare, h.2]
  exact nofun

theorem parenthesized (h : IsNested backslashEscapes sql) :
    IsBareOf backslashEscapes p ("(" ++ sql ++ ")") := by
  refine ⟨h.isLevel_parenthesized, ?_⟩
  rw [h.bare_parenthesized]
  exact nofun

theorem of_forall (h : ∀ c ∈ sql.toList, Place.next backslashEscapes {} c = {} ∧ p c = true) :
    IsBareOf backslashEscapes p sql := by
  obtain ⟨hlevel, hbare⟩ := bare_of_next fun c hc ↦ (h c hc).1
  refine ⟨hlevel, ?_⟩
  rw [hbare]
  exact fun c hc ↦ (h c hc).2

theorem of_char {c : Char} (hsql : sql.toList = [c])
    (hc : c.toUpper ∉ ['\'', '"', '\x60', '(', ')']) (hp : p c = true) :
    IsBareOf backslashEscapes p sql := by
  apply of_forall
  rw [hsql, List.forall_mem_singleton]
  exact ⟨next_of_toUpper hc, hp⟩

end IsBareOf

variable {d : Dialect} (hd : d ∈ Registry.standard.dialects)

include hd

theorem isBareOf_quote (name : String) :
    IsBareOf d.capabilities.backslashEscapes (fun c ↦ c = '.' || c = '*') (d.quote name) := by
  apply Registry.quote_induction d hd
  · exact fun _ ↦ .of_isHidden
  · exact .of_char (c := '*') rfl (by decide) rfl
  · exact .of_char (c := '.') rfl (by decide) rfl
  · exact fun _ _ ↦ IsBareOf.additive.append

theorem isBareOf_literal {s : Scalar} (h : d.literal s = .ok sql) :
    IsBareOf d.capabilities.backslashEscapes (· ≠ ',') sql := by
  have hplain {word : String} (hword : Template.IsPlain word) (hcomma : ',' ∉ word.toList) :
      IsBareOf d.capabilities.backslashEscapes (· ≠ ',') word := by
    refine .of_forall fun c hc ↦ ⟨?_, decide_eq_true (ne_of_mem_of_not_mem hc hcomma)⟩
    apply Place.next_of_not_special
    · exact Template.isQuote_of_isPlain (hword c hc)
    · exact ne_of_mem_of_not_mem hc (hword.not_mem (by decide))
    · exact ne_of_mem_of_not_mem hc (hword.not_mem (by decide))
  apply Registry.literal_induction d hd (fun _ ↦ .of_isHidden)
  · intro digits hdigits
    exact .parenthesized (.of_isTidy hdigits.isTidy)
  · intro number hnumber
    refine .of_forall fun c hc ↦ ?_
    obtain hdigit | rfl | rfl := hnumber c hc
    · refine ⟨Place.next_of_isWordChar _ ?_, ?_⟩
      · simp [Sql.isWordChar, Char.isAlphanum, hdigit]
      · apply decide_eq_true
        rintro rfl
        cases hdigit
    · exact ⟨next_of_toUpper (by decide), rfl⟩
    · exact ⟨next_of_toUpper (by decide), rfl⟩
  · intro b
    have hcomma : ∀ d ∈ Registry.standard.dialects, ∀ b, ',' ∉ (d.boolLiteral b).toList :=
      Registry.forall_mem_standard (by decide) (by decide) (by decide) (by decide)
    exact hplain (Registry.boolLiteral_isPlain d hd b) (hcomma d hd b)
  · intro word hword
    have hwords : ∀ word ∈ ["NULL", "X", "::bytea", "unhex"],
        Template.IsPlain word ∧ ',' ∉ word.toList := by decide
    exact hplain (hwords word hword).1 (hwords word hword).2
  · exact fun _ _ ↦ IsBareOf.additive.append
  · exact h

theorem comma_not_mem_tokens {s : Scalar} (h : d.literal s = .ok sql) :
    [','] ∉ tokens d.capabilities.backslashEscapes sql := by
  intro hmem
  have hpart := infix_bare_of_mem_tokens hmem fun c hc ↦ by
    obtain rfl := List.mem_singleton.mp hc
    exact next_of_toUpper (by decide)
  have hbare := (isBareOf_literal hd h).bare ',' (hpart.subset List.mem_cons_self)
  cases hbare

end SqlRender.Surface
