import SqlRender.Proofs.Draft.Filled
import SqlRender.Proofs.Registered
import SqlRender.Proofs.Tidy

namespace SqlRender

open Template

variable {backslashEscapes : Bool}

theorem Digits.isPlain_padded (width n : Nat) : IsPlain (padded width n) := by
  have hzeros : IsPlain (String.ofList (List.replicate (width - (toString n).length) '0')) := by
    intro c hc
    rw [String.toList_ofList] at hc
    rw [List.eq_of_mem_replicate hc]
    rfl
  exact hzeros.append (isPlain_toString n)

theorem Digits.isPlain_hexBytes (bytes : List UInt8) : IsPlain (hexBytes bytes) := by
  have hdigit (n : Nat) : Template.isPlain (hexDigit n) = true := by
    have hall : ∀ k < 16, Template.isPlain (Nat.digitChar k) = true := by decide
    exact hall _ (Nat.mod_lt n (by decide))
  have hpadded (width n : Nat) : ∀ c ∈ hexPadded width n, Template.isPlain c = true := by
    induction width generalizing n with
    | zero => exact fun c hc ↦ absurd hc List.not_mem_nil
    | succ width ih =>
      rw [hexPadded, List.forall_mem_append, List.forall_mem_singleton]
      exact ⟨ih (n / 16), hdigit n⟩
  intro c hc
  rw [hexBytes, String.toList_ofList, List.mem_flatMap] at hc
  obtain ⟨b, -, hc⟩ := hc
  exact hpadded 2 b.toNat c hc

theorem Date.isCalm_monthDay (t : Date) : IsCalm backslashEscapes t.monthDay := by
  have hdash : IsCalm backslashEscapes "-" := isCalm_of_not_mem (by decide) (.inr (by decide))
  exact ((Digits.isPlain_padded 2 t.month).isCalm.append hdash).append
    (Digits.isPlain_padded 2 t.day).isCalm

theorem Clock.isPlain_wholeSeconds (t : Clock) : IsPlain t.wholeSeconds := by
  have hcolon : IsPlain ":" := by decide
  exact ((((Digits.isPlain_padded 2 t.hour).append hcolon).append
    (Digits.isPlain_padded 2 t.minute)).append hcolon).append (Digits.isPlain_padded 2 t.second)

theorem Clock.isPlain_toMicroseconds (t : Clock) : IsPlain t.toMicroseconds :=
  (t.isPlain_wholeSeconds.append (by decide)).append (Digits.isPlain_padded 6 t.microsecond)

theorem UtcOffset.isCalm_text (o : UtcOffset) : IsCalm backslashEscapes o.text := by
  have hsign : IsCalm backslashEscapes (if o.microseconds < 0 then "-" else "+") := by
    split
    · exact isCalm_of_not_mem (by decide) (.inr (by decide))
    · exact isCalm_of_not_mem (by decide) (.inr (by decide))
  have hoptional (p : Prop) [Decidable p] (mark : String) (hmark : IsPlain mark) (width n : Nat) :
      IsPlain (if p then "" else mark ++ Digits.padded width n) := by
    split
    · decide
    · exact hmark.append (Digits.isPlain_padded width n)
  have hcolon : IsCalm backslashEscapes ":" := isCalm_of_not_mem (by decide) (.inr (by decide))
  exact ((((hsign.append (Digits.isPlain_padded 2 _).isCalm).append hcolon).append
    (Digits.isPlain_padded 2 _).isCalm).append (hoptional _ ":" (by decide) 2 _).isCalm).append
      (hoptional _ "." (by decide) 6 _).isCalm

theorem Decimal.isTidy_sign_append (negative : Bool) {sql : String} (h : IsPlain sql)
    (hne : sql ≠ "") : IsTidy backslashEscapes 0 (sign negative ++ sql) := by
  cases negative with
  | false =>
    rw [sign, if_neg Bool.false_ne_true, String.empty_append]
    exact h.isTidy
  | true =>
    have hchars : ("-" ++ sql).toList = '-' :: sql.toList := String.toList_append
    have hquote : ("-" ++ sql).toList.any isQuote = false := by
      rw [hchars, List.any_cons, h.any_isQuote]
      rfl
    obtain ⟨hclosed, hunquoted⟩ := isClosed_of_no_quote backslashEscapes _ hquote
    rw [hchars] at hunquoted
    have hnot {c : Char} (hdash : c ≠ '-') (hc : Template.isPlain c = false) :
        c ∉ '-' :: sql.toList := by
      rw [List.mem_cons, not_or]
      exact ⟨hdash, h.not_mem hc⟩
    rw [sign, if_pos rfl]
    refine ⟨hclosed, ?_, ?_, ?_, ?_, ?_⟩
    · rw [Template.markers, hunquoted]
      exact List.count_eq_zero.mpr (hnot (by decide) (by decide))
    · rw [hunquoted]
      exact foldlM_openStep_of_not_mem (hnot (by decide) (by decide)) (hnot (by decide) (by decide))
    · rw [hunquoted]
      exact hnot (by decide) (by decide)
    · rw [hunquoted]
      exact hnot (by decide) (by decide)
    · have hdash : '-' ∉ sql.toList := h.not_mem (by decide)
      rw [hunquoted]
      cases hsql : sql.toList with
      | nil => exact absurd (String.toList_eq_nil_iff.mp hsql) hne
      | cons c cs =>
        rw [hsql] at hdash
        rw [List.mem_cons, not_or] at hdash
        exact ⟨fun _ ↦ Ne.symm hdash.1, .of_not_mem (not_or.mpr hdash ∘ List.mem_cons.mp)⟩

theorem Decimal.isTidy_plain (negative : Bool) (digits : Nat) (exponent : Int) :
    IsTidy backslashEscapes 0 (plain negative digits exponent) := by
  cases exponent with
  | ofNat e => exact isTidy_sign_append negative (isPlain_toString _) Nat.repr_ne_empty
  | negSucc e =>
    rw [plain]
    simp only [String.append_assoc]
    refine isTidy_sign_append negative
      ((isPlain_toString _).append (IsPlain.append (by decide) (Digits.isPlain_padded _ _))) ?_
    exact fun h ↦ Nat.repr_ne_empty (String.append_eq_empty_iff.mp h).1

theorem Decimal.isTidy_int (n : Int) : IsTidy backslashEscapes 0 (toString n) := by
  cases n with
  | ofNat n => exact isTidy_sign_append false (isPlain_toString n) Nat.repr_ne_empty
  | negSucc n => exact isTidy_sign_append true (isPlain_toString (n + 1)) Nat.repr_ne_empty

/-- Only digits, dashes and dots. -/
def IsNumeral (sql : String) : Prop := ∀ c ∈ sql.toList, c.isDigit = true ∨ c = '-' ∨ c = '.'

namespace IsNumeral

theorem append {xs ys : String} (hx : IsNumeral xs) (hy : IsNumeral ys) : IsNumeral (xs ++ ys) := by
  rw [IsNumeral, String.toList_append, List.forall_mem_append]
  exact ⟨hx, hy⟩

theorem ofNat (n : Nat) : IsNumeral (toString n) := by
  intro c hc
  rw [Nat.toString_eq_repr, Nat.toList_repr] at hc
  exact .inl (Nat.isDigit_of_mem_toDigits (by decide) (by decide) hc)

theorem sign (negative : Bool) : IsNumeral (Decimal.sign negative) := by
  cases negative with
  | false => exact nofun
  | true =>
    intro c hc
    exact .inr (.inl (List.mem_singleton.mp hc))

theorem padded (width n : Nat) : IsNumeral (Digits.padded width n) := by
  refine append ?_ (ofNat n)
  intro c hc
  rw [String.toList_ofList] at hc
  rw [List.eq_of_mem_replicate hc]
  exact .inl rfl

theorem plain (negative : Bool) (digits : Nat) (exponent : Int) :
    IsNumeral (Decimal.plain negative digits exponent) := by
  have hdot : IsNumeral "." := fun c hc ↦ .inr (.inr (List.mem_singleton.mp hc))
  cases exponent with
  | ofNat e => exact (sign negative).append (ofNat _)
  | negSucc e => exact (((sign negative).append (ofNat _)).append hdot).append (padded _ _)

theorem ofInt (n : Int) : IsNumeral (toString n) := by
  cases n with
  | ofNat n => exact ofNat n
  | negSucc n => exact append (sign true) (ofNat (n + 1))

end IsNumeral

namespace Dialect

variable (d : Dialect)

theorem isAbsorbed_escapeChar
    (hescapes : ∀ e ∈ d.stringEscapes, IsAbsorbed backslashEscapes '\'' e.2.toList)
    (hquote : (d.stringEscapes.lookup '\'').isSome = true)
    (hslash : backslashEscapes = false ∨ (d.stringEscapes.lookup '\\').isSome = true) (c : Char) :
    IsAbsorbed backslashEscapes '\'' (d.escapeChar c) := by
  unfold escapeChar
  split
  · next sql h =>
    obtain ⟨before, behind, heq, -⟩ := List.lookup_eq_some_iff.mp h
    exact hescapes (c, sql) (heq ▸ List.mem_append_right before List.mem_cons_self)
  · next h =>
    refine isAbsorbed_char ?_ (hslash.imp_right fun hsome ↦ .inl ?_)
    · rintro rfl
      rw [h] at hquote
      cases hquote
    · rintro rfl
      rw [h] at hsome
      cases hsome

end Dialect

namespace Registry

/-- The escapes of a registered dialect keep a scan inside the quotes of a string literal. -/
theorem isAbsorbed_escapeChar :
    ∀ d ∈ standard.dialects, ∀ c,
      IsAbsorbed d.capabilities.backslashEscapes '\'' (d.escapeChar c) :=
  forall_mem_standard
    (Dialect.isAbsorbed_escapeChar _ (by decide) (by decide) (by decide))
    (Dialect.isAbsorbed_escapeChar _ (by decide) (by decide) (by decide))
    (Dialect.isAbsorbed_escapeChar _ (by decide) (by decide) (by decide))
    (Dialect.isAbsorbed_escapeChar _ (by decide) (by decide) (by decide))

theorem isHidden_stringLiteral (d : Dialect) (hd : d ∈ standard.dialects) {s sql : String}
    (h : d.stringLiteral s = .ok sql) : IsHidden d.capabilities.backslashEscapes sql := by
  unfold Dialect.stringLiteral at h
  split at h
  · cases h
  · cases h
    have habsorbed := IsAbsorbed.flatMap (isAbsorbed_escapeChar d hd) s.toList
    exact isHidden_of_isAbsorbed rfl habsorbed String.toList_ofList

/-- The digits of bytes stand in quotes. -/
theorem bytesLiteral_eq (data : List UInt8) :
    ∀ d ∈ standard.dialects, ∃ digits, IsHidden d.capabilities.backslashEscapes digits ∧
      (d.bytesLiteral data = "X" ++ digits ∨ d.bytesLiteral data = digits ++ "::bytea" ∨
        d.bytesLiteral data = "unhex" ++ ("(" ++ digits ++ ")")) := by
  have hhex := Digits.isPlain_hexBytes data
  have hopen : "X'" = "X" ++ "'" := by decide
  refine forall_mem_standard ?_ ?_ ?_ ?_
  · have hopen : "unhex('" = "unhex" ++ "(" ++ "'" := by decide
    have hclose : "')" = "'" ++ ")" := by decide
    refine ⟨_, hhex.isCalm.isHidden, .inr (.inr ?_)⟩
    show "unhex('" ++ Digits.hexBytes data ++ "')" = _
    rw [hopen, hclose]
    simp only [String.append_assoc]
  · refine ⟨_, hhex.isCalm.isHidden, .inl ?_⟩
    show "X'" ++ Digits.hexBytes data ++ "'" = _
    rw [hopen]
    simp only [String.append_assoc]
  · have hopen : "'\\x" = "'" ++ "\\x" := by decide
    have hclose : "'::bytea" = "'" ++ "::bytea" := by decide
    have hcalm : IsCalm false ("\\x" ++ Digits.hexBytes data) :=
      IsCalm.append (isCalm_of_not_mem (by decide) (.inl rfl)) hhex.isCalm
    refine ⟨_, hcalm.isHidden, .inr (.inl ?_)⟩
    show "'\\x" ++ Digits.hexBytes data ++ "'::bytea" = _
    rw [hopen, hclose]
    simp only [String.append_assoc]
  · refine ⟨_, hhex.isCalm.isHidden, .inl ?_⟩
    show "X'" ++ Digits.hexBytes data ++ "'" = _
    rw [hopen]
    simp only [String.append_assoc]

theorem isTidy_bytesLiteral (data : List UInt8) (d : Dialect) (hd : d ∈ standard.dialects) :
    IsTidy d.capabilities.backslashEscapes 0 (d.bytesLiteral data) := by
  obtain ⟨digits, hdigits, heq | heq | heq⟩ := bytesLiteral_eq data d hd
  · have hx : IsTidy d.capabilities.backslashEscapes 0 "X" := IsPlain.isTidy (by decide)
    rw [heq]
    exact hx.append hdigits.isTidy
  · have hcast : IsTidy d.capabilities.backslashEscapes 0 "::bytea" := IsPlain.isTidy (by decide)
    rw [heq]
    exact hdigits.isTidy.append hcast
  · have hunhex : IsTidy d.capabilities.backslashEscapes 0 "unhex" := IsPlain.isTidy (by decide)
    rw [heq]
    exact hunhex.append hdigits.isTidy.parenthesized

theorem isTidy_decimalLiteral {x : Decimal} {sql : String}
    (h : Dialect.decimalLiteral x = .ok sql) : IsTidy backslashEscapes 0 sql := by
  cases x with
  | finite negative digits exponent =>
    cases h
    exact Decimal.isTidy_plain negative digits exponent
  | _ => cases h

theorem isHidden_datetimeLiteral {d : Dialect} {t : DateTime} {sql : String}
    (h : d.datetimeLiteral t = .ok sql) : IsHidden backslashEscapes sql := by
  unfold Dialect.datetimeLiteral at h
  split at h
  · next t' _ =>
    cases h
    have hclock : IsPlain (if d.fractionalSeconds then t'.clock.toMicroseconds
        else t'.clock.wholeSeconds) := by
      split
      · exact t'.clock.isPlain_toMicroseconds
      · exact t'.clock.isPlain_wholeSeconds
    have hdate : IsCalm backslashEscapes t'.date.isoShortYear :=
      ((isPlain_toString _).isCalm.append (isCalm_of_not_mem (by decide) (.inr (by decide)))).append
        t'.date.isCalm_monthDay
    have hblank : IsCalm backslashEscapes " " := isCalm_of_not_mem (by decide) (.inr (by decide))
    have hsql := ((hdate.append hblank).append hclock.isCalm).isHidden
    simpa only [String.append_assoc] using hsql
  · cases h

theorem isHidden_dateLiteral (t : Date) :
    IsHidden backslashEscapes (Dialect.dateLiteral t) := by
  have hcalm : IsCalm backslashEscapes t.iso :=
    ((Digits.isPlain_padded 4 t.year).isCalm.append
      (isCalm_of_not_mem (by decide) (.inr (by decide)))).append t.isCalm_monthDay
  exact hcalm.isHidden

theorem isHidden_timeLiteral (t : TimeOfDay) :
    IsHidden backslashEscapes (Dialect.timeLiteral t) := by
  have hoffset : IsCalm backslashEscapes ((t.offset.map UtcOffset.text).getD "") := by
    cases t.offset with
    | none => exact isCalm_of_not_mem (by decide) (.inr (by decide))
    | some o => exact o.isCalm_text
  have hsql := (t.clock.isPlain_toMicroseconds.isCalm.append hoffset).isHidden
  rw [Dialect.timeLiteral]
  simpa only [String.append_assoc] using hsql

/-- Outside its quotes no literal of a registered dialect has any structure. -/
theorem isTidy_literal (d : Dialect) (hd : d ∈ standard.dialects) {s : Scalar} {sql : String}
    (h : d.literal s = .ok sql) : IsTidy d.capabilities.backslashEscapes 0 sql := by
  cases s with
  | null =>
    cases h
    exact IsPlain.isTidy (by decide)
  | bool b =>
    cases h
    exact (boolLiteral_isPlain d hd b).isTidy
  | int n =>
    obtain ⟨-, rfl⟩ := Dialect.intLiteral_eq_ok_iff.mp h
    exact Decimal.isTidy_int n
  | float x =>
    cases x with
    | finite negative significand exponent => exact isTidy_decimalLiteral h
    | _ => cases h
  | decimal x => exact isTidy_decimalLiteral h
  | text s => exact (isHidden_stringLiteral d hd h).isTidy
  | bytes kind data =>
    cases h
    exact isTidy_bytesLiteral data d hd
  | datetime t => exact (isHidden_datetimeLiteral h).isTidy
  | date t =>
    cases h
    exact (isHidden_dateLiteral t).isTidy
  | time t =>
    cases h
    exact (isHidden_timeLiteral t).isTidy

/-- A literal of a registered dialect is a number, a word or a quoted text, or a few of these. -/
theorem literal_induction {P : String → Prop} (d : Dialect) (hd : d ∈ standard.dialects)
    (hidden : ∀ sql, IsHidden d.capabilities.backslashEscapes sql → P sql)
    (parenthesized : ∀ sql, IsHidden d.capabilities.backslashEscapes sql → P ("(" ++ sql ++ ")"))
    (numeral : ∀ sql, IsNumeral sql → P sql) (bool : ∀ b, P (d.boolLiteral b))
    (word : ∀ sql ∈ ["NULL", "X", "::bytea", "unhex"], P sql)
    (happend : ∀ xs ys, P xs → P ys → P (xs ++ ys)) {s : Scalar} {sql : String}
    (h : d.literal s = .ok sql) : P sql := by
  have hdecimal {x : Decimal} (h : Dialect.decimalLiteral x = .ok sql) : P sql := by
    cases x with
    | finite negative digits exponent =>
      cases h
      exact numeral _ (.plain negative digits exponent)
    | _ => cases h
  cases s with
  | null =>
    cases h
    exact word "NULL" (by decide)
  | bool b =>
    cases h
    exact bool b
  | int n =>
    obtain ⟨-, rfl⟩ := Dialect.intLiteral_eq_ok_iff.mp h
    exact numeral _ (.ofInt n)
  | float x =>
    cases x with
    | finite negative significand exponent => exact hdecimal h
    | _ => cases h
  | decimal x => exact hdecimal h
  | text s => exact hidden _ (isHidden_stringLiteral d hd h)
  | bytes kind data =>
    cases h
    obtain ⟨digits, hdigits, heq | heq | heq⟩ := bytesLiteral_eq data d hd
    · rw [heq]
      exact happend _ _ (word "X" (by decide)) (hidden _ hdigits)
    · rw [heq]
      exact happend _ _ (hidden _ hdigits) (word "::bytea" (by decide))
    · rw [heq]
      exact happend _ _ (word "unhex" (by decide)) (parenthesized _ hdigits)
  | datetime t => exact hidden _ (isHidden_datetimeLiteral h)
  | date t =>
    cases h
    exact hidden _ (isHidden_dateLiteral t)
  | time t =>
    cases h
    exact hidden _ (isHidden_timeLiteral t)

variable {d : Dialect} (hd : d ∈ standard.dialects)

include hd

theorem isTidy_inlineText (held : Nat) (s : Scalar) :
    IsTidy d.capabilities.backslashEscapes 0 (d.inlineText held s) := by
  unfold Dialect.inlineText
  split
  · next h => exact isTidy_literal d hd h
  · exact IsPlain.isTidy (by decide)

theorem isHidden_inlineText (held : Nat) (s : String) :
    IsHidden d.capabilities.backslashEscapes (d.inlineText held (.text s)) := by
  unfold Dialect.inlineText
  split
  · next h => exact isHidden_stringLiteral d hd h
  · exact ⟨rfl, rfl⟩

omit hd

theorem identifierQuotes_eq :
    ∀ d ∈ standard.dialects, ∃ quote, isQuote quote = true ∧
      d.identifierQuotes.1.toList = [quote] ∧ d.identifierQuotes.2.toList = [quote] ∧
        (d.capabilities.backslashEscapes = false ∨ quote = '\x60') :=
  forall_mem_standard ⟨'\x60', by decide⟩ ⟨'\x60', by decide⟩ ⟨'"', by decide⟩ ⟨'"', by decide⟩

theorem quotePart_eq (d : Dialect) (hd : d ∈ standard.dialects) (part : List Char) :
    d.quotePart part = ['*'] ∨
      IsHidden d.capabilities.backslashEscapes (String.ofList (d.quotePart part)) ∧
        ∃ quote cs, isQuote quote = true ∧ d.quotePart part = quote :: cs := by
  obtain ⟨quote, hquote, hopen, hclose, hescape⟩ := identifierQuotes_eq d hd
  rw [Dialect.quotePart, hopen, hclose]
  split
  · next hstar => exact .inl hstar
  · have habsorbed := isAbsorbed_doubled_part hquote hescape part
    exact .inr ⟨isHidden_of_isAbsorbed hquote habsorbed String.toList_ofList, quote, _, hquote, rfl⟩

/-- Outside its quotes a name has only dots and stars. -/
theorem quote_induction {P : String → Prop} (d : Dialect) (hd : d ∈ standard.dialects)
    (hidden : ∀ sql, IsHidden d.capabilities.backslashEscapes sql → P sql) (hstar : P "*")
    (hdot : P ".") (happend : ∀ xs ys, P xs → P ys → P (xs ++ ys)) (name : String) :
    P (d.quote name) := by
  have hpart (part : List Char) : P (String.ofList (d.quotePart part)) := by
    obtain hpart | ⟨hpart, -⟩ := quotePart_eq d hd part
    · rw [hpart]
      exact hstar
    · exact hidden _ hpart
  rw [Dialect.quote]
  induction Text.pieces '.' name.toList with
  | nil => exact hidden _ ⟨rfl, rfl⟩
  | cons part rest ih =>
    cases rest with
    | nil =>
      rw [List.map_cons, List.map_nil, List.intercalate_singleton]
      exact hpart part
    | cons part' rest =>
      rw [List.map_cons, List.map_cons, List.intercalate_cons_cons, String.ofList_append,
        String.ofList_append]
      exact happend _ _ (happend _ _ (hpart part) hdot) ih

theorem isTidy_quote (d : Dialect) (hd : d ∈ standard.dialects) (name : String) :
    IsTidy d.capabilities.backslashEscapes 0 (d.quote name) :=
  quote_induction d hd (fun _ h ↦ h.isTidy) (IsPlain.isTidy (by decide))
    (IsPlain.isTidy (by decide)) (fun _ _ hx hy ↦ hx.append hy) name

theorem pieces_ne_nil (sep : Char) (cs : List Char) : Text.pieces sep cs ≠ [] := by
  cases cs with
  | nil => exact List.cons_ne_nil _ _
  | cons c cs =>
    rw [Text.pieces]
    split
    · exact List.cons_ne_nil _ _
    · split
      · exact List.cons_ne_nil _ _
      · exact List.cons_ne_nil _ _

/-- A name begins with a quote or a star. -/
theorem toList_quote (d : Dialect) (hd : d ∈ standard.dialects) (name : String) :
    ∃ c cs, (d.quote name).toList = c :: cs ∧ (isQuote c = true ∨ c = '*') := by
  have hpart (part : List Char) (behind : List Char) :
      ∃ c cs, d.quotePart part ++ behind = c :: cs ∧ (isQuote c = true ∨ c = '*') := by
    obtain hpart | ⟨-, quote, cs, hquote, hpart⟩ := quotePart_eq d hd part
    · exact ⟨'*', behind, by rw [hpart]; rfl, .inr rfl⟩
    · exact ⟨quote, cs ++ behind, by rw [hpart]; rfl, .inl hquote⟩
  rw [Dialect.quote, String.toList_ofList]
  cases hpieces : Text.pieces '.' name.toList with
  | nil => exact absurd hpieces (pieces_ne_nil _ _)
  | cons part rest =>
    cases rest with
    | nil =>
      rw [List.map_cons, List.map_nil, List.intercalate_singleton]
      have h := hpart part []
      rwa [List.append_nil] at h
    | cons part' rest =>
      rw [List.map_cons, List.map_cons, List.intercalate_cons_cons, List.append_assoc]
      exact hpart part _

end Registry

end SqlRender
