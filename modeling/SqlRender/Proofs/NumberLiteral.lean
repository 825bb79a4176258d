import SqlRender.Dialect.Literal
import SqlRender.Proofs.PlainNumber

/-!
Number literals. Main statement: every finite decimal is written in plain notation and exactly, a
finite float is written as the decimal that is read from its text, and what is not finite is
refused. The text of a float is either plain or has an exponent, so that reading it back comes down
to digits with a point among them and an exponent behind them.
-/

namespace SqlRender

open Digits

namespace Decimal

/-- The characters of which the texts of finite numbers are made. -/
def IsSpelled (cs : List Char) : Prop := ∀ c ∈ cs, c.isDigit = true ∨ c ∈ ['-', '+', '.', 'e']

theorem IsSpelled.append {xs ys : List Char} (hx : IsSpelled xs) (hy : IsSpelled ys) :
    IsSpelled (xs ++ ys) := List.forall_mem_append.mpr ⟨hx, hy⟩

theorem isSpelled_of_isDigits {cs : List Char} (h : IsDigits cs) : IsSpelled cs :=
  fun c hc ↦ .inl (h c hc)

theorem isSpelled_pointed {whole places : List Char} (hwhole : IsDigits whole)
    (hplaces : IsDigits places) : IsSpelled (pointed whole places) := by
  refine (isSpelled_of_isDigits hwhole).append ?_
  split
  · exact List.forall_mem_nil _
  · exact List.forall_mem_cons.mpr ⟨.inr (by decide), isSpelled_of_isDigits hplaces⟩

/-- Reading drops and replaces nothing of such a text. -/
theorem prepared_of_isSpelled {cs : List Char} (h : IsSpelled cs) :
    ((Text.trimmed Text.isBlank cs).filter (· ≠ '_')).map Text.asciiDigit = cs := by
  have hchar : ∀ c ∈ cs, Text.isBlank c = false ∧ c ≠ '_' ∧ Text.asciiDigit c = c := by
    intro c hc
    obtain hdigit | hother := h c hc
    · refine ⟨isBlank_of_isDigit hdigit, ?_, Text.asciiDigit_of_isDigit hdigit⟩
      rintro rfl
      cases hdigit
    · simp only [List.mem_cons, List.not_mem_nil, or_false] at hother
      obtain rfl | rfl | rfl | rfl := hother <;> decide
  have hdrop {ds : List Char} (hds : ∀ c ∈ ds, c ∈ cs) : ds.dropWhile Text.isBlank = ds := by
    cases ds with
    | nil => rfl
    | cons c ds =>
      have hc := (hchar c (hds c List.mem_cons_self)).1
      simp [hc]
  have htrimmed : Text.trimmed Text.isBlank cs = cs := by
    rw [Text.trimmed, hdrop fun _ hc ↦ hc, hdrop fun _ hc ↦ List.mem_reverse.mp hc,
      List.reverse_reverse]
  have hfilter : cs.filter (· ≠ '_') = cs :=
    List.filter_eq_self.mpr fun c hc ↦ decide_eq_true (hchar c hc).2.1
  rw [htrimmed, hfilter]
  exact (List.map_congr_left fun c hc ↦ (hchar c hc).2.2).trans (List.map_id cs)

theorem parse?_sign_append (negative : Bool) {cs : List Char} (h : IsSpelled cs) {c : Char}
    (hc : cs.head? = some c) (hdigit : c.isDigit = true) :
    parse? (sign negative ++ String.ofList cs) = unsigned? negative cs := by
  have hchars : (sign negative ++ String.ofList cs).toList =
      (if negative then ['-'] else []) ++ cs := by
    rw [String.toList_append, String.toList_ofList]
    cases negative <;> rfl
  have hsign : IsSpelled (if negative then ['-'] else []) := by
    cases negative with
    | false => exact List.forall_mem_nil _
    | true => exact List.forall_mem_singleton.mpr (.inr List.mem_cons_self)
  rw [parse?, hchars, prepared_of_isSpelled (hsign.append h)]
  cases negative with
  | true => rfl
  | false =>
    obtain ⟨rest, rfl⟩ := List.head?_eq_some_iff.mp hc
    have hminus : c ≠ '-' := by
      rintro rfl
      cases hdigit
    have hplus : c ≠ '+' := by
      rintro rfl
      cases hdigit
    simp only [Bool.false_eq_true, if_false, List.nil_append]
    split <;> simp_all

/-- Behind the digits the text ends, or an exponent follows. -/
theorem number?_pointed_append (negative : Bool) {whole places behind : List Char} {exponent : Int}
    (hwhole : IsDigits whole) (hne : whole ≠ []) (hplaces : IsDigits places)
    (hbehind : behind = [] ∧ exponent = 0 ∨
      ∃ cs, behind = 'e' :: cs ∧ int? cs = some exponent) :
    number? negative (pointed whole places ++ behind) =
      some (finite negative (value (whole ++ places)) (exponent - places.length)) := by
  have hdigit : ∀ c ∈ behind.head?, c.isDigit = false := by
    obtain ⟨rfl, -⟩ | ⟨cs, rfl, -⟩ := hbehind
    · exact nofun
    · intro c hc
      cases hc
      rfl
  have hspan : (pointed whole places ++ behind).span Char.isDigit =
      (whole, (if places = [] then [] else '.' :: places) ++ behind) := by
    rw [pointed, List.append_assoc]
    refine span_isDigit hwhole ?_
    split
    · exact hdigit
    · intro c hc
      cases hc
      rfl
  rw [number?, hspan]
  by_cases h : places = []
  · subst h
    obtain ⟨rfl, rfl⟩ | ⟨cs, rfl, hcs⟩ := hbehind
    · simp [hne]
    · have he : 'e'.toLower = 'e' := by decide
      simp [hne, he, hcs]
  · have hplacesSpan := span_isDigit hplaces hdigit
    obtain ⟨rfl, rfl⟩ | ⟨cs, rfl, hcs⟩ := hbehind
    · rw [List.append_nil] at hplacesSpan
      simp [-List.span_eq_takeWhile_dropWhile, h, hplacesSpan]
    · have he : 'e'.toLower = 'e' := by decide
      simp [-List.span_eq_takeWhile_dropWhile, h, hplacesSpan, he, hcs]

theorem parse?_plain (negative : Bool) (digits e : Nat) :
    parse? (plain negative digits (.negSucc e)) = some (finite negative digits (.negSucc e)) := by
  let n := PlainNumber.ofDecimal negative digits (.negSucc e)
  have hnegative : n.negative = negative := rfl
  have hlength : n.places.length = e + 1 := PlainNumber.length_places_negSucc negative digits e
  have hvalue : value (n.whole ++ n.places) = digits := by
    rw [value_append, hlength, PlainNumber.whole_ofDecimal_negSucc,
      PlainNumber.places_ofDecimal_negSucc, value_toString, value_padded]
    exact Nat.div_add_mod' digits (10 ^ (e + 1))
  obtain ⟨c, hc, hdigit⟩ := n.head?_pointed
  have hnumber := number?_pointed_append negative n.whole_isDigits n.whole_ne_nil n.places_isDigits
    (.inl ⟨rfl, rfl⟩)
  rw [List.append_nil, hvalue, hlength, Int.zero_sub] at hnumber
  rw [← PlainNumber.text_ofDecimal, PlainNumber.text,
    parse?_sign_append _ (isSpelled_pointed n.whole_isDigits n.places_isDigits) hc hdigit,
    unsigned?, hnegative, hnumber]
  rfl

theorem exists_mantissa (digits : Nat) : ∃ c cs, (toString digits).toList = c :: cs ∧
    mantissa digits = String.ofList (pointed [c] cs) := by
  obtain ⟨c, cs, hchars⟩ := List.exists_cons_of_ne_nil (toString_ne_nil digits)
  refine ⟨c, cs, hchars, ?_⟩
  rw [mantissa, hchars]
  cases cs with
  | nil => rfl
  | cons c' cs => rfl

theorem int?_sign_append (leading : Int) (width : Nat) :
    int? ((if leading < 0 then '-' else '+') :: (padded width leading.natAbs).toList) =
      some leading := by
  have hvalue : value? (padded width leading.natAbs).toList = some leading.natAbs := by
    have hne : (padded width leading.natAbs).toList ≠ [] := by
      rw [toList_padded]
      exact List.append_ne_nil_of_right_ne_nil _ (toString_ne_nil _)
    have hall := List.all_eq_true.mpr (isDigits_padded width leading.natAbs)
    rw [value?, List.isEmpty_eq_false_iff.mpr hne, hall, value_padded]
    rfl
  split
  · have habs : -(leading.natAbs : Int) = leading := by omega
    rw [int?, hvalue]
    exact congrArg some habs
  · have habs : (leading.natAbs : Int) = leading := by omega
    rw [int?, hvalue]
    exact congrArg some habs

/-- One digit, a point, the other digits and an exponent. -/
theorem parse?_scientific (negative : Bool) (digits : Nat) (exponent : Int) :
    let leading := leadingExponent digits exponent
    parse? (sign negative ++ mantissa digits ++ (if leading < 0 then "e-" else "e+")
      ++ padded 2 leading.natAbs) = some (finite negative digits exponent) := by
  intro leading
  obtain ⟨c, cs, hchars, hmantissa⟩ := exists_mantissa digits
  have hdigits : IsDigits (c :: cs) := by
    rw [← hchars]
    exact isDigits_toString digits
  obtain ⟨hc, hcs⟩ := List.forall_mem_cons.mp hdigits
  have hwhole : IsDigits [c] := List.forall_mem_singleton.mpr hc
  have hvalue : value ([c] ++ cs) = digits := by
    rw [List.singleton_append, ← hchars, value_toString]
  have hleading : leading - cs.length = exponent := by
    have hlength := congrArg List.length hchars
    rw [String.length_toList, List.length_cons] at hlength
    simp only [leading, leadingExponent, hlength]
    omega
  have hmark : (if leading < 0 then "e-" else "e+").toList =
      ['e', if leading < 0 then '-' else '+'] := by
    split <;> rfl
  have htext : sign negative ++ mantissa digits ++ (if leading < 0 then "e-" else "e+")
      ++ padded 2 leading.natAbs = sign negative ++ String.ofList (pointed [c] cs ++ 'e' ::
        (if leading < 0 then '-' else '+') :: (padded 2 leading.natAbs).toList) := by
    apply String.toList_injective
    simp only [String.toList_append, String.toList_ofList, hmantissa, hmark, List.append_assoc,
      List.cons_append, List.nil_append]
  have hspelled : IsSpelled (pointed [c] cs ++ 'e' ::
      (if leading < 0 then '-' else '+') :: (padded 2 leading.natAbs).toList) := by
    refine (isSpelled_pointed hwhole hcs).append (List.forall_mem_cons.mpr ⟨.inr (by decide), ?_⟩)
    refine List.forall_mem_cons.mpr ⟨.inr ?_, isSpelled_of_isDigits (isDigits_padded _ _)⟩
    split <;> decide
  have hnumber := number?_pointed_append negative hwhole (List.cons_ne_nil _ _) hcs
    (.inr ⟨_, rfl, int?_sign_append leading 2⟩)
  rw [hvalue, hleading] at hnumber
  rw [htext, parse?_sign_append negative hspelled rfl hc, unsigned?, hnumber]
  rfl

end Decimal

namespace Binary64

variable (negative : Bool) (significand : Nat) (exponent : Int)

/-- Where no exponent is written at least one place is. -/
theorem exists_toDecimal : ∃ digits e,
    toDecimal (.finite negative significand exponent) = .finite negative digits e ∧
      (isPositional digits e = true → e < 0) := by
  rw [toDecimal]
  obtain ⟨n, e⟩ := shortest significand exponent
  by_cases h : isPositional n e = true ∧ 0 ≤ e
  · refine ⟨_, -1, if_pos h, fun _ ↦ by decide⟩
  · refine ⟨n, e, if_neg h, fun hpositional ↦ ?_⟩
    exact Int.not_le.mp fun hle ↦ h ⟨hpositional, hle⟩

/-- The text of a finite number is read back as the decimal that is written for it. -/
theorem parse?_toText : Decimal.parse? (toText (.finite negative significand exponent)) =
    some (toDecimal (.finite negative significand exponent)) := by
  obtain ⟨digits, e, hdecimal, hplaces⟩ := exists_toDecimal negative significand exponent
  rw [toText, hdecimal]
  by_cases h : isPositional digits e = true
  · simp only [if_pos h]
    cases e with
    | ofNat e => exact absurd (hplaces h) (Int.not_lt.mpr (Int.natCast_nonneg e))
    | negSucc e => exact Decimal.parse?_plain negative digits e
  · simp only [if_neg h]
    exact Decimal.parse?_scientific negative digits e

end Binary64

namespace Dialect

variable (d : Dialect)

/-- A finite decimal has just one text, in plain notation and of the same sign and value; a finite
float has the text of the decimal that its own text denotes; what is not finite is refused. -/
theorem literal_number_exact :
    (∀ negative digits exponent, ∃ n : PlainNumber,
      (∀ n' : PlainNumber,
        d.literal (.decimal (.finite negative digits exponent)) = .ok n'.text ↔ n' = n) ∧
      n.Shows negative digits exponent) ∧
    (∀ negative significand exponent, ∃ digits e,
      Decimal.parse? (Binary64.toText (.finite negative significand exponent)) =
        some (.finite negative digits e) ∧
      d.literal (.float (.finite negative significand exponent)) =
        d.literal (.decimal (.finite negative digits e))) ∧
    (∀ x : Decimal, ¬x.IsFinite ↔
      ∃ e, d.literal (.decimal x) = .error e ∧ e.code? = some "escape_error") ∧
    (∀ x : Binary64, ¬x.IsFinite ↔
      ∃ e, d.literal (.float x) = .error e ∧ e.code? = some "escape_error") := by
  refine ⟨?_, ?_, ?_, ?_⟩
  · intro negative digits exponent
    refine ⟨.ofDecimal negative digits exponent, ?_, PlainNumber.shows_ofDecimal _ _ _⟩
    intro n'
    rw [literal, decimalLiteral, ← PlainNumber.text_ofDecimal]
    constructor
    · intro h
      exact (PlainNumber.text_injective (Except.ok.inj h)).symm
    · rintro rfl
      rfl
  · intro negative significand exponent
    obtain ⟨digits, e, hdecimal, -⟩ :=
      Binary64.exists_toDecimal negative significand exponent
    refine ⟨digits, e, ?_, ?_⟩
    · rw [Binary64.parse?_toText, hdecimal]
    · rw [literal, floatLiteral, hdecimal, literal]
  · intro x
    cases x <;> simp [Decimal.IsFinite, literal, decimalLiteral, Error.code?]
  · intro x
    cases x with
    | finite negative significand exponent =>
      obtain ⟨digits, e, hdecimal, -⟩ :=
        Binary64.exists_toDecimal negative significand exponent
      simp [Binary64.IsFinite, literal, floatLiteral, hdecimal, decimalLiteral]
    | _ => simp [Binary64.IsFinite, literal, floatLiteral, Error.code?]

end Dialect

end SqlRender
