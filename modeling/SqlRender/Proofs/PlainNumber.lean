import Mathlib.Algebra.Order.Field.Rat
import Mathlib.Tactic.FieldSimp
import Mathlib.Tactic.Ring
import SqlRender.Number.Decimal
import SqlRender.Proofs.Digits

/-!
Numbers in plain notation. Such a number is known from its text, and the plain text of a decimal is
the number that shows the decimal exactly: its sign, as many places as its exponent asks for, and
its value.
-/

namespace SqlRender

open Digits

/-- Digits, and a point in front of the places behind it where there are any. -/
def pointed (whole places : List Char) : List Char :=
  whole ++ (if places = [] then [] else '.' :: places)

theorem span_pointed {whole places : List Char} (h : IsDigits whole) :
    (pointed whole places).span Char.isDigit =
      (whole, if places = [] then [] else '.' :: places) := by
  refine span_isDigit h ?_
  split
  · exact nofun
  · intro c hc
    cases hc
    rfl

/-- A sign, whole digits without a zero in front of others, and places behind the point. -/
@[ext]
structure PlainNumber where
  negative : Bool
  whole : List Char
  places : List Char
  whole_isDigits : IsDigits whole
  whole_ne_nil : whole ≠ []
  eq_zero_of_head? : whole.head? = some '0' → whole = ['0']
  places_isDigits : IsDigits places

namespace PlainNumber

def text (n : PlainNumber) : String :=
  Decimal.sign n.negative ++ String.ofList (pointed n.whole n.places)

def value (n : PlainNumber) : ℚ :=
  (-1) ^ n.negative.toNat * (Digits.value n.whole + Digits.value n.places / 10 ^ n.places.length)

/-- The number has the sign and the value of the decimal, and no places but those that the exponent
asks for. -/
structure Shows (n : PlainNumber) (negative : Bool) (digits : Nat) (exponent : Int) : Prop where
  negative_eq : n.negative = negative
  length_places : n.places.length = (-exponent).toNat
  value_eq : n.value = (-1) ^ negative.toNat * digits * 10 ^ exponent

theorem head?_pointed (n : PlainNumber) : ∃ c, (pointed n.whole n.places).head? = some c ∧
    c.isDigit = true := by
  obtain ⟨c, cs, hwhole⟩ := List.exists_cons_of_ne_nil n.whole_ne_nil
  refine ⟨c, ?_, n.whole_isDigits c (hwhole ▸ List.mem_cons_self)⟩
  rw [pointed, hwhole]
  rfl

theorem text_injective {n n' : PlainNumber} (h : n.text = n'.text) : n = n' := by
  have hchars := congrArg String.toList h
  simp only [text, String.toList_append, String.toList_ofList] at hchars
  obtain ⟨c, hc, hdigit⟩ := n.head?_pointed
  obtain ⟨c', hc', hdigit'⟩ := n'.head?_pointed
  obtain ⟨hsign, hpointed⟩ : n.negative = n'.negative ∧
      pointed n.whole n.places = pointed n'.whole n'.places := by
    have hminus : (Decimal.sign true).toList = ['-'] := by decide
    have hnone : (Decimal.sign false).toList = [] := by decide
    cases hn : n.negative <;> cases hn' : n'.negative <;>
      rw [hn, hn'] at hchars <;>
      simp only [hminus, hnone, List.nil_append, List.singleton_append] at hchars
    · exact ⟨rfl, hchars⟩
    · rw [hchars] at hc
      cases hc
      cases hdigit
    · rw [← hchars] at hc'
      cases hc'
      cases hdigit'
    · exact ⟨rfl, (List.cons.inj hchars).2⟩
  have hspan := congrArg (List.span Char.isDigit) hpointed
  rw [span_pointed n.whole_isDigits, span_pointed n'.whole_isDigits, Prod.mk.injEq] at hspan
  refine PlainNumber.ext hsign hspan.1 ?_
  by_cases hn : n.places = [] <;> by_cases hn' : n'.places = [] <;> simp_all

/-- The plain notation of a decimal. -/
def ofDecimal (negative : Bool) (digits : Nat) : Int → PlainNumber
  | .ofNat e =>
    { negative
      whole := (toString (digits * 10 ^ e)).toList
      places := []
      whole_isDigits := isDigits_toString _
      whole_ne_nil := toString_ne_nil _
      eq_zero_of_head? := toString_of_head?_zero
      places_isDigits := List.forall_mem_nil _ }
  | .negSucc e =>
    { negative
      whole := (toString (digits / 10 ^ (e + 1))).toList
      places := (padded (e + 1) (digits % 10 ^ (e + 1))).toList
      whole_isDigits := isDigits_toString _
      whole_ne_nil := toString_ne_nil _
      eq_zero_of_head? := toString_of_head?_zero
      places_isDigits := isDigits_padded _ _ }

variable (negative : Bool) (digits : Nat) (exponent : Int)

theorem whole_ofDecimal_negSucc (e : Nat) : (ofDecimal negative digits (.negSucc e)).whole =
    (toString (digits / 10 ^ (e + 1))).toList := by rw [ofDecimal]

theorem places_ofDecimal_negSucc (e : Nat) : (ofDecimal negative digits (.negSucc e)).places =
    (padded (e + 1) (digits % 10 ^ (e + 1))).toList := by rw [ofDecimal]

theorem length_places_negSucc (e : Nat) :
    (ofDecimal negative digits (.negSucc e)).places.length = e + 1 := by
  rw [places_ofDecimal_negSucc]
  exact length_padded (Nat.succ_pos e) (Nat.mod_lt _ (Nat.pow_pos (by decide)))

theorem text_ofDecimal :
    (ofDecimal negative digits exponent).text = Decimal.plain negative digits exponent := by
  apply String.toList_injective
  cases exponent with
  | ofNat e => simp [text, ofDecimal, pointed, Decimal.plain]
  | negSucc e =>
    have hplaces : (ofDecimal negative digits (.negSucc e)).places ≠ [] := by
      apply List.ne_nil_of_length_pos
      rw [length_places_negSucc]
      exact Nat.succ_pos e
    rw [text, pointed, if_neg hplaces, whole_ofDecimal_negSucc, places_ofDecimal_negSucc]
    simp [ofDecimal, Decimal.plain]

theorem shows_ofDecimal :
    (ofDecimal negative digits exponent).Shows negative digits exponent := by
  cases exponent with
  | ofNat e =>
    refine ⟨rfl, ?_, ?_⟩
    · simp [ofDecimal]
    · have hplaces : Digits.value [] = 0 := rfl
      simp only [value, ofDecimal, value_toString, hplaces, Nat.cast_mul, Nat.cast_pow,
        Nat.cast_ofNat, Nat.cast_zero, zero_div, add_zero, Int.ofNat_eq_natCast, zpow_natCast,
        mul_assoc]
  | negSucc e =>
    have hlength := length_places_negSucc negative digits e
    refine ⟨rfl, hlength, ?_⟩
    have hscale : (10 : ℚ) ^ (e + 1) ≠ 0 := pow_ne_zero _ (by norm_num)
    have hsplit : ((digits / 10 ^ (e + 1) : ℕ) : ℚ) * 10 ^ (e + 1) +
        (digits % 10 ^ (e + 1) : ℕ) = digits := by
      exact_mod_cast Nat.div_add_mod' digits (10 ^ (e + 1))
    have hvalue : ((digits / 10 ^ (e + 1) : ℕ) : ℚ) +
        (digits % 10 ^ (e + 1) : ℕ) / 10 ^ (e + 1) = digits * (10 ^ (e + 1))⁻¹ := by
      rw [← hsplit]
      field_simp
    rw [value, hlength, whole_ofDecimal_negSucc, places_ofDecimal_negSucc, value_toString,
      value_padded, hvalue, zpow_negSucc, mul_assoc]
    rfl

end PlainNumber

end SqlRender
