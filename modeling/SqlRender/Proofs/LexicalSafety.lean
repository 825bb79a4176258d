import SqlRender.Proofs.Literal
import SqlRender.Proofs.ModeAgreement
import SqlRender.Proofs.Node.Relates

namespace SqlRender

open Template

variable {d : Dialect} (hd : d ∈ Registry.standard.dialects)

/-- The markers that one placeholder is scanned for. -/
def Dialect.markersEach (d : Dialect) : Nat :=
  match d.placeholderStyle with
  | .mark => 1
  | .numbered => 0

theorem Dialect.isTidy_mark (d : Dialect) {backslashEscapes : Bool} (held : Nat) (s : Scalar) :
    IsTidy backslashEscapes d.markersEach (d.mark held s) := by
  unfold mark placeholder markersEach
  cases d.placeholderStyle with
  | mark => exact isTidy_marker
  | numbered =>
    have hplain : IsPlain ("$" ++ toString (held + 1)) :=
      IsPlain.append (by decide) (isPlain_toString _)
    exact hplain.isTidy

theorem Registry.markersEach_eq :
    ∀ d ∈ standard.dialects, d.markersEach = if d = .postgres then 0 else 1 :=
  forall_mem_standard (by decide) (by decide) (by decide) (by decide)

include hd

theorem Registry.congruence_isTidy {f : Nat → Scalar → String} {each : Nat}
    (hf : ∀ held s, IsTidy d.capabilities.backslashEscapes each (f held s)) :
    Congruence d f f fun k sql _ ↦ IsTidy d.capabilities.backslashEscapes (k * each) sql where
  plain h := (Nat.zero_mul each).symm ▸ h.isTidy
  name s := (Nat.zero_mul each).symm ▸ isTidy_quote d hd s
  value held s := (Nat.one_mul each).symm ▸ hf held s
  append {k l _ _ _ _} h h' := (Nat.add_mul k l each).symm ▸ h.append h'
  parenthesized h := h.parenthesized

/-- Rendered text is tidy where the raw texts of the tree are. -/
theorem Node.isTidy_of_render {n : Node}
    (hn : ∀ m, n.Reaches m → ∀ sql ∈ m.writtenTexts d,
      IsTidy d.capabilities.backslashEscapes 0 sql)
    {inlining : Bool} {r : Rendered} (h : n.render d inlining = .ok r) :
    IsTidy d.capabilities.backslashEscapes
      (if inlining = true ∨ d = .postgres then 0 else r.params.length) r.sql := by
  have hwritten (each : Nat) : ∀ m, n.Reaches m → ∀ sql ∈ m.writtenTexts d,
      IsTidy d.capabilities.backslashEscapes (0 * each) sql := by
    rw [Nat.zero_mul]
    exact hn
  cases inlining with
  | true =>
    obtain ⟨hsucceeds, hsql⟩ := sql_of_render_inlining h
    have hR := Registry.congruence_isTidy hd (Registry.isTidy_inlineText hd)
    have htidy := relates_draft hR hd n (hwritten 0) hsucceeds 0
    rw [if_pos (.inl rfl), hsql]
    exact htidy
  | false =>
    obtain ⟨hsucceeds, rfl⟩ := rendered_of_render_binding h
    have hR := Registry.congruence_isTidy hd d.isTidy_mark
    have htidy := relates_draft hR hd n (hwritten _) hsucceeds 0
    have hmarkers := Registry.markersEach_eq d hd
    by_cases hpostgres : d = .postgres
    · rw [if_pos hpostgres] at hmarkers
      rw [hmarkers, Nat.mul_zero] at htidy
      rw [if_pos (.inr hpostgres)]
      exact htidy
    · rw [if_neg hpostgres] at hmarkers
      rw [hmarkers, Nat.mul_one] at htidy
      rw [if_neg (not_or.mpr ⟨Bool.false_ne_true, hpostgres⟩), List.length_map]
      exact htidy

end SqlRender
