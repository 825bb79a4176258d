import SqlRender.Proofs.Draft.Succeeds
import SqlRender.Proofs.Draft.Filled

namespace SqlRender

/-- Behind the parameters `held` a write adds `sql`, and leaves the parameters `held'`. -/
def Writing.Adds (inlining : Bool) (w : Writing Unit) (held : List Value) (sql : String)
    (held' : List Value) : Prop :=
  w.into ⟨inlining, "", held⟩ = (.ok (), ⟨inlining, sql, held'⟩)

/-- One write after the other, each with the text that it adds itself. -/
inductive Writing.AddInTurn (inlining : Bool) :
    List (Writing Unit) → List Value → List String → List Value → Prop
  | nil (held : List Value) : AddInTurn inlining [] held [] held
  | cons {w : Writing Unit} {ws : List (Writing Unit)} {held mid held' : List Value}
    {sql : String} {sqls : List String} (h : w.Adds inlining held sql mid)
    (hrest : AddInTurn inlining ws mid sqls held') :
    AddInTurn inlining (w :: ws) held (sql :: sqls) held'

variable {d : Dialect} {inlining : Bool}

/-- The text that stands for a value. -/
def Dialect.gapText (d : Dialect) (inlining : Bool) : Nat → Scalar → String :=
  if inlining then d.inlineText else d.mark

theorem Piece.fill_inlineText (held held' : Nat) (ps : List Piece) :
    fill d.inlineText held ps = fill d.inlineText held' ps := by
  induction ps generalizing held held' with
  | nil => rfl
  | cons p rest ih =>
    cases p with
    | text sql => rw [fill, fill, ih held held']
    | gap s =>
      rw [fill, fill, ih (held + 1) (held' + 1)]
      rfl

namespace Draft

theorem adds_iff {a : Draft} {held held' : List Value} {sql : String} :
    (a.write d).Adds inlining held sql held' ↔
      a.Succeeds ∧ (inlining = true → d.firstRefusal? (values a.chunks) = none) ∧
        sql = Piece.fill (d.gapText inlining) held.length (pieces a.chunks) ∧
        held' = held ++ if inlining then [] else (values a.chunks).map .scalar := by
  rw [Writing.Adds]
  cases inlining with
  | true =>
    rw [into_write_of_inlining d a rfl, String.empty_append]
    cases hrefusal : d.firstRefusal? (values a.chunks) with
    | some e => simp [result]
    | none =>
      rw [inlinedText_of_complete d held.length hrefusal, Option.none_or, Succeeds]
      cases a.error with
      | some e => simp [result]
      | none => simp [result, Dialect.gapText, eq_comm]
  | false =>
    rw [into_write_of_binding d a rfl, Succeeds]
    cases a.error with
    | some e => simp [result]
    | none => simp [result, Buffer.binding, Dialect.gapText, values, eq_comm]

@[simp] theorem adds_text {text sql : String} {held held' : List Value} :
    ((Draft.text text).write d).Adds inlining held sql held' ↔ sql = text ∧ held' = held := by
  rw [write_text, Writing.Adds, Writing.into_text, String.empty_append]
  simp [eq_comm]

theorem not_adds_fail (e : Error) {sql : String} {held held' : List Value} :
    ¬((fail e).write d).Adds inlining held sql held' :=
  fun h ↦ not_succeeds_fail e (adds_iff.mp h).1

@[simp] theorem adds_empty {sql : String} {held held' : List Value} :
    (empty.write d).Adds inlining held sql held' ↔ sql = "" ∧ held' = held := by
  rw [adds_iff]
  cases inlining <;> simp [empty, Succeeds, values, pieces, Piece.fill, Piece.values,
    Dialect.firstRefusal?]

@[simp] theorem adds_require {condition : Bool} {e : Error} {sql : String}
    {held held' : List Value} :
    ((require condition e).write d).Adds inlining held sql held' ↔
      condition = true ∧ sql = "" ∧ held' = held := by
  cases condition with
  | true => simp only [require, ↓reduceIte, adds_empty, true_and]
  | false => simp only [require, Bool.false_eq_true, ↓reduceIte, not_adds_fail, false_and]

theorem values_append (xs ys : List Chunk) : values (xs ++ ys) = values xs ++ values ys := by
  rw [values, pieces_append, Piece.values_append]
  rfl

theorem adds_append {a b : Draft} {sql : String} {held held' : List Value} :
    ((a ++ b).write d).Adds inlining held sql held' ↔
      ∃ first mid rest, (a.write d).Adds inlining held first mid ∧
        (b.write d).Adds inlining mid rest held' ∧ sql = first ++ rest := by
  have hfill (mid : List Value)
      (hmid : mid = held ++ if inlining then [] else (values a.chunks).map .scalar) :
      Piece.fill (d.gapText inlining) (held.length + (values a.chunks).length)
          (pieces b.chunks) =
        Piece.fill (d.gapText inlining) mid.length (pieces b.chunks) := by
    rw [hmid]
    cases inlining with
    | true => exact Piece.fill_inlineText _ _ _
    | false => simp only [Bool.false_eq_true, ↓reduceIte, List.length_append, List.length_map]
  have hheld : (if inlining then [] else (values (a.chunks ++ b.chunks)).map Value.scalar) =
      (if inlining then [] else (values a.chunks).map .scalar) ++
        if inlining then [] else (values b.chunks).map .scalar := by
    rw [values_append]
    cases inlining with
    | true => rfl
    | false => exact List.map_append
  simp only [adds_iff, succeeds_append]
  constructor
  · rintro ⟨⟨ha, hb⟩, hrefusal, rfl, rfl⟩
    rw [append_of_complete ha] at hrefusal ⊢
    simp only [values_append, Dialect.firstRefusal?_append, Option.or_eq_none_iff] at hrefusal
    refine ⟨_, _, _, ⟨ha, fun h ↦ (hrefusal h).1, rfl, rfl⟩,
      ⟨hb, fun h ↦ (hrefusal h).2, rfl, ?_⟩, ?_⟩
    · rw [hheld, List.append_assoc]
    · rw [pieces_append, Piece.fill_append, ← hfill _ rfl]
      rfl
  · rintro ⟨_, _, _, ⟨ha, harefusal, rfl, rfl⟩, ⟨hb, hbrefusal, rfl, rfl⟩, rfl⟩
    rw [append_of_complete ha]
    refine ⟨⟨ha, hb⟩, ?_, ?_, ?_⟩
    · intro h
      rw [values_append, Dialect.firstRefusal?_append, harefusal h, hbrefusal h, Option.none_or]
    · rw [pieces_append, Piece.fill_append, ← hfill _ rfl]
      rfl
    · rw [hheld, List.append_assoc]

theorem adds_parenthesized {a : Draft} {sql : String} {held held' : List Value} :
    (a.parenthesized.write d).Adds inlining held sql held' ↔
      ∃ inside, (a.write d).Adds inlining held inside held' ∧ sql = "(" ++ inside ++ ")" := by
  simp only [parenthesized, adds_append, adds_text]
  constructor
  · rintro ⟨_, _, _, ⟨_, _, inside, ⟨rfl, rfl⟩, h, rfl⟩, ⟨rfl, rfl⟩, rfl⟩
    exact ⟨inside, h, rfl⟩
  · rintro ⟨inside, h, rfl⟩
    exact ⟨_, _, _, ⟨_, _, _, ⟨rfl, rfl⟩, h, rfl⟩, ⟨rfl, rfl⟩, rfl⟩

theorem addInTurn_of_join {separator : String} {as : List Draft} {sql : String}
    {held held' : List Value} (h : ((join separator as).write d).Adds inlining held sql held') :
    ∃ sqls, Writing.AddInTurn inlining (as.map (write d)) held sqls held' ∧
      sql = separator.intercalate sqls := by
  induction as generalizing sql held with
  | nil =>
    obtain ⟨rfl, rfl⟩ := adds_empty.mp h
    exact ⟨[], .nil held', rfl⟩
  | cons a rest ih =>
    cases rest with
    | nil => exact ⟨[sql], .cons h (.nil held'), String.intercalate_singleton.symm⟩
    | cons b rest =>
      simp only [join] at h
      obtain ⟨first, mid, behind, hfirst, hbehind, rfl⟩ := adds_append.mp h
      obtain ⟨first, _, _, hfirst, hseparator, rfl⟩ := adds_append.mp hfirst
      obtain ⟨rfl, rfl⟩ := adds_text.mp hseparator
      obtain ⟨sqls, hsqls, rfl⟩ := ih hbehind
      refine ⟨first :: sqls, .cons hfirst hsqls, ?_⟩
      cases hsqls with
      | cons => rw [String.intercalate_cons_cons]

/-- Whatever the draft adds has the property. -/
def Says (d : Dialect) (P : String → Prop) (a : Draft) : Prop :=
  ∀ inlining held sql held', (a.write d).Adds inlining held sql held' → P sql

/-- A property of texts that is kept where one is written behind the other. -/
structure Additive (P : String → Prop) : Prop where
  empty : P ""
  append {xs ys : String} : P xs → P ys → P (xs ++ ys)

variable {P : String → Prop}

theorem says_text {sql : String} (h : P sql) : (text sql).Says d P := by
  intro inlining held sql' held' hsql
  obtain ⟨rfl, -⟩ := adds_text.mp hsql
  exact h

theorem says_fail (e : Error) : (fail e).Says d P :=
  fun _ _ _ _ h ↦ absurd h (not_adds_fail e)

namespace Additive

variable (hP : Additive P)

include hP

theorem intercalate {separator : String} (hseparator : P separator) {sqls : List String}
    (h : ∀ sql ∈ sqls, P sql) : P (separator.intercalate sqls) := by
  induction sqls with
  | nil => exact hP.empty
  | cons sql rest ih =>
    obtain ⟨hsql, hrest⟩ := List.forall_mem_cons.mp h
    cases rest with
    | nil => exact String.intercalate_singleton.symm ▸ hsql
    | cons sql' rest =>
      rw [String.intercalate_cons_cons]
      exact hP.append (hP.append hsql hseparator) (ih hrest)

theorem says_empty : Draft.empty.Says d P := by
  intro inlining held sql held' h
  obtain ⟨rfl, -⟩ := adds_empty.mp h
  exact hP.empty

theorem says_append {a b : Draft} (ha : a.Says d P) (hb : b.Says d P) : (a ++ b).Says d P := by
  intro inlining held sql held' h
  obtain ⟨first, mid, rest, hfirst, hrest, rfl⟩ := adds_append.mp h
  exact hP.append (ha _ _ _ _ hfirst) (hb _ _ _ _ hrest)

theorem says_require (condition : Bool) (e : Error) : (require condition e).Says d P := by
  cases condition with
  | true => exact hP.says_empty
  | false => exact says_fail e

theorem says_sequence {as : List Draft} (h : ∀ a ∈ as, a.Says d P) : (sequence as).Says d P := by
  induction as with
  | nil => exact hP.says_empty
  | cons a rest ih =>
    obtain ⟨ha, hrest⟩ := List.forall_mem_cons.mp h
    exact hP.says_append ha (ih hrest)

theorem says_join {separator : String} (hseparator : P separator) {as : List Draft}
    (h : ∀ a ∈ as, a.Says d P) : (join separator as).Says d P := by
  induction as with
  | nil => exact hP.says_empty
  | cons a rest ih =>
    obtain ⟨ha, hrest⟩ := List.forall_mem_cons.mp h
    cases rest with
    | nil => exact ha
    | cons b rest => exact hP.says_append (hP.says_append ha (says_text hseparator)) (ih hrest)

end Additive

end Draft

end SqlRender
