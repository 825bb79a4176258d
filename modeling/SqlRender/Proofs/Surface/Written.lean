import SqlRender.Proofs.Node.RawFree
import SqlRender.Proofs.Surface.Quiet

namespace SqlRender

open Surface
open Template (IsTidy)

theorem Surface.IsNested.additive {backslashEscapes : Bool} :
    Draft.Additive (IsNested backslashEscapes) where
  empty := ⟨rfl, rfl⟩
  append {xs ys} hx hy := by
    refine ⟨hx.closed.append _ hy.closed, ?_⟩
    rw [Template.unquoted_append_of_isClosed _ hx.closed, List.foldlM_append, hx.balanced]
    exact hy.balanced

theorem Node.writtenTexts_of_rawText? {n : Node} (h : n.rawText? = none) (d : Dialect) :
    n.writtenTexts d = [] := by
  cases n with
  | verbatim sql => cases h
  | template sql args => cases h
  | _ => rfl

variable {d : Dialect} (hd : d ∈ Registry.standard.dialects)

namespace Draft

theorem adds_congr {a b : Draft} (hsucceeds : a.Succeeds ↔ b.Succeeds)
    (hpieces : pieces a.chunks = pieces b.chunks) {inlining : Bool} {held held' : List Value}
    {sql : String} :
    (a.write d).Adds inlining held sql held' ↔ (b.write d).Adds inlining held sql held' := by
  simp only [adds_iff, hsucceeds, values, hpieces]

theorem says_bind {P : String → Prop} (h : ∀ inlining held s, P (d.gapText inlining held s))
    (s : Scalar) : (Draft.mk [.bind s] none).Says d P := by
  intro inlining held sql held' hsql
  obtain ⟨-, -, rfl, -⟩ := adds_iff.mp hsql
  have hgap : Piece.fill (d.gapText inlining) held.length [.gap s] =
      d.gapText inlining held.length s := String.append_empty
  exact hgap ▸ h inlining held.length s

/-- Nothing in parentheses stands at the top. -/
theorem says_parenthesized {a : Draft}
    (h : a.Says d (IsNested d.capabilities.backslashEscapes)) (pairs : List (Char × Char)) :
    a.parenthesized.Says d (IsQuiet d.capabilities.backslashEscapes pairs) := by
  intro inlining held sql held' hsql
  obtain ⟨inside, hinside, rfl⟩ := adds_parenthesized.mp hsql
  exact .parenthesized (h _ _ _ _ hinside)

end Draft

include hd

theorem Registry.isTidy_gapText (inlining : Bool) (held : Nat) (s : Scalar) :
    IsTidy d.capabilities.backslashEscapes (if inlining then 0 else d.markersEach)
      (d.gapText inlining held s) := by
  cases inlining with
  | true => exact isTidy_inlineText hd held s
  | false => exact d.isTidy_mark held s

/-- Without raw texts in it a node writes a text that closes all that it opens. -/
theorem Node.says_isNested {n : Node} (hn : n.IsRawFree) :
    (n.draft d).Says d (IsNested d.capabilities.backslashEscapes) := by
  intro inlining held sql held' h
  obtain ⟨hsucceeds, -, rfl, -⟩ := Draft.adds_iff.mp h
  have hR := Registry.congruence_isTidy hd (Registry.isTidy_gapText hd inlining)
  refine .of_isTidy (relates_draft hR hd n ?_ hsucceeds held.length)
  intro m hm sql hsql
  rw [writtenTexts_of_rawText? (hn m hm)] at hsql
  cases hsql

theorem Draft.says_ofMembers (members : List Value) :
    (ofMembers members).Says d (IsQuiet d.capabilities.backslashEscapes keywordPairs) := by
  unfold ofMembers
  split
  · exact says_fail _
  · have hnull : IsNested d.capabilities.backslashEscapes "NULL" :=
      .of_isTidy (Template.IsPlain.isTidy (by decide))
    exact says_text (.parenthesized hnull)
  · next first rest _ =>
    have hgap (inlining : Bool) (held : Nat) (s : Scalar) :
        IsNested d.capabilities.backslashEscapes (d.gapText inlining held s) :=
      .of_isTidy (Registry.isTidy_gapText hd inlining held s)
    have hcomma : IsNested d.capabilities.backslashEscapes ", " :=
      .of_isTidy (Template.IsPlain.isTidy (by decide))
    have hbinds : (binds (first :: rest)).Says d (IsNested d.capabilities.backslashEscapes) :=
      IsNested.additive.says_join hcomma (List.forall_mem_map.mpr fun s _ ↦ says_bind hgap s)
    have hsucceeds : (Draft.mk [.bindAll first rest] none).Succeeds ↔
        (binds (first :: rest)).parenthesized.Succeeds :=
      iff_of_true rfl (succeeds_parenthesized.mpr (succeeds_binds _))
    intro inlining held sql held' h
    rw [adds_congr hsucceeds (pieces_bindAll first rest)] at h
    exact says_parenthesized hbinds _ _ _ _ _ h

/-- The value is no node but a query without raw texts. -/
def Value.IsRegular (v : Value) : Prop := ∀ q ∈ v.node?, q.isQuery = true ∧ q.IsRawFree

omit hd in
theorem Draft.says_operand_query {q : Node} (hquery : q.isQuery = true) {P : String → Prop}
    (h : (q.draft d).parenthesized.Says d P) :
    (Draft.operand q.isQuery (q.draft d)).Says d P := by
  rw [hquery]
  exact h

theorem Value.says_isQuiet {v : Value} (hv : v.IsRegular) :
    (v.draft d).Says d (IsQuiet d.capabilities.backslashEscapes keywordPairs) := by
  cases v with
  | scalar s =>
    rw [draft]
    exact Draft.says_bind (isQuiet_gapText hd) s
  | collection kind members =>
    rw [draft]
    exact Draft.says_ofMembers hd members
  | mapping entries =>
    rw [draft]
    exact Draft.says_ofMembers hd _
  | foreign name =>
    rw [draft]
    exact Draft.says_fail _
  | node q =>
    obtain ⟨hquery, hraw⟩ := hv q rfl
    rw [draft]
    exact Draft.says_operand_query hquery (Draft.says_parenthesized (q.says_isNested hd hraw) _)

/-- A comparison is a truth value, or a text without a keyword that begins with its column. -/
theorem Node.adds_compare {column : String} {op : CompareOp} {v : Value} (hv : v.IsRegular)
    {inlining : Bool} {held held' : List Value} {sql : String}
    (h : ((compare column op v).write d).Adds inlining held sql held') :
    match Opening.constant? op v with
    | some b => sql = d.boolLiteral b ∧ held' = held
    | none => IsQuiet d.capabilities.backslashEscapes keywordPairs sql ∧
        ∃ rest, sql = d.quote column ++ rest := by
  rw [← write_draft, draft] at h
  unfold Draft.comparison at h
  split at h
  · exact absurd h (Draft.not_adds_fail _)
  · next opening hopening =>
    obtain ⟨first, mid, operand, hfirst, hoperand, rfl⟩ := Draft.adds_append.mp h
    obtain ⟨rfl, rfl⟩ := Draft.adds_text.mp hfirst
    cases Opening.opens_of_ofComparison hopening with
    | @operator operator hconstant hoperator hasOperand =>
      rw [hconstant]
      have hquiet : IsQuiet d.capabilities.backslashEscapes keywordPairs operator := by
        have hapart : ∀ operator ∈ Opening.operators, ∀ pair ∈ keywordPairs,
            Template.Apart pair.1 pair.2 (operator.toList.map Char.toUpper) := by decide
        exact .of_isPlain (Opening.isPlain_of_mem_operators _ hoperator) (hapart _ hoperator)
      have hbehind : IsQuiet d.capabilities.backslashEscapes keywordPairs operand := by
        cases hasOperand with
        | true => exact v.says_isQuiet hd hv _ _ _ _ hoperand
        | false => exact IsQuiet.additive.says_empty _ _ _ _ hoperand
      refine ⟨?_, operator ++ operand, String.append_assoc⟩
      exact IsQuiet.additive.append (IsQuiet.additive.append (isQuiet_quote hd column) hquiet)
        hbehind
    | constant hconstant =>
      rw [hconstant]
      obtain ⟨rfl, rfl⟩ := Draft.adds_empty.mp hoperand
      exact ⟨String.append_empty, rfl⟩

end SqlRender
