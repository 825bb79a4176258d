import SqlRender.Proofs.Draft.Succeeds
import SqlRender.Proofs.Draft.Filled
import SqlRender.Proofs.Node.Opening
import SqlRender.Proofs.Registered

namespace SqlRender

open Template (IsPlain)

/-- A relation between two fillings of the same pieces with a number of gaps, kept by each way in
which SQL is put together. -/
structure Congruence (d : Dialect) (f g : Nat → Scalar → String)
    (R : Nat → String → String → Prop) : Prop where
  plain {sql : String} : IsPlain sql → R 0 sql sql
  name (s : String) : R 0 (d.quote s) (d.quote s)
  value (held : Nat) (s : Scalar) : R 1 (f held s) (g held s)
  append {k l : Nat} {a b a' b' : String} :
    R k a b → R l a' b' → R (k + l) (a ++ a') (b ++ b')
  parenthesized {k : Nat} {a b : String} : R k a b → R k ("(" ++ a ++ ")") ("(" ++ b ++ ")")

variable {d : Dialect} {f g : Nat → Scalar → String} {R : Nat → String → String → Prop}

namespace Congruence

variable (hR : Congruence d f g R)

include hR

theorem append_plain {k : Nat} {a b sql : String} (h : R k a b) (hsql : IsPlain sql) :
    R k (a ++ sql) (b ++ sql) := hR.append h (hR.plain hsql)

theorem plain_append {k : Nat} {a b sql : String} (hsql : IsPlain sql) (h : R k a b) :
    R k (sql ++ a) (sql ++ b) := Nat.zero_add k ▸ hR.append (hR.plain hsql) h

theorem names (names : List String) : R 0 (d.quoteAll names) (d.quoteAll names) := by
  rw [Dialect.quoteAll]
  induction names with
  | nil => exact hR.plain (by decide : IsPlain "")
  | cons name rest ih =>
    cases rest with
    | nil =>
      rw [List.map_cons, List.map_nil, String.intercalate_singleton]
      exact hR.name name
    | cons name' rest =>
      rw [List.map_cons, List.map_cons, String.intercalate_cons_cons]
      exact hR.append (hR.append_plain (hR.name name) (by decide)) ih

theorem proposed (hd : d ∈ Registry.standard.dialects) {column sql : String}
    (hcolumn : R 0 column column) (h : d.proposed column = .ok sql) : R 0 sql sql := by
  rcases Registry.proposed_eq d hd h with rfl | rfl | rfl
  · exact hR.plain_append (by decide) (hR.parenthesized hcolumn)
  · exact hR.plain_append (by decide) hcolumn
  · exact hR.plain_append (by decide) hcolumn

end Congruence

namespace Draft

/-- If the draft succeeds, its two fillings are related. -/
def Relates (f g : Nat → Scalar → String) (R : Nat → String → String → Prop) (a : Draft) : Prop :=
  a.Succeeds → ∀ held,
    R (values a.chunks).length (Piece.fill f held (pieces a.chunks))
      (Piece.fill g held (pieces a.chunks))

theorem relates_text {sql : String} (h : R 0 sql sql) : (text sql).Relates f g R := by
  intro _ held
  show R 0 (sql ++ "") (sql ++ "")
  rwa [String.append_empty]

theorem relates_fail (e : Error) : (fail e).Relates f g R :=
  fun h ↦ absurd h (not_succeeds_fail e)

/-- The values one by one. -/
def binds (ss : List Scalar) : Draft := join ", " (ss.map fun s ↦ ⟨[.bind s], none⟩)

theorem pieces_parenthesized {a : Draft} (h : a.Succeeds) :
    pieces a.parenthesized.chunks = .text "(" :: (pieces a.chunks ++ [.text ")"]) := by
  have hopen : text "(" ++ a = ⟨.text "(" :: a.chunks, none⟩ :=
    congrArg (Draft.mk (.text "(" :: a.chunks)) h
  have hclose : a.parenthesized = ⟨.text "(" :: (a.chunks ++ [.text ")"]), none⟩ := by
    rw [parenthesized, hopen]
    rfl
  rw [hclose, pieces_cons, pieces_append]
  rfl

variable (hR : Congruence d f g R)

include hR

theorem relates_empty : empty.Relates f g R := fun _ _ ↦ hR.plain (by decide : IsPlain "")

theorem relates_append {a b : Draft} (ha : a.Relates f g R) (hb : b.Relates f g R) :
    (a ++ b).Relates f g R := by
  intro h held
  obtain ⟨hca, hcb⟩ := succeeds_append.mp h
  rw [append_of_complete hca, values, pieces_append, Piece.values_append, List.length_append,
    Piece.fill_append, Piece.fill_append]
  exact hR.append (ha hca held) (hb hcb _)

theorem relates_parenthesized {a : Draft} (ha : a.Relates f g R) :
    a.parenthesized.Relates f g R := by
  intro h held
  have hsucceeds := succeeds_parenthesized.mp h
  have hinside := hR.parenthesized (ha hsucceeds held)
  have hvalues : Piece.values (.text "(" :: (pieces a.chunks ++ [.text ")"])) =
      values a.chunks :=
    (Piece.values_append (pieces a.chunks) [.text ")"]).trans (List.append_nil _)
  have hfill (k : Nat → Scalar → String) :
      Piece.fill k held (.text "(" :: (pieces a.chunks ++ [.text ")"])) =
        "(" ++ Piece.fill k held (pieces a.chunks) ++ ")" := by
    rw [Piece.fill, Piece.fill_append, String.append_assoc]
    rfl
  rw [values, pieces_parenthesized hsucceeds, hvalues, hfill, hfill]
  exact hinside

theorem relates_require (condition : Bool) (e : Error) :
    (require condition e).Relates f g R := by
  cases condition
  · exact relates_fail e
  · exact relates_empty hR

theorem relates_sequence {as : List Draft} (h : ∀ a ∈ as, a.Relates f g R) :
    (sequence as).Relates f g R := by
  induction as with
  | nil => exact relates_empty hR
  | cons a rest ih =>
    obtain ⟨ha, hrest⟩ := List.forall_mem_cons.mp h
    exact relates_append hR ha (ih hrest)

theorem relates_join {separator : String} (hsep : IsPlain separator) {as : List Draft}
    (h : ∀ a ∈ as, a.Relates f g R) : (join separator as).Relates f g R := by
  induction as with
  | nil => exact relates_empty hR
  | cons a rest ih =>
    obtain ⟨ha, hrest⟩ := List.forall_mem_cons.mp h
    cases rest with
    | nil => exact ha
    | cons b rest =>
      exact relates_append hR (relates_append hR ha (relates_text (hR.plain hsep))) (ih hrest)

theorem relates_bind (s : Scalar) : (Draft.mk [.bind s] none).Relates f g R := by
  intro _ held
  show R 1 (f held s ++ "") (g held s ++ "")
  rw [String.append_empty, String.append_empty]
  exact hR.value held s

omit hR in
theorem succeeds_binds (ss : List Scalar) : (binds ss).Succeeds :=
  succeeds_join.mpr (List.forall_mem_map.mpr fun _ _ ↦ rfl)

omit hR in
theorem pieces_binds (first : Scalar) (rest : List Scalar) :
    pieces (binds (first :: rest)).chunks = .gap first :: Chunk.tail rest := by
  induction rest generalizing first with
  | nil => rfl
  | cons s rest ih => exact congrArg (fun ps ↦ .gap first :: .text ", " :: ps) (ih s)

omit hR in
/-- The members of a collection have the pieces of the same values bound one by one. -/
theorem pieces_bindAll (first : Scalar) (rest : List Scalar) :
    pieces [.bindAll first rest] = pieces (binds (first :: rest)).parenthesized.chunks := by
  rw [pieces_parenthesized (succeeds_binds _), pieces_binds]
  exact List.append_nil _

theorem relates_bindAll (first : Scalar) (rest : List Scalar) :
    (Draft.mk [.bindAll first rest] none).Relates f g R := by
  have hall : ∀ a ∈ (first :: rest).map fun s ↦ Draft.mk [.bind s] none, a.Relates f g R :=
    List.forall_mem_map.mpr fun s _ ↦ relates_bind hR s
  have hbinds : (binds (first :: rest)).Relates f g R := relates_join hR (by decide) hall
  intro _ held
  have h := relates_parenthesized hR hbinds (succeeds_parenthesized.mpr (succeeds_binds _)) held
  rw [values, ← pieces_bindAll] at h
  exact h

theorem relates_ofMembers (members : List Value) : (ofMembers members).Relates f g R := by
  unfold ofMembers
  split
  · exact relates_fail _
  · have hnull := hR.parenthesized (hR.plain (by decide : IsPlain "NULL"))
    exact relates_text hnull
  · exact relates_bindAll hR _ _

theorem relates_filled {args : List Draft} {segments : List String}
    (hargs : ∀ a ∈ args, a.Relates f g R) (hsegments : ∀ segment ∈ segments, R 0 segment segment) :
    ∀ a ∈ List.zipWith (fun arg segment ↦ arg ++ text segment) args segments,
      a.Relates f g R := by
  induction args generalizing segments with
  | nil => exact fun _ h ↦ absurd h List.not_mem_nil
  | cons a rest ih =>
    cases segments with
    | nil => exact fun _ h ↦ absurd h List.not_mem_nil
    | cons segment segments =>
      obtain ⟨ha, hrest⟩ := List.forall_mem_cons.mp hargs
      obtain ⟨hsegment, hsegments⟩ := List.forall_mem_cons.mp hsegments
      rw [List.zipWith_cons_cons, List.forall_mem_cons]
      exact ⟨relates_append hR ha (relates_text hsegment), ih hrest hsegments⟩

theorem relates_template {sql : String} {args : List Draft}
    (hargs : ∀ a ∈ args, a.Relates f g R)
    (hsql : ∀ segment ∈ Template.segments d.capabilities.backslashEscapes sql,
      R 0 segment segment) :
    (template d sql args).Relates f g R := by
  unfold template
  split
  · exact relates_empty hR
  · next first rest heq =>
    rw [heq, List.forall_mem_cons] at hsql
    exact relates_append hR
      (relates_append hR (relates_require hR _ _) (relates_text hsql.1))
      (relates_sequence hR (relates_filled hR hargs hsql.2))

theorem relates_combination (hd : d ∈ Registry.standard.dialects) (op : BoolOp)
    {items : List Draft} (h : ∀ a ∈ items, a.Relates f g R) :
    (combination d op items).Relates f g R := by
  unfold combination
  split
  · exact relates_text (hR.plain (Registry.boolLiteral_isPlain d hd _))
  · have hsep : IsPlain (" " ++ op.sql ++ " ") := by cases op <;> decide
    exact relates_join hR hsep
      (List.forall_mem_map.mpr fun a ha ↦ relates_parenthesized hR (h a ha))

theorem relates_conditions {keyword : String} (hkeyword : IsPlain (" " ++ keyword ++ " "))
    {items : List Draft} (h : ∀ a ∈ items, a.Relates f g R) :
    (conditions keyword items).Relates f g R := by
  unfold conditions
  split
  · exact relates_empty hR
  · exact relates_append hR (relates_text (hR.plain hkeyword)) (relates_join hR (by decide)
      (List.forall_mem_map.mpr fun a ha ↦ relates_parenthesized hR (h a ha)))

theorem relates_operand (isQuery : Bool) {a : Draft} (ha : a.Relates f g R) :
    (operand isQuery a).Relates f g R := by
  cases isQuery
  · exact ha
  · exact relates_parenthesized hR ha

theorem relates_aliased (aliasName : String) : (aliased d aliasName).Relates f g R := by
  unfold aliased
  split
  · exact relates_empty hR
  · exact relates_text (hR.plain_append (by decide) (hR.name aliasName))

theorem relates_source (place : SourcePlace) (isQuery : Bool) (aliasName : String) {a : Draft}
    (ha : a.Relates f g R) : (source d place isQuery aliasName a).Relates f g R :=
  relates_append hR (relates_append hR (relates_require hR _ _) (relates_operand hR isQuery ha))
    (relates_aliased hR aliasName)

theorem relates_member (position : Nat) (isGrouped : Bool) {a : Draft} (ha : a.Relates f g R) :
    (member d position isGrouped a).Relates f g R := by
  unfold member
  split
  · exact ha
  · split
    · exact relates_parenthesized hR ha
    · have hselect := hR.plain (by decide : IsPlain "SELECT * FROM ")
      have halias := hR.plain_append (by decide : IsPlain " AS ")
        (hR.name ("_u" ++ toString position))
      exact relates_append hR (relates_append hR (relates_text hselect)
        (relates_parenthesized hR ha)) (relates_text halias)

theorem relates_returning (columns : List String) : (returning d columns).Relates f g R := by
  unfold returning
  split
  · exact relates_empty hR
  · exact relates_text (hR.plain_append (by decide) (hR.names columns))

theorem relates_clause {keyword : String} (hkeyword : IsPlain keyword) {items : List Draft}
    (h : ∀ a ∈ items, a.Relates f g R) : (clause keyword items).Relates f g R := by
  unfold clause
  split
  · exact relates_empty hR
  · exact relates_append hR (relates_text (hR.plain hkeyword)) (relates_join hR (by decide) h)

theorem relates_count {keyword : String} (hkeyword : IsPlain keyword) (n : Option Nat) :
    (count keyword n).Relates f g R := by
  cases n with
  | none => exact relates_empty hR
  | some n =>
    have htext := hR.plain (hkeyword.append (Template.isPlain_toString n))
    exact relates_append hR (relates_require hR _ _) (relates_text htext)

theorem relates_names (columns : List String) : (names d columns).Relates f g R := by
  unfold names
  split
  · exact relates_empty hR
  · have hopen : " (" = " " ++ "(" := by decide
    have hsql : " (" ++ d.quoteAll columns ++ ")" = " " ++ ("(" ++ d.quoteAll columns ++ ")") := by
      rw [hopen, String.append_assoc, String.append_assoc, String.append_assoc]
    rw [hsql]
    exact relates_text (hR.plain_append (by decide) (hR.parenthesized (hR.names columns)))

theorem relates_comparison (hd : d ∈ Registry.standard.dialects) (column : String)
    (op : CompareOp) (v : Value) {a : Draft} (ha : a.Relates f g R) :
    (comparison d column op v a).Relates f g R := by
  have hopening {opening : Opening} (h : Opening.ofComparison d column op v = .ok opening) :
      R 0 opening.sql opening.sql := by
    cases Opening.opens_of_ofComparison h with
    | operator _ hoperator =>
      exact hR.append_plain (hR.name column) (Opening.isPlain_of_mem_operators _ hoperator)
    | @constant b => exact hR.plain (Registry.boolLiteral_isPlain d hd b)
  unfold comparison
  split
  · exact relates_fail _
  · next opening h =>
    refine relates_append hR (relates_text (hopening h)) ?_
    split
    · exact ha
    · exact relates_empty hR

end Draft

end SqlRender
