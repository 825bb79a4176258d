import SqlRender.Proofs.ModeAgreement
import SqlRender.Proofs.Surface.Condition
import SqlRender.Proofs.Surface.Row

namespace SqlRender

open Surface

/-- Equality, or its negation. -/
def CompareOp.equality (isNegated : Bool) : CompareOp := if isNegated then .neq else .eq

/-- What an equality with the value tests. -/
def Scalar.test (d : Dialect) (s : Scalar) : Test :=
  if s = .null then .null else .equal (tokens d.capabilities.backslashEscapes (d.inlineText 0 s))

variable {d : Dialect}

theorem Node.adds_of_render {n : Node} {r : Rendered} (h : n.render d true = .ok r) :
    (n.write d).Adds true [] r.sql [] := by
  rw [render, Writing.rendered, n.into_write_of_inlining d rfl] at h
  rw [Writing.Adds, n.into_write_of_inlining d rfl]
  cases hresult : (d.firstRefusal? (Draft.values (n.draft d).chunks)).or (n.draft d).error with
  | some e =>
    rw [hresult] at h
    cases h
  | none =>
    rw [hresult] at h
    cases h
    rfl

namespace Draft

variable {held held' : List Value} {sql : String}

/-- A draft adds its literals where all its values have one. -/
theorem literal_of_adds {a : Draft} (h : (a.write d).Adds true held sql held') :
    ∀ s ∈ values a.chunks, d.literal s = .ok (d.inlineText 0 s) := by
  obtain ⟨-, hrefusal, -, -⟩ := adds_iff.mp h
  intro s hs
  have hnone := List.findSome?_eq_none_iff.mp (hrefusal rfl) s hs
  exact d.literal_of_refusal?_eq_none hnone 0

theorem adds_bind {s : Scalar} (h : ((Draft.mk [.bind s] none).write d).Adds true held sql held') :
    d.literal s = .ok (d.inlineText 0 s) ∧ sql = d.inlineText 0 s := by
  have hliteral := literal_of_adds h s List.mem_cons_self
  obtain ⟨-, -, rfl, -⟩ := adds_iff.mp h
  exact ⟨hliteral, String.append_empty⟩

theorem adds_bindAll {first : Scalar} {rest : List Scalar}
    (h : ((Draft.mk [.bindAll first rest] none).write d).Adds true held sql held') :
    (∀ s ∈ first :: rest, d.literal s = .ok (d.inlineText 0 s)) ∧
      sql = "(" ++ ", ".intercalate ((first :: rest).map (d.inlineText 0)) ++ ")" := by
  have hvalues : values [.bindAll first rest] = first :: rest := by
    rw [values_cons, Chunk.values_bindAll]
    exact List.append_nil _
  have hliteral := literal_of_adds h
  rw [hvalues] at hliteral
  refine ⟨hliteral, ?_⟩
  obtain ⟨-, -, rfl, -⟩ := adds_iff.mp h
  have hpieces : pieces [.bindAll first rest] =
      .text "(" :: (.gap first :: Chunk.tail rest ++ [.text ")"]) := List.append_nil _
  show Piece.fill d.inlineText held.length (pieces [.bindAll first rest]) = _
  rw [hpieces, Piece.fill, Piece.fill_append, Chunk.fill_tail, String.append_assoc]
  simp only [Piece.fill, String.append_empty]

end Draft

namespace Node

variable {column : String} {isNegated : Bool} {held held' : List Value} {sql : String}

theorem adds_equality {s : Scalar}
    (h : ((compare column (.equality isNegated) (.scalar s)).write d).Adds true held sql held') :
    (s = .null ∧ sql = d.quote column ++ " " ++ if isNegated then "IS NOT NULL" else "IS NULL") ∨
      (s ≠ .null ∧ d.literal s = .ok (d.inlineText 0 s) ∧ sql = d.quote column ++ " " ++
        ((CompareOp.equality isNegated).sql ++ " " ++ d.inlineText 0 s)) := by
  rw [← write_draft, draft, Value.draft] at h
  by_cases hs : s = .null
  · subst hs
    refine .inl ⟨rfl, ?_⟩
    have hopening : Opening.ofComparison d column (.equality isNegated) (.scalar .null) =
        .ok ⟨d.quote column ++ if isNegated then " IS NOT NULL" else " IS NULL", false⟩ := by
      cases isNegated <;> rfl
    simp only [Draft.comparison, hopening, Bool.false_eq_true, ↓reduceIte, Draft.adds_append,
      Draft.adds_text, Draft.adds_empty] at h
    obtain ⟨_, _, _, ⟨rfl, -⟩, ⟨rfl, -⟩, rfl⟩ := h
    cases isNegated <;> simp only [String.append_empty, String.append_assoc] <;> rfl
  · refine .inr ⟨hs, ?_⟩
    have hopening : Opening.ofComparison d column (.equality isNegated) (.scalar s) =
        .ok ⟨d.quote column ++ (" " ++ (CompareOp.equality isNegated).sql ++ " "), true⟩ := by
      cases s with
      | null => exact absurd rfl hs
      | _ => cases isNegated <;> rfl
    simp only [Draft.comparison, hopening, ↓reduceIte, Draft.adds_append, Draft.adds_text] at h
    obtain ⟨_, _, literal, ⟨rfl, rfl⟩, hbind, rfl⟩ := h
    obtain ⟨hliteral, rfl⟩ := Draft.adds_bind hbind
    refine ⟨hliteral, ?_⟩
    simp only [String.append_assoc]

theorem adds_membership {kind : CollectionKind} {first : Scalar} {rest : List Scalar}
    (h : ((compare column (.equality isNegated)
      (.collection kind ((first :: rest).map .scalar))).write d).Adds true held sql held') :
    (∀ s ∈ first :: rest, d.literal s = .ok (d.inlineText 0 s)) ∧ sql = d.quote column ++ " " ++
      ((if isNegated then "NOT IN" else "IN") ++ " " ++
        ("(" ++ ", ".intercalate ((first :: rest).map (d.inlineText 0)) ++ ")")) := by
  have hopening (operator : String) (ifEmpty : Bool) :
      Opening.ofCollection d column operator ifEmpty
          (.collection kind ((first :: rest).map .scalar)) =
        .ok ⟨d.quote column ++ operator, true⟩ := by
    rw [Opening.ofCollection, Value.members, Value.scalarMembers_map]
    rfl
  have hcomparison : Opening.ofComparison d column (.equality isNegated)
      (.collection kind ((first :: rest).map .scalar)) =
        .ok ⟨d.quote column ++ if isNegated then " NOT IN " else " IN ", true⟩ := by
    rw [Opening.ofComparison_of_isCollection rfl]
    cases isNegated with
    | false => exact hopening " IN " false
    | true => exact hopening " NOT IN " true
  have hmembers :
      Draft.ofMembers ((first :: rest).map .scalar) = ⟨[.bindAll first rest], none⟩ := by
    rw [Draft.ofMembers, Value.scalarMembers_map]
  rw [← write_draft, draft, Value.draft, hmembers] at h
  simp only [Draft.comparison, hcomparison, ↓reduceIte, Draft.adds_append, Draft.adds_text] at h
  obtain ⟨_, _, list, ⟨rfl, rfl⟩, hbind, rfl⟩ := h
  obtain ⟨hliteral, rfl⟩ := Draft.adds_bindAll hbind
  refine ⟨hliteral, ?_⟩
  cases isNegated <;> simp only [String.append_assoc] <;> rfl

end Node

namespace Surface.Row

variable {V : Type} (row : Row V) (hd : d ∈ Registry.standard.dialects) {column : String}
  {isNegated : Bool} {held held' : List Value} {sql : String}

include hd

/-- A comparison has the truth value of the test that its text is read as. -/
theorem truth_compare {op : CompareOp} {v : Value} (hv : v.IsRegular)
    (hconstant : Opening.constant? op v = none)
    (h : ((Node.compare column op v).write d).Adds true held sql held') {behind : String}
    (hsql : sql = d.quote column ++ " " ++ behind) {ts : List (List Char)}
    (hbehind : tokens d.capabilities.backslashEscapes behind = ts)
    (hword : ts.head?.any isTestWord = true) {test : Test}
    (htest : test? d.capabilities.backslashEscapes ts = some (isNegated, test)) :
    row.truth d sql =
      (row.passes (tokens d.capabilities.backslashEscapes (d.quote column)) test).map
        (· ^^ isNegated) := by
  have hadds := Node.adds_compare hd hv h
  rw [hconstant] at hadds
  obtain ⟨hquiet, -⟩ := hadds
  obtain ⟨c, cs, hquote, hc⟩ := Registry.toList_quote d hd column
  have hhead : sql.toList = c :: (cs ++ (" " ++ behind).toList) := by
    rw [hsql, String.append_assoc, String.toList_append, hquote]
    rfl
  rw [truth, read_of_head hd hquiet hhead hc, Formula.truth, hsql,
    tokens_append_blank (isQuiet_quote hd column).level, hbehind]
  exact row.holds_append (fun _ ↦ not_isTestWord_of_mem_quote hd) hword htest

theorem truth_equality {s : Scalar}
    (h : ((Node.compare column (.equality isNegated) (.scalar s)).write d).Adds true held sql
      held') :
    row.truth d sql =
      (row.passes (tokens d.capabilities.backslashEscapes (d.quote column)) (s.test d)).map
        (· ^^ isNegated) := by
  have hv : (Value.scalar s).IsRegular := nofun
  have hconstant := Opening.constant?_of_not_isCollection (v := .scalar s) rfl (.equality isNegated)
  obtain ⟨rfl, hsql⟩ | ⟨hs, hliteral, hsql⟩ := Node.adds_equality h
  · cases isNegated with
    | false => exact row.truth_compare hd hv hconstant h hsql rfl rfl rfl
    | true => exact row.truth_compare hd hv hconstant h hsql rfl rfl rfl
  · have htokens : tokens d.capabilities.backslashEscapes
        ((CompareOp.equality isNegated).sql ++ " " ++ d.inlineText 0 s) =
          tokens d.capabilities.backslashEscapes (CompareOp.equality isNegated).sql ++
            tokens d.capabilities.backslashEscapes (d.inlineText 0 s) := by
      apply tokens_append_blank
      cases isNegated <;> rfl
    rw [Scalar.test, if_neg hs]
    cases isNegated with
    | false => exact row.truth_compare hd hv hconstant h hsql htokens rfl rfl
    | true => exact row.truth_compare hd hv hconstant h hsql htokens rfl rfl

/-- The tokens of literals between commas are read as the literals. -/
theorem listed?_group {ss : List Scalar} (hne : ss ≠ [])
    (h : ∀ s ∈ ss, d.literal s = .ok (d.inlineText 0 s)) :
    listed? d.capabilities.backslashEscapes
        ('(' :: ((", ".intercalate (ss.map (d.inlineText 0))).toList ++ [')'])) =
      some (ss.map fun s ↦ tokens d.capabilities.backslashEscapes (d.inlineText 0 s)) := by
  have hinside : inside? ['(' :: ((", ".intercalate (ss.map (d.inlineText 0))).toList ++ [')'])] =
      some (", ".intercalate (ss.map (d.inlineText 0))).toList := by
    rw [inside?, if_pos rfl, List.dropLast_concat]
  have hlevel : ∀ sql ∈ ss.map (d.inlineText 0), IsLevel d.capabilities.backslashEscapes sql :=
    List.forall_mem_map.mpr fun s hs ↦ (isBareOf_literal hd (h s hs)).level
  have hpieces : ∀ piece ∈ (ss.map (d.inlineText 0)).map (tokens d.capabilities.backslashEscapes),
      ∀ token ∈ piece, decide (token = [',']) = false := by
    refine List.forall_mem_map.mpr (List.forall_mem_map.mpr fun s hs token htoken ↦ ?_)
    apply decide_eq_false
    rintro rfl
    exact comma_not_mem_tokens hd (h s hs) htoken
  have hcomma : decide ([','] = [',']) = true := rfl
  have hsplit := splitOnP_intercalate (p := fun token ↦ token = [',']) hcomma (by simpa using hne)
    hpieces
  rw [listed?, hinside, Option.map_some, ← tokens, tokens_intercalate_comma hlevel, hsplit,
    List.map_map]
  rfl

theorem truth_membership (isNegated : Bool) {kind : CollectionKind} {ss : List Scalar}
    (h : ((Node.compare column (.equality isNegated)
      (.collection kind (ss.map .scalar))).write d).Adds true held sql held') :
    row.truth d sql =
      (row.passes (tokens d.capabilities.backslashEscapes (d.quote column))
        (.among (ss.map fun s ↦
          tokens d.capabilities.backslashEscapes (d.inlineText 0 s)))).map (· ^^ isNegated) := by
  have hv : (Value.collection kind (ss.map .scalar)).IsRegular := nofun
  cases ss with
  | nil =>
    have hadds := Node.adds_compare hd hv h
    have hconstant : Opening.constant? (.equality isNegated)
        (.collection kind (([] : List Scalar).map .scalar)) = some isNegated := by
      cases isNegated <;> rfl
    rw [hconstant] at hadds
    obtain ⟨rfl, -⟩ := hadds
    rw [truth, read_boolLiteral hd, Formula.truth]
    cases isNegated <;> rfl
  | cons first rest =>
    have hconstant : Opening.constant? (.equality isNegated)
        (.collection kind ((first :: rest).map .scalar)) = none := by
      cases isNegated <;> rfl
    obtain ⟨hliteral, hsql⟩ := Node.adds_membership h
    have hlisted := listed?_group hd (List.cons_ne_nil first rest) hliteral
    have hnested : IsNested d.capabilities.backslashEscapes
        (", ".intercalate ((first :: rest).map (d.inlineText 0))) := by
      apply IsNested.additive.intercalate
      · exact .of_isTidy (Template.IsPlain.isTidy (by decide))
      · exact List.forall_mem_map.mpr fun s _ ↦ .of_isTidy (Registry.isTidy_inlineText hd 0 s)
    have htokens (operator : String)
        (hlevel : IsLevel d.capabilities.backslashEscapes operator) :
        tokens d.capabilities.backslashEscapes (operator ++ " " ++
            ("(" ++ ", ".intercalate ((first :: rest).map (d.inlineText 0)) ++ ")")) =
          tokens d.capabilities.backslashEscapes operator ++
            group (", ".intercalate ((first :: rest).map (d.inlineText 0))) := by
      rw [tokens_append_blank hlevel, hnested.tokens_parenthesized]
    cases isNegated with
    | false =>
      refine row.truth_compare hd hv hconstant h hsql (htokens "IN" rfl) rfl ?_
      exact congrArg (Option.map fun literals ↦ (false, Test.among literals)) hlisted
    | true =>
      refine row.truth_compare hd hv hconstant h hsql (htokens "NOT IN" rfl) rfl ?_
      exact congrArg (Option.map fun literals ↦ (true, Test.among literals)) hlisted

theorem truth_combine {α : Type} {xs : List α} {node : α → Node} {leafTruth : α → Option Bool}
    (hraw : ∀ x, (node x).IsRawFree)
    (hleaf : ∀ x held sql held',
      ((node x).write d).Adds true held sql held' → row.truth d sql = leafTruth x)
    {op : BoolOp} (h : ((Node.combine op (xs.map node)).write d).Adds true held sql held') :
    row.truth d sql = op.truth (xs.map leafTruth) := by
  obtain ⟨texts, htexts, hread⟩ := Node.read_combine hd (List.forall_mem_map.mpr fun x _ ↦ hraw x) h
  rw [truth, hread, Formula.truth_collapse, List.map_map]
  refine congrArg op.truth ?_
  clear hread h
  induction xs generalizing held texts with
  | nil =>
    cases htexts
    rfl
  | cons x rest ih =>
    cases htexts with | cons hfirst hrest =>
    rw [List.map_cons, List.map_cons, ih _ hrest]
    exact congrArg (· :: _) (hleaf x _ _ _ hfirst)

theorem truth_memberwise (isNegated : Bool) {op : BoolOp} {ss : List Scalar}
    (h : ((Node.combine op (ss.map fun s ↦
      .compare column (.equality isNegated) (.scalar s))).write d).Adds true held sql held') :
    row.truth d sql = op.truth (ss.map fun s ↦
      (row.passes (tokens d.capabilities.backslashEscapes (d.quote column)) (s.test d)).map
        (· ^^ isNegated)) := by
  apply row.truth_combine hd ?_ ?_ h
  · exact fun s ↦ Node.isRawFree_compare nofun
  · exact fun s held sql held' ↦ row.truth_equality hd

omit hd

variable (d) in
/-- No column equals the literal of nothing. -/
theorem equals_null (column : List (List Char)) :
    row.equals column (tokens d.capabilities.backslashEscapes (d.inlineText 0 .null)) = none := by
  have hliteral : d.inlineText 0 .null = "NULL" := rfl
  have hnull : tokens d.capabilities.backslashEscapes "NULL" = ["NULL".toList] := rfl
  rw [equals, hliteral, hnull, row.literal_null]
  cases row.column column <;> rfl

/-- One by one, a value that is nothing passes where the column is NULL. -/
theorem passes_test_eq_some {column : List (List Char)} {s : Scalar} {b : Bool} :
    row.passes column (s.test d) = some b ↔
      row.equals column (tokens d.capabilities.backslashEscapes (d.inlineText 0 s)) = some b ∨
        s = .null ∧ (row.column column).isNone = b := by
  by_cases hs : s = .null
  · subst hs
    rw [row.equals_null d]
    simp [Scalar.test, passes]
  · simp [Scalar.test, passes, hs]

/-- In a list, nothing is equal to a value that is nothing. -/
theorem passes_among_eq_true {column : List (List Char)} {ss : List Scalar} :
    row.passes column
        (.among (ss.map fun s ↦ tokens d.capabilities.backslashEscapes (d.inlineText 0 s))) =
        some true ↔
      ∃ s ∈ ss, row.equals column (tokens d.capabilities.backslashEscapes (d.inlineText 0 s)) =
        some true := by
  have hor (ts : List (Option Bool)) : BoolOp.or.truth ts = some true ↔ some true ∈ ts :=
    BoolOp.truth_eq_not_neutral
  rw [passes, hor]
  simp

theorem passes_among_eq_false {column : List (List Char)} {ss : List Scalar} :
    row.passes column
        (.among (ss.map fun s ↦ tokens d.capabilities.backslashEscapes (d.inlineText 0 s))) =
        some false ↔
      ∀ s ∈ ss, row.equals column (tokens d.capabilities.backslashEscapes (d.inlineText 0 s)) =
        some false := by
  have hor (ts : List (Option Bool)) : BoolOp.or.truth ts = some false ↔ ∀ t ∈ ts, t = some false :=
    BoolOp.truth_eq_neutral
  rw [passes, hor]
  simp

/-- Whether a column is in the list of nothing alone is unknown. -/
theorem truth_null_list (hd : d ∈ Registry.standard.dialects) (isNegated : Bool)
    {kind : CollectionKind}
    (h : ((Node.compare column (.equality isNegated)
      (.collection kind ([.null].map .scalar))).write d).Adds true held sql held') :
    row.truth d sql = none := by
  rw [row.truth_membership hd isNegated h, passes, List.map_singleton, List.map_singleton,
    row.equals_null d]
  rfl

section

variable {kind : CollectionKind} {values : List Scalar} {listed each : Rendered}

include hd

theorem truth_or_eq_true
    (hlisted : (Node.compare column .eq (.collection kind (values.map .scalar))).render d true =
      .ok listed)
    (heach : (Node.combine .or (values.map fun v ↦ .compare column .eq (.scalar v))).render d true =
      .ok each) :
    row.truth d each.sql = some true ↔
      row.truth d listed.sql = some true ∨ Scalar.null ∈ values ∧
        row.column (tokens d.capabilities.backslashEscapes (d.quote column)) = none := by
  have hmembership := row.truth_membership hd false (Node.adds_of_render hlisted)
  have hmemberwise := row.truth_memberwise hd false (Node.adds_of_render heach)
  simp only [Bool.xor_false, Option.map_id_fun', id_eq] at hmembership hmemberwise
  rw [hmembership, hmemberwise, row.passes_among_eq_true]
  refine BoolOp.truth_eq_not_neutral.trans ?_
  simp only [List.mem_map, BoolOp.neutral, Bool.not_false, row.passes_test_eq_some]
  constructor
  · rintro ⟨s, hs, hequals | ⟨rfl, hcolumn⟩⟩
    · exact .inl ⟨s, hs, hequals⟩
    · exact .inr ⟨hs, Option.isNone_iff_eq_none.mp hcolumn⟩
  · rintro (⟨s, hs, hequals⟩ | ⟨hnull, hcolumn⟩)
    · exact ⟨s, hs, .inl hequals⟩
    · exact ⟨.null, hnull, .inr ⟨rfl, Option.isNone_iff_eq_none.mpr hcolumn⟩⟩

theorem truth_not_in_eq_true
    (hlisted : (Node.compare column .neq (.collection kind (values.map .scalar))).render d true =
      .ok listed)
    (heach : (Node.combine .and (values.map fun v ↦ .compare column .neq (.scalar v))).render d
      true = .ok each) :
    row.truth d listed.sql = some true ↔
      row.truth d each.sql = some true ∧ Scalar.null ∉ values := by
  have hmembership := row.truth_membership hd true (Node.adds_of_render hlisted)
  have hmemberwise := row.truth_memberwise hd true (Node.adds_of_render heach)
  have hnot (t : Option Bool) : t.map (· ^^ true) = some true ↔ t = some false := by
    cases t with
    | none => simp
    | some b => cases b <;> simp
  have hand : BoolOp.and.truth (values.map fun s ↦
      (row.passes (tokens d.capabilities.backslashEscapes (d.quote column)) (s.test d)).map
        (· ^^ true)) = some true ↔
      ∀ s ∈ values,
        row.passes (tokens d.capabilities.backslashEscapes (d.quote column)) (s.test d) =
          some false := by
    refine BoolOp.truth_eq_neutral.trans ?_
    simp only [List.forall_mem_map, BoolOp.neutral, hnot]
  rw [hmembership, hmemberwise, hnot, hand, row.passes_among_eq_false]
  simp only [row.passes_test_eq_some]
  constructor
  · intro h
    refine ⟨fun s hs ↦ .inl (h s hs), fun hnull ↦ ?_⟩
    have hequals := h .null hnull
    rw [row.equals_null d] at hequals
    cases hequals
  · rintro ⟨h, hnull⟩ s hs
    obtain hequals | ⟨rfl, -⟩ := h s hs
    · exact hequals
    · exact absurd hs hnull

end

/-- A list and its members one by one part only where nothing is among the values: a NULL column is
then found one by one but not in the list, and no column at all is found outside the list. -/
theorem truth_membership_iff {V : Type} (row : Row V) {d : Dialect}
    (hd : d ∈ Registry.standard.dialects) (column : String) (kind : CollectionKind)
    (values : List Scalar) :
    (∀ listed each : Rendered,
      (Node.compare column .eq (.collection kind (values.map .scalar))).render d true =
        .ok listed →
      (Node.combine .or (values.map fun v ↦ .compare column .eq (.scalar v))).render d true =
        .ok each →
      (row.truth d each.sql = some true ↔
        row.truth d listed.sql = some true ∨ Scalar.null ∈ values ∧
          row.column (tokens d.capabilities.backslashEscapes (d.quote column)) = none)) ∧
    ∀ listed each : Rendered,
      (Node.compare column .neq (.collection kind (values.map .scalar))).render d true =
        .ok listed →
      (Node.combine .and (values.map fun v ↦ .compare column .neq (.scalar v))).render d true =
        .ok each →
      (row.truth d listed.sql = some true ↔
        row.truth d each.sql = some true ∧ Scalar.null ∉ values) := by
  constructor
  · intro listed each hlisted heach
    exact row.truth_or_eq_true hd hlisted heach
  · intro listed each hlisted heach
    exact row.truth_not_in_eq_true hd hlisted heach

/-- A row where every column and every literal but NULL is `v`. -/
def constant {V : Type} (v : Option V) : Row V where
  column _ := v
  literal literal := if literal = ["NULL".toList] then none else v
  literal_null := rfl
  isSame _ _ := true
  other _ := none

/-- In a row of NULL columns a column is one of the values NULL and 1, but not in their list. -/
theorem truth_membership_of_null_column :
    let row : Row Unit := constant none
    (row.truth .postgres "(\"a\" IS NULL) OR (\"a\" = 1)" = some true ↔
      row.truth .postgres "\"a\" IN (NULL, 1)" = some true ∨ Scalar.null ∈ [.null, .int 1] ∧
        row.column (tokens false (Dialect.postgres.quote "a")) = none) ∧
    (row.truth .postgres "\"a\" NOT IN (NULL, 1)" = some true ↔
      row.truth .postgres "(\"a\" IS NOT NULL) AND (\"a\" != 1)" = some true ∧
        Scalar.null ∉ [.null, .int 1]) := by
  intro row
  have hd : Dialect.postgres ∈ Registry.standard.dialects := by decide
  obtain ⟨heq, hneq⟩ := truth_membership_iff row hd "a" .list [.null, .int 1]
  exact ⟨heq ⟨_, []⟩ ⟨_, []⟩ (by cbv) (by cbv), hneq ⟨_, []⟩ ⟨_, []⟩ (by cbv) (by cbv)⟩

/-- The list of nothing alone has no column in it and none outside it. -/
theorem not_forall_truth_membership :
    (¬∀ (V : Type) (row : Row V), ∀ d ∈ Registry.standard.dialects, ∀ (column : String)
      (values : List Scalar) (listed each : Rendered),
      (Node.compare column .eq (.collection .list (values.map .scalar))).render d true =
        .ok listed →
      (Node.combine .or (values.map fun v ↦ .compare column .eq (.scalar v))).render d true =
        .ok each →
      (row.truth d listed.sql = some true ↔ row.truth d each.sql = some true)) ∧
    ¬∀ (V : Type) (row : Row V), ∀ d ∈ Registry.standard.dialects, ∀ (column : String)
      (values : List Scalar) (listed each : Rendered),
      (Node.compare column .neq (.collection .list (values.map .scalar))).render d true =
        .ok listed →
      (Node.combine .and (values.map fun v ↦ .compare column .neq (.scalar v))).render d true =
        .ok each →
      (row.truth d listed.sql = some true ↔ row.truth d each.sql = some true) := by
  have hd : Dialect.mysql ∈ Registry.standard.dialects := by decide
  constructor
  · intro h
    have hlisted : (Node.compare "a" .eq (.collection .list ([.null].map .scalar))).render .mysql
        true = .ok ⟨"\x60a\x60 IN (NULL)", []⟩ := by cbv
    have heach : (Node.combine .or ([.null].map fun v ↦ .compare "a" .eq (.scalar v))).render .mysql
        true = .ok ⟨"(\x60a\x60 IS NULL)", []⟩ := by cbv
    let row : Row Unit := constant none
    have hunknown := row.truth_null_list hd false (Node.adds_of_render hlisted)
    have htrue := row.truth_memberwise hd false (Node.adds_of_render heach)
    have hiff := h Unit row .mysql hd "a" [.null] _ _ hlisted heach
    rw [hunknown] at hiff
    cases hiff.mpr htrue
  · intro h
    have hlisted : (Node.compare "a" .neq (.collection .list ([.null].map .scalar))).render .mysql
        true = .ok ⟨"\x60a\x60 NOT IN (NULL)", []⟩ := by cbv
    have heach : (Node.combine .and ([.null].map fun v ↦ .compare "a" .neq (.scalar v))).render
        .mysql true = .ok ⟨"(\x60a\x60 IS NOT NULL)", []⟩ := by cbv
    let row : Row Unit := constant (some ())
    have hunknown := row.truth_null_list hd true (Node.adds_of_render hlisted)
    have htrue := row.truth_memberwise hd true (Node.adds_of_render heach)
    have hiff := h Unit row .mysql hd "a" [.null] _ _ hlisted heach
    rw [hunknown] at hiff
    cases hiff.mpr htrue

end Surface.Row

end SqlRender
