import Mathlib
import SqlRender.Proofs.Surface.Condition
import SqlRender.Proofs.Surface.Query

namespace SqlRender

open Surface

namespace Surface

/-- The word ALL behind UNION is a part of the operator. -/
def operator : List (List Char) → UnionKind × List (List Char)
  | [] => (.distinct, [])
  | token :: rest => if isWord "ALL" token then (.all, rest) else (.distinct, token :: rest)

/-- Cuts a text at each UNION outside quotes and parentheses: the members, and the operators between
them. -/
def compound (backslashEscapes : Bool) (sql : String) : List (List (List Char)) × List UnionKind :=
  match (tokens backslashEscapes sql).splitOnP (isWord "UNION") with
  | [] => ([], [])
  | first :: rest =>
    (first :: rest.map fun piece ↦ (operator piece).2, rest.map fun piece ↦ (operator piece).1)

theorem length_compound (backslashEscapes : Bool) (sql : String) :
    (compound backslashEscapes sql).1.length =
      (tokens backslashEscapes sql).countP (isWord "UNION") + 1 := by
  have hlength := length_splitOnP (isWord "UNION") (tokens backslashEscapes sql)
  rw [compound]
  split
  · next h =>
    rw [h] at hlength
    cases hlength
  · next first rest h =>
    rw [h, List.length_cons] at hlength
    rw [List.length_cons, List.length_map, hlength]

/-- The pairs of letters of ORDER, LIMIT and OFFSET. -/
def boundPairs : List (Char × Char) := [('R', 'D'), ('M', 'I'), ('F', 'F')]

/-- The text begins as a query does, or with a parenthesis. -/
def OpensQuery (sql : String) : Prop := ∃ c cs, sql.toList = c :: cs ∧ (c = 'S' ∨ c = '(')

variable {backslashEscapes : Bool}

theorem OpensQuery.append {xs : String} (h : OpensQuery xs) (ys : String) :
    OpensQuery (xs ++ ys) := by
  obtain ⟨c, cs, hxs, hc⟩ := h
  refine ⟨c, cs ++ ys.toList, ?_, hc⟩
  rw [String.toList_append, hxs]
  rfl

theorem OpensQuery.operator_eq {sql : String} (h : OpensQuery sql) :
    operator (tokens backslashEscapes sql) = (.distinct, tokens backslashEscapes sql) := by
  obtain ⟨c, cs, hsql, hc⟩ := h
  have hgap : (Place.isTop {} && isGap c) = false := by
    obtain rfl | rfl := hc <;> rfl
  obtain ⟨token, rest, htokens⟩ := Place.tokens_cons backslashEscapes hgap cs
  have hall : isWord "ALL" (c :: token) = false := by
    refine decide_eq_false fun heq ↦ ?_
    have hhead : c.toUpper = 'A' := (List.cons.inj heq).1
    obtain rfl | rfl := hc <;> revert hhead <;> decide
  rw [tokens, hsql, htokens, operator, hall, if_neg Bool.false_ne_true]

theorem exists_tokens_kind (backslashEscapes : Bool) (kind : UnionKind) :
    ∃ tail, tokens backslashEscapes kind.sql = "UNION".toList :: tail ∧
      (∀ token ∈ tail, isWord "UNION" token = false) ∧
        ∀ sql, OpensQuery sql →
          operator (tail ++ tokens backslashEscapes sql) = (kind, tokens backslashEscapes sql) := by
  cases kind with
  | distinct => exact ⟨[], by rfl, nofun, fun sql h ↦ h.operator_eq⟩
  | all => exact ⟨["ALL".toList], by rfl, by decide, fun sql h ↦ by rfl⟩

/-- Cutting gives back the members that a set operator was written between. -/
theorem compound_intercalate (kind : UnionKind) {sqls : List String} (hne : sqls ≠ [])
    (h : ∀ sql ∈ sqls, IsQuiet backslashEscapes clausePairs sql ∧ OpensQuery sql) :
    compound backslashEscapes ((" " ++ kind.sql ++ " ").intercalate sqls) =
      (sqls.map (tokens backslashEscapes), List.replicate (sqls.length - 1) kind) := by
  obtain ⟨tail, hkind, htail, hoperator⟩ := exists_tokens_kind backslashEscapes kind
  have hlevel : IsLevel backslashEscapes kind.sql := by cases kind <;> rfl
  have hunion : ∀ sql ∈ sqls, ∀ token ∈ tokens backslashEscapes sql,
      isWord "UNION" token = false := by
    have hpair : ('N', 'I') ∈ clausePairs := by decide
    exact fun sql hsql token htoken ↦ (h sql hsql).1.not_isWord (by decide) hpair (by decide) htoken
  cases sqls with
  | nil => exact absurd rfl hne
  | cons first rest =>
    obtain ⟨hfirst, hrest⟩ := List.forall_mem_cons.mp hunion
    obtain ⟨-, hopen⟩ := List.forall_mem_cons.mp h
    have hpieces : ∀ piece ∈ tokens backslashEscapes first ::
          (rest.map (tokens backslashEscapes)).map (tail ++ ·),
        ∀ token ∈ piece, isWord "UNION" token = false := by
      refine List.forall_mem_cons.mpr ⟨hfirst, ?_⟩
      refine List.forall_mem_map.mpr (List.forall_mem_map.mpr fun sql hsql ↦ ?_)
      exact List.forall_mem_append.mpr ⟨htail, hrest sql hsql⟩
    have hcut (sql : String) (hsql : sql ∈ rest) :
        operator (tail ++ tokens backslashEscapes sql) = (kind, tokens backslashEscapes sql) :=
      hoperator sql (hopen sql hsql).2
    rw [compound, tokens_intercalate hlevel fun sql hsql ↦ (h sql hsql).1.level, hkind,
      List.map_cons, intercalate_cons,
      splitOnP_intercalate (by decide) (List.cons_ne_nil _ _) hpieces]
    simp only [List.map_map]
    refine Prod.ext ?_ ?_
    · refine congrArg (_ :: ·) (List.map_congr_left fun sql hsql ↦ ?_)
      exact congrArg Prod.snd (hcut sql hsql)
    · refine List.eq_replicate_iff.mpr ⟨?_, List.forall_mem_map.mpr fun sql hsql ↦ ?_⟩
      · rw [List.length_map]
        rfl
      · exact congrArg Prod.fst (hcut sql hsql)

end Surface

theorem Surface.OpensQuery.says_append {d : Dialect} {a : Draft} (h : a.Says d OpensQuery)
    (b : Draft) : (a ++ b).Says d OpensQuery := by
  intro inlining held sql held' hsql
  obtain ⟨first, mid, rest, hfirst, -, rfl⟩ := Draft.adds_append.mp hsql
  exact (h _ _ _ _ hfirst).append rest

theorem Select.says_opensQuery {d : Dialect} (s : Select) : (s.draft d).Says d OpensQuery := by
  obtain ⟨columns, isDistinct, source, sourceAlias, joins, conditions, groups, having, orders,
    limit, offset⟩ := s
  have hselect : OpensQuery (if isDistinct then "SELECT DISTINCT " else "SELECT ") := by
    cases isDistinct <;> exact ⟨'S', _, rfl, .inl rfl⟩
  rw [draft]
  -- Nothing of what stands behind the keyword matters.
  iterate 9 apply OpensQuery.says_append
  intro inlining held sql held' h
  simp only [Draft.adds_append, Draft.adds_require, Draft.adds_text] at h
  obtain ⟨_, _, _, ⟨_, _, _, ⟨-, rfl, -⟩, ⟨-, rfl, -⟩, rfl⟩, ⟨rfl, -⟩, rfl⟩ := h
  exact hselect

/-- The text of a member at a position, where `sql` is the member's own text. -/
def Dialect.memberText (d : Dialect) (position : Nat) (isGrouped : Bool) (sql : String) : String :=
  if !isGrouped then sql
  else if d = .sqlite then
    "SELECT * FROM (" ++ sql ++ ") AS \"_u" ++ toString position ++ "\""
  else "(" ++ sql ++ ")"

theorem Text.pieces_of_not_mem {sep : Char} {cs : List Char} (h : sep ∉ cs) :
    pieces sep cs = [cs] := by
  induction cs with
  | nil => rfl
  | cons c cs ih =>
    rw [List.mem_cons, not_or] at h
    rw [pieces, if_neg (Ne.symm h.1), ih h.2]

theorem Template.doubled_of_not_mem {quote : Char} {cs : List Char} (h : quote ∉ cs) :
    Text.doubled [quote] 0 cs = cs := by
  rw [doubled_singleton]
  induction cs with
  | nil => rfl
  | cons c cs ih =>
    rw [List.mem_cons, not_or] at h
    rw [List.flatMap_cons, if_neg (Ne.symm h.1), ih h.2]
    rfl

/-- The alias of a derived table has nothing to be doubled. -/
theorem Dialect.quote_derived (position : Nat) :
    sqlite.quote ("_u" ++ toString position) = "\"_u" ++ toString position ++ "\"" := by
  have hname (c : Char) (hletters : c ∉ "_u".toList) (hdigit : c.isDigit = false) :
      c ∉ ("_u" ++ toString position).toList := by
    rw [String.toList_append, List.mem_append, Nat.toString_eq_repr, Nat.toList_repr]
    rintro (h | h)
    · exact hletters h
    · have h := Nat.isDigit_of_mem_toDigits (by decide) (by decide) h
      rw [hdigit] at h
      cases h
  have hstar : ("_u" ++ toString position).toList ≠ ['*'] := by
    rw [String.toList_append]
    exact fun heq ↦ absurd (List.cons.inj heq).1 (by decide)
  have hdoubled := Template.doubled_of_not_mem (hname '"' (by decide) rfl)
  have hquotes : sqlite.identifierQuotes.1.toList = ['"'] ∧
      sqlite.identifierQuotes.2.toList = ['"'] := by decide
  rw [quote, Text.pieces_of_not_mem (hname '.' (by decide) rfl), List.map_singleton,
    List.intercalate_singleton, quotePart, if_neg hstar, hquotes.1, hquotes.2, hdoubled]
  apply String.toList_inj.mp
  rw [String.toList_ofList, String.toList_append, String.toList_append, String.toList_append]
  rfl

theorem Node.memberDrafts_eq_map (d : Dialect) (position : Nat) (ns : List Node) :
    memberDrafts d position ns =
      (ns.zipIdx position).map fun n ↦ .member d n.2 n.1.isGrouped (n.1.draft d) := by
  induction ns generalizing position with
  | nil => simp only [memberDrafts, List.zipIdx_nil, List.map_nil]
  | cons n rest ih => simp only [memberDrafts, List.zipIdx_cons, List.map_cons, ih]

variable {d : Dialect} {inlining : Bool} {held held' : List Value}

theorem Registry.parenthesizedCompound_eq :
    ∀ d ∈ standard.dialects, d.capabilities.parenthesizedCompound = decide (d ≠ .sqlite) :=
  forall_mem_standard (by decide) (by decide) (by decide) (by decide)

variable (hd : d ∈ Registry.standard.dialects)

include hd

theorem Draft.adds_member {position : Nat} {isGrouped : Bool} {a : Draft} {sql : String}
    (h : ((member d position isGrouped a).write d).Adds inlining held sql held') :
    ∃ inside, (a.write d).Adds inlining held inside held' ∧
      sql = d.memberText position isGrouped inside := by
  unfold member at h
  unfold Dialect.memberText
  cases isGrouped with
  | false => exact ⟨sql, h, rfl⟩
  | true =>
    simp only [Bool.not_true, Bool.false_eq_true, ↓reduceIte,
      Registry.parenthesizedCompound_eq d hd, decide_eq_true_eq, ne_eq, ite_not] at h ⊢
    split at h
    · next hsqlite =>
      obtain ⟨_, mid, _, hselect, halias, rfl⟩ := adds_append.mp h
      obtain ⟨_, _, _, hkeyword, hgroup, rfl⟩ := adds_append.mp hselect
      obtain ⟨inside, hinside, rfl⟩ := adds_parenthesized.mp hgroup
      obtain ⟨rfl, rfl⟩ := adds_text.mp hkeyword
      obtain ⟨rfl, rfl⟩ := adds_text.mp halias
      refine ⟨inside, hinside, ?_⟩
      rw [if_pos hsqlite, hsqlite, Dialect.quote_derived]
      have hopen : "SELECT * FROM (" = "SELECT * FROM " ++ "(" := by decide
      have hclose : ") AS \"_u" = ")" ++ (" AS " ++ "\"_u") := by decide
      simp only [hopen, hclose, String.append_assoc]
    · next hsqlite =>
      obtain ⟨inside, hinside, rfl⟩ := adds_parenthesized.mp h
      exact ⟨inside, hinside, (if_neg hsqlite).symm⟩

namespace Node

theorem addInTurn_of_members {members : List Node} {position : Nat} {sqls : List String}
    (h : Writing.AddInTurn inlining ((memberDrafts d position members).map (Draft.write d)) held
      sqls held') :
    ∃ texts, Writing.AddInTurn inlining (members.map (write d)) held texts held' ∧
      sqls = List.zipWith (fun member sql ↦ d.memberText member.2 member.1.isGrouped sql)
        (members.zipIdx position) texts := by
  induction members generalizing position held sqls with
  | nil =>
    rw [memberDrafts] at h
    cases h
    exact ⟨[], .nil _, rfl⟩
  | cons n rest ih =>
    rw [memberDrafts] at h
    cases h with | cons hmember hrest =>
    obtain ⟨text, htext, rfl⟩ := Draft.adds_member hd hmember
    obtain ⟨texts, htexts, rfl⟩ := ih hrest
    rw [write_draft] at htext
    exact ⟨text :: texts, .cons htext htexts, rfl⟩

theorem IsQueryTree.says_member {n : Node} (hn : n.IsQueryTree) (hquery : n.isQuery = true)
    (position : Nat) :
    (Draft.member d position n.isGrouped (n.draft d)).Says d fun sql ↦
      IsQuiet d.capabilities.backslashEscapes clausePairs sql ∧ OpensQuery sql := by
  have hgroup := hn.says_parenthesized hd clausePairs
  intro inlining held sql held' h
  unfold Draft.member at h
  cases hgrouped : n.isGrouped with
  | false =>
    rw [hgrouped, if_pos (by decide)] at h
    cases n with
    | select s =>
      rw [draft] at h
      exact ⟨Select.says_draft hd hn hgrouped _ _ _ _ h, s.says_opensQuery _ _ _ _ h⟩
    | union kind members => cases hgrouped
    | _ => cases hquery
  | true =>
    rw [hgrouped, if_neg (by decide)] at h
    split at h
    · obtain ⟨inside, -, rfl⟩ := Draft.adds_parenthesized.mp h
      exact ⟨hgroup _ _ _ _ h, '(', _, IsNested.toList_parenthesized inside, .inr rfl⟩
    · have hselect : OpensQuery "SELECT * FROM " := ⟨'S', _, rfl, .inl rfl⟩
      have hquiet : IsQuiet d.capabilities.backslashEscapes clausePairs "SELECT * FROM " :=
        .of_isPlain (by decide) (by decide)
      have halias : IsQuiet d.capabilities.backslashEscapes clausePairs " AS " :=
        .of_isPlain (by decide) (by decide)
      have hname := isQuiet_name hd ("_u" ++ toString position)
      have hderived := IsQuiet.additive.says_append
        (IsQuiet.additive.says_append (Draft.says_text hquiet) hgroup)
        (Draft.says_text (IsQuiet.additive.append halias hname))
      have hopens := OpensQuery.says_append
        (OpensQuery.says_append (Draft.says_text (d := d) hselect) (n.draft d).parenthesized)
      exact ⟨hderived _ _ _ _ h, hopens _ _ _ _ _ h⟩

/-- Cut at the set operators, a union has its members in order. -/
theorem compound_union {kind : UnionKind} {members : List Node}
    (hn : (union kind members).IsQueryTree) {text : String}
    (h : ((union kind members).write d).Adds inlining held text held') :
    ∃ texts, Writing.AddInTurn inlining (members.map (write d)) held texts held' ∧
      (let sqls := List.zipWith (fun member sql ↦ d.memberText member.2 member.1.isGrouped sql)
        (members.zipIdx 1) texts
      text = (" " ++ kind.sql ++ " ").intercalate sqls ∧
        compound d.capabilities.backslashEscapes text =
          (sqls.map (tokens d.capabilities.backslashEscapes),
            List.replicate (members.length - 1) kind)) ∧
      (tokens d.capabilities.backslashEscapes text).countP (isWord "UNION") =
          members.length - 1 ∧
        ∀ word ∈ ["ORDER", "LIMIT", "OFFSET"],
          ∀ token ∈ tokens d.capabilities.backslashEscapes text, isWord word token = false := by
  cases hn with | union _ hmembers htrees =>
  rw [← write_draft, draft] at h
  obtain ⟨_, _, _, hrequire, hjoin, rfl⟩ := Draft.adds_append.mp h
  obtain ⟨hne, rfl, rfl⟩ := Draft.adds_require.mp hrequire
  rw [String.empty_append]
  obtain ⟨sqls, hsqls, rfl⟩ := Draft.addInTurn_of_join hjoin
  have hquery : ∀ sql ∈ sqls,
      IsQuiet d.capabilities.backslashEscapes clausePairs sql ∧ OpensQuery sql := by
    rw [memberDrafts_eq_map] at hsqls
    refine hsqls.forall_mem (List.forall_mem_map.mpr (List.forall_mem_map.mpr fun n hn ↦ ?_))
    have hmem : n.1 ∈ members := List.fst_mem_of_mem_zipIdx hn
    exact (htrees _ hmem).says_member hd (hmembers _ hmem) n.2 inlining
  have hlength : sqls.length = members.length := by
    rw [hsqls.length_eq, memberDrafts_eq_map, List.length_map, List.length_map, List.length_zipIdx]
  have hsqlsne : sqls ≠ [] := by
    rintro rfl
    rw [List.isEmpty_iff_length_eq_zero.mpr hlength.symm] at hne
    cases hne
  have hcompound := compound_intercalate kind hsqlsne hquery
  have hcount := length_compound d.capabilities.backslashEscapes
    ((" " ++ kind.sql ++ " ").intercalate sqls)
  rw [hcompound, List.length_map, hlength] at hcount
  -- The operators hold the letters by which UNION is told apart, but not those of the others.
  have hbounds : IsQuiet d.capabilities.backslashEscapes boundPairs
      ((" " ++ kind.sql ++ " ").intercalate sqls) := by
    have hkind : IsQuiet d.capabilities.backslashEscapes boundPairs (" " ++ kind.sql ++ " ") := by
      cases kind <;> exact .of_isPlain (by decide) (by decide)
    exact IsQuiet.additive.intercalate hkind fun sql hsql ↦
      (hquery sql hsql).1.of_subset (by decide)
  obtain ⟨texts, htexts, rfl⟩ := addInTurn_of_members hd hsqls
  refine ⟨texts, htexts, ⟨rfl, ?_⟩, ?_, ?_⟩
  · rw [hcompound, hlength]
  · rw [hcount, Nat.add_sub_cancel]
  · have horder : ('R', 'D') ∈ boundPairs := by decide
    have hlimit : ('M', 'I') ∈ boundPairs := by decide
    have hoffset : ('F', 'F') ∈ boundPairs := by decide
    refine List.forall_mem_cons.mpr ⟨?_, List.forall_mem_cons.mpr ⟨?_, ?_⟩⟩
    · exact fun token htoken ↦ hbounds.not_isWord (by decide) horder (by decide) htoken
    · exact fun token htoken ↦ hbounds.not_isWord (by decide) hlimit (by decide) htoken
    · refine List.forall_mem_singleton.mpr ?_
      exact fun token htoken ↦ hbounds.not_isWord (by decide) hoffset (by decide) htoken

omit hd

/-- A member with a bound of its own, beside one that has the operator in a name. -/
theorem compound_union_of_bounded_member :
    let bounded : Node := .select { source := some (.ident "t"), limit := some 1 }
    let hostile : Node := .select { source := some (.ident "a UNION b") }
    let text := "SELECT * FROM (SELECT * FROM \"t\" LIMIT 1) AS \"_u1\" UNION " ++
      "SELECT * FROM \"a UNION b\""
    ∃ texts, Writing.AddInTurn true [bounded.write .sqlite, hostile.write .sqlite] [] texts [] ∧
      (compound false text).2 = [.distinct] ∧
        (tokens false text).countP (isWord "UNION") = 1 := by
  intro bounded hostile text
  have hd : Dialect.sqlite ∈ Registry.standard.dialects := by decide
  have hbounded : bounded.IsQueryTree :=
    .select (by decide) (by decide) (List.forall_mem_singleton.mpr (.ident "t"))
  have hhostile : hostile.IsQueryTree :=
    .select (by decide) (by decide) (List.forall_mem_singleton.mpr (.ident "a UNION b"))
  have hn : (Node.union .distinct [bounded, hostile]).IsQueryTree := by
    refine .union _ (by decide) (List.forall_mem_cons.mpr ⟨hbounded, ?_⟩)
    exact List.forall_mem_singleton.mpr hhostile
  have h : Writing.Adds true ((union .distinct [bounded, hostile]).write .sqlite) [] text [] := by
    rw [Writing.Adds]
    cbv
  obtain ⟨texts, htexts, ⟨-, hcompound⟩, hcount, -⟩ := compound_union hd hn h
  exact ⟨texts, htexts, congrArg Prod.snd hcompound, hcount⟩

end Node

end SqlRender
