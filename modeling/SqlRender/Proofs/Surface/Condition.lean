import Mathlib
import SqlRender.Proofs.Surface.Formula
import SqlRender.Proofs.Surface.Written

namespace SqlRender

open Surface Formula

namespace Writing.AddInTurn

variable {inlining : Bool} {ws ws' : List (Writing Unit)} {held mid held' : List Value}
  {sqls sqls' : List String}

theorem append (h : AddInTurn inlining ws held sqls mid)
    (h' : AddInTurn inlining ws' mid sqls' held') :
    AddInTurn inlining (ws ++ ws') held (sqls ++ sqls') held' := by
  induction h with
  | nil => exact h'
  | cons h _ ih => exact .cons h (ih h')

theorem length_eq (h : AddInTurn inlining ws held sqls held') : sqls.length = ws.length := by
  induction h with
  | nil => rfl
  | cons _ _ ih => exact congrArg (· + 1) ih

theorem forall_mem {P : String → Prop} (h : AddInTurn inlining ws held sqls held')
    (hws : ∀ w ∈ ws, ∀ held sql held', w.Adds inlining held sql held' → P sql) :
    ∀ sql ∈ sqls, P sql := by
  induction h with
  | nil => exact fun _ hsql ↦ absurd hsql List.not_mem_nil
  | cons h _ ih =>
    obtain ⟨hw, hrest⟩ := List.forall_mem_cons.mp hws
    exact List.forall_mem_cons.mpr ⟨hw _ _ _ h, ih hrest⟩

end Writing.AddInTurn

theorem Draft.addInTurn_of_parenthesized {d : Dialect} {inlining : Bool} {as : List Draft}
    {held held' : List Value} {sqls : List String}
    (h : Writing.AddInTurn inlining ((as.map parenthesized).map (write d)) held sqls held') :
    ∃ insides, Writing.AddInTurn inlining (as.map (write d)) held insides held' ∧
      sqls = insides.map fun sql ↦ "(" ++ sql ++ ")" := by
  induction as generalizing held sqls with
  | nil =>
    cases h
    exact ⟨[], .nil _, rfl⟩
  | cons a rest ih =>
    cases h with | cons h hrest =>
    obtain ⟨inside, hinside, rfl⟩ := adds_parenthesized.mp h
    obtain ⟨insides, hinsides, rfl⟩ := ih hrest
    exact ⟨inside :: insides, .cons hinside hinsides, rfl⟩

namespace Node

theorem writers_eq_map (d : Dialect) (ns : List Node) : Node.writers d ns = ns.map (write d) := by
  induction ns with
  | nil => simp only [writers, List.map_nil]
  | cons n rest ih => simp only [writers, List.map_cons, ih]

/-- A tree of AND and OR over comparisons. -/
inductive IsCondition : Node → Prop
  | compare (column : String) (op : CompareOp) {v : Value} (hv : v.IsRegular) :
    IsCondition (.compare column op v)
  | combine (op : BoolOp) {items : List Node} (h : ∀ item ∈ items, IsCondition item) :
    IsCondition (.combine op items)

def formula : Node → Formula Node
  | .combine op items => .combine op (items.map formula)
  | n => .leaf n

theorem formula_compare (column : String) (op : CompareOp) (v : Value) :
    formula (.compare column op v) = .leaf (.compare column op v) := by
  rw [formula]
  nofun

/-- The truth value of a comparison that compares with nothing. -/
def constant? : Node → Option Bool
  | .compare _ op v => Opening.constant? op v
  | _ => none

theorem IsCondition.isRawFree {n : Node} (h : n.IsCondition) : n.IsRawFree := by
  induction h with
  | compare column op hv => exact isRawFree_compare fun q hq ↦ (hv q hq).2
  | combine op h ih => exact isRawFree_of_parts rfl nofun ih

end Node

variable (d : Dialect) (inlining : Bool)

/-- Read by the grammar of conditions, the text has the nesting of the tree as far as it can be
seen, and each leaf is the text that its comparison adds behind the parameters before it. -/
structure Surface.Recovers (t : Formula Node) (held : List Value) (text : String)
    (held' : List Value) (F : Formula (Node × String)) : Prop where
  text : read d text = F.map fun leaf ↦ tokens d.capabilities.backslashEscapes leaf.2
  tree : F.map Prod.fst = t.visible Node.constant?
  leaves : Writing.AddInTurn inlining (F.leaves.map fun leaf ↦ leaf.1.write d) held
    (F.leaves.map Prod.snd) held'

variable {d inlining}

/-- The text has the truth value of the tree, where a comparison with nothing has its own. -/
theorem Surface.Recovers.eval_eq {t : Formula Node} {held held' : List Value} {text : String}
    {F : Formula (Node × String)} (h : Recovers d inlining t held text held' F)
    (truth : Node → Bool) :
    F.eval (truth ∘ Prod.fst) = t.eval fun leaf ↦ leaf.constant?.getD (truth leaf) := by
  rw [← eval_map, h.tree, eval_visible]

namespace Node

variable {items : List Node} {held held' : List Value}

theorem recovers_items {texts : List String}
    (ih : ∀ item ∈ items, ∀ {held held' text}, (item.write d).Adds inlining held text held' →
      ∃ F, Recovers d inlining item.formula held text held' F)
    (h : Writing.AddInTurn inlining (items.map (write d)) held texts held') :
    ∃ Fs : List (Formula (Node × String)),
      texts.map (read d) =
          Fs.map (map fun leaf ↦ tokens d.capabilities.backslashEscapes leaf.2) ∧
        Fs.map (map Prod.fst) = items.map (fun item ↦ item.formula.visible constant?) ∧
          Writing.AddInTurn inlining ((Fs.flatMap leaves).map fun leaf ↦ leaf.1.write d) held
            ((Fs.flatMap leaves).map Prod.snd) held' := by
  induction items generalizing held texts with
  | nil =>
    cases h
    exact ⟨[], rfl, rfl, .nil _⟩
  | cons item rest ihrest =>
    cases h with | cons hitem hrest =>
    obtain ⟨hih, hihrest⟩ := List.forall_mem_cons.mp ih
    obtain ⟨F, hF⟩ := hih hitem
    obtain ⟨Fs, htexts, htrees, hleaves⟩ := ihrest hihrest hrest
    refine ⟨F :: Fs, ?_, ?_, ?_⟩
    · rw [List.map_cons, List.map_cons, htexts, hF.text]
    · rw [List.map_cons, List.map_cons, htrees, hF.tree]
    · rw [List.flatMap_cons, List.map_append, List.map_append]
      exact hF.leaves.append hleaves

variable (hd : d ∈ Registry.standard.dialects)

include hd

theorem read_combine {op : BoolOp} {text : String} (hitems : ∀ item ∈ items, item.IsRawFree)
    (h : ((combine op items).write d).Adds inlining held text held') :
    ∃ texts, Writing.AddInTurn inlining (items.map (write d)) held texts held' ∧
      read d text = collapse op (texts.map (read d)) := by
  rw [← write_draft, draft, Draft.combination] at h
  cases items with
  | nil =>
    obtain ⟨rfl, rfl⟩ := Draft.adds_text.mp h
    exact ⟨[], .nil _, read_boolLiteral hd _⟩
  | cons item rest =>
    obtain ⟨sqls, hsqls, rfl⟩ := Draft.addInTurn_of_join h
    obtain ⟨texts, htexts, rfl⟩ := Draft.addInTurn_of_parenthesized hsqls
    rw [write_drafts, writers_eq_map] at htexts
    have hnested : ∀ sql ∈ texts, IsNested d.capabilities.backslashEscapes sql := by
      refine htexts.forall_mem (List.forall_mem_map.mpr fun item hitem ↦ ?_)
      rw [← write_draft]
      exact item.says_isNested hd (hitems item hitem) inlining
    have hne : texts ≠ [] := by
      rintro rfl
      cases htexts
    exact ⟨texts, htexts, read_join op hne hnested⟩

theorem recovers_formula {n : Node} (hn : n.IsCondition) {text : String}
    (h : (n.write d).Adds inlining held text held') :
    ∃ F, Recovers d inlining n.formula held text held' F := by
  induction hn generalizing held text held' with
  | @compare column op v hv =>
    have htext := adds_compare hd hv h
    have hvisible : (formula (Node.compare column op v)).visible constant? =
        (Opening.constant? op v).elim (leaf (Node.compare column op v)) const := by
      rw [formula_compare, visible]
      rfl
    cases hconstant : Opening.constant? op v with
    | some b =>
      rw [hconstant] at htext hvisible
      obtain ⟨rfl, rfl⟩ := htext
      refine ⟨const b, ?_, ?_, ?_⟩
      · rw [read_boolLiteral hd, map]
      · rw [hvisible, map]
        rfl
      · rw [leaves]
        exact .nil _
    | none =>
      rw [hconstant] at htext hvisible
      obtain ⟨hquiet, rest, heq⟩ := htext
      obtain ⟨c, cs, hquote, hc⟩ := Registry.toList_quote d hd column
      have hhead : text.toList = c :: (cs ++ rest.toList) := by
        rw [heq, String.toList_append, hquote]
        rfl
      refine ⟨leaf (Node.compare column op v, text), ?_, ?_, ?_⟩
      · rw [read_of_head hd hquiet hhead hc, map]
      · rw [hvisible, map]
        rfl
      · rw [leaves]
        exact .cons h (.nil _)
  | @combine op items hitems ih =>
    obtain ⟨texts, htexts, hread⟩ :=
      read_combine hd (fun item hitem ↦ (hitems item hitem).isRawFree) h
    obtain ⟨Fs, hF, htree, hleaves⟩ := recovers_items ih htexts
    refine ⟨collapse op Fs, ?_, ?_, ?_⟩
    · rw [hread, hF, map_collapse]
    · rw [map_collapse, htree, formula, visible, List.map_map]
      rfl
    · rw [leaves_collapse]
      exact hleaves

/-- Read by the ordinary grammar a condition has the nesting and the truth value of its tree, and
a clause those of all its conditions together. -/
theorem recovers_condition :
    (∀ n : Node, n.IsCondition → ∀ held text held', (n.write d).Adds inlining held text held' →
      ∃ F, Recovers d inlining n.formula held text held' F ∧
        ∀ truth, F.eval (truth ∘ Prod.fst) =
          n.formula.eval fun leaf ↦ leaf.constant?.getD (truth leaf)) ∧
    ∀ keyword items, items ≠ [] → (∀ item ∈ items, IsCondition item) → ∀ held text held',
      (Writing.conditions keyword (Node.writers d items)).Adds inlining held text held' →
      ∃ body F, text = " " ++ keyword ++ " " ++ body ∧
        Recovers d inlining (.combine .and (items.map formula)) held body held' F ∧
          ∀ truth, F.eval (truth ∘ Prod.fst) =
            items.all fun item ↦ item.formula.eval fun leaf ↦ leaf.constant?.getD (truth leaf) := by
  constructor
  · intro n hn held text held' h
    obtain ⟨F, hF⟩ := recovers_formula hd hn h
    exact ⟨F, hF, hF.eval_eq⟩
  · intro keyword items hne hitems held text held' h
    rw [← write_drafts, ← Draft.write_conditions, Draft.conditions, drafts_eq_map,
      List.isEmpty_map, if_neg (mt List.isEmpty_iff.mp hne)] at h
    obtain ⟨first, mid, body, hfirst, hbody, rfl⟩ := Draft.adds_append.mp h
    obtain ⟨rfl, rfl⟩ := Draft.adds_text.mp hfirst
    have hcombine : ((combine .and items).write d).Adds inlining mid body held' := by
      rw [← write_draft, draft, Draft.combination, drafts_eq_map, List.isEmpty_map,
        if_neg (mt List.isEmpty_iff.mp hne)]
      exact hbody
    obtain ⟨F, hF⟩ := recovers_formula hd (.combine .and hitems) hcombine
    rw [formula] at hF
    refine ⟨body, F, rfl, hF, fun truth ↦ ?_⟩
    rw [hF.eval_eq, eval, BoolOp.value, List.map_map, List.all_map]
    rfl

omit hd

/-- A name and a text that hold the words between conditions stay in one leaf. -/
theorem recovers_condition_of_hostile_name :
    let leaf := compare "a AND b" .neq (.scalar (.text "') OR ('"))
    let nothing := compare "c" .eq (.collection .list [])
    (∃ F, Recovers .postgres true
        (.combine .or [.combine .and [.leaf leaf, .combine .and []], .leaf nothing]) []
        "((\"a AND b\" != ''') OR (''') AND (TRUE)) OR (FALSE)" [] F ∧
      ∀ truth, F.eval (truth ∘ Prod.fst) = truth leaf) ∧
    ∃ body F, " HAVING (\"a AND b\" != $2) AND (FALSE)" = " HAVING " ++ body ∧
      Recovers .postgres false (.combine .and [.leaf leaf, .leaf nothing]) [.scalar .null] body
        [.scalar .null, .scalar (.text "') OR ('")] F ∧
      ∀ truth, F.eval (truth ∘ Prod.fst) = false := by
  intro leaf nothing
  have hd : Dialect.postgres ∈ Registry.standard.dialects := by decide
  have hleaf : leaf.IsCondition := .compare _ _ nofun
  have hnothing : nothing.IsCondition := .compare _ _ nofun
  constructor
  · have htree : (combine .or [.combine .and [leaf, .combine .and []], nothing]).IsCondition := by
      refine .combine _ (List.forall_mem_cons.mpr ⟨.combine _ ?_, ?_⟩)
      · exact List.forall_mem_cons.mpr ⟨hleaf, List.forall_mem_singleton.mpr (.combine _ nofun)⟩
      · exact List.forall_mem_singleton.mpr hnothing
    have h : Writing.Adds true
        ((combine .or [.combine .and [leaf, .combine .and []], nothing]).write .postgres) []
        "((\"a AND b\" != ''') OR (''') AND (TRUE)) OR (FALSE)" [] := by
      rw [Writing.Adds]
      cbv
    obtain ⟨F, hF, htruth⟩ := (recovers_condition hd).1 _ htree _ _ _ h
    simp only [formula, List.map_cons, List.map_nil, leaf, nothing, formula_compare] at hF htruth
    refine ⟨F, hF, fun truth ↦ ?_⟩
    rw [htruth]
    simp [eval, BoolOp.value, leaf, constant?, Opening.constant?, Value.isCollection,
      Value.members]
  · have hitems : ∀ item ∈ [leaf, nothing], item.IsCondition :=
      List.forall_mem_cons.mpr ⟨hleaf, List.forall_mem_singleton.mpr hnothing⟩
    have h : Writing.Adds false
        (Writing.conditions "HAVING" (Node.writers .postgres [leaf, nothing])) [.scalar .null]
        " HAVING (\"a AND b\" != $2) AND (FALSE)"
        [.scalar .null, .scalar (.text "') OR ('")] := by
      rw [Writing.Adds]
      cbv
    obtain ⟨body, F, hbody, hF, htruth⟩ :=
      (recovers_condition hd).2 "HAVING" _ (List.cons_ne_nil _ _) hitems _ _ _ h
    simp only [List.map_cons, List.map_nil, leaf, nothing, formula_compare] at hF
    refine ⟨body, F, hbody, hF, fun truth ↦ ?_⟩
    rw [htruth]
    simp [formula_compare, eval, nothing, constant?, Opening.constant?, Value.isCollection,
      Value.members]

end Node

end SqlRender
