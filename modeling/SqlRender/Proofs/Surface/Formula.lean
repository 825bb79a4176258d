import SqlRender.Node.Basic
import SqlRender.Proofs.Surface.Quiet

namespace SqlRender

/-- The truth value of a list, that of an empty one being neutral. -/
def BoolOp.value : BoolOp → List Bool → Bool
  | and, bs => bs.all id
  | or, bs => bs.any id

namespace Surface

/-- Leaves under any nesting of AND and OR. -/
inductive Formula (α : Type) where
  | leaf (a : α)
  | const (b : Bool)
  | combine (op : BoolOp) (items : List (Formula α))

namespace Formula

variable {α β : Type}

theorem induct {P : Formula α → Prop} (leaf : ∀ a, P (leaf a)) (const : ∀ b, P (const b))
    (combine : ∀ op items, (∀ t ∈ items, P t) → P (combine op items)) : ∀ t, P t
  | .leaf a => leaf a
  | .const b => const b
  | .combine op items => combine op items fun t _ ↦ induct leaf const combine t

def map (f : α → β) : Formula α → Formula β
  | leaf a => leaf (f a)
  | const b => const b
  | combine op items => combine op (items.map (map f))

def leaves : Formula α → List α
  | leaf a => [a]
  | const _ => []
  | combine _ items => items.flatMap leaves

def eval (truth : α → Bool) : Formula α → Bool
  | leaf a => truth a
  | const b => b
  | combine op items => op.value (items.map (eval truth))

/-- Of one item nothing but the item can be seen, and of none the neutral truth value. -/
def collapse (op : BoolOp) : List (Formula α) → Formula α
  | [] => const (op = .and)
  | [t] => t
  | items => combine op items

/-- What can be seen of a tree where some leaves are truth values. -/
def visible (constant? : α → Option Bool) : Formula α → Formula α
  | leaf a => (constant? a).elim (leaf a) const
  | const b => const b
  | combine op items => collapse op (items.map (visible constant?))

theorem map_collapse (f : α → β) (op : BoolOp) (items : List (Formula α)) :
    (collapse op items).map f = collapse op (items.map (map f)) := by
  match items with
  | [] => simp only [collapse, map, List.map_nil]
  | [t] => rfl
  | t :: t' :: rest => simp only [collapse, map, List.map_cons]

theorem leaves_collapse (op : BoolOp) (items : List (Formula α)) :
    (collapse op items).leaves = items.flatMap leaves := by
  match items with
  | [] => rw [collapse, leaves, List.flatMap_nil]
  | [t] => rw [collapse, List.flatMap_singleton]
  | t :: t' :: rest => simp only [collapse, leaves]

theorem eval_collapse (truth : α → Bool) (op : BoolOp) (items : List (Formula α)) :
    (collapse op items).eval truth = op.value (items.map (eval truth)) := by
  match items with
  | [] =>
    rw [collapse, eval]
    cases op <;> rfl
  | [t] => cases op <;> simp [collapse, BoolOp.value]
  | t :: t' :: rest => simp only [collapse, eval]

theorem eval_map (f : α → β) (truth : β → Bool) (t : Formula α) :
    (t.map f).eval truth = t.eval (truth ∘ f) := by
  induction t using induct with
  | leaf a => simp only [map, eval, Function.comp_apply]
  | const b => simp only [map, eval]
  | combine op items ih =>
    rw [map, eval, eval, List.map_map]
    exact congrArg op.value (List.map_congr_left ih)

theorem eval_visible (constant? : α → Option Bool) (truth : α → Bool) (t : Formula α) :
    (t.visible constant?).eval truth = t.eval fun a ↦ (constant? a).getD (truth a) := by
  induction t using induct with
  | leaf a =>
    rw [visible, eval]
    cases constant? a with
    | none => simp only [Option.elim_none, eval, Option.getD_none]
    | some b => simp only [Option.elim_some, eval, Option.getD_some]
  | const b => simp only [visible, eval]
  | combine op items ih =>
    rw [visible, eval_collapse, eval, List.map_map]
    exact congrArg op.value (List.map_congr_left ih)

end Formula

open Formula

theorem map_attach_eq {α β : Type} {xs : List α} {f : { x // x ∈ xs } → β} {g : α → β}
    (h : ∀ x, f x = g x.1) : xs.attach.map f = xs.map g :=
  (List.map_congr_left fun x _ ↦ h x).trans List.attach_map_val

variable (d : Dialect)

/-- Tokens that are no parentheses are a truth value of the dialect or a leaf. -/
def atom (ts : List (List Char)) : Formula (List (List Char)) :=
  if ts = tokens d.capabilities.backslashEscapes (d.boolLiteral true) then const true
  else if ts = tokens d.capabilities.backslashEscapes (d.boolLiteral false) then const false
  else leaf ts

/-- What stands in the parentheses, where there is nothing else. -/
def inside? : List (List Char) → Option (List Char)
  | [c :: rest] => if c = '(' then some rest.dropLast else none
  | _ => none

theorem length_lt_of_inside? {cs : List Char} {alternative ts : List (List Char)}
    {inside : List Char} {backslashEscapes : Bool} {p q : List Char → Bool}
    (halternative : alternative ∈ (Place.tokens backslashEscapes {} cs).splitOnP p)
    (hts : ts ∈ alternative.splitOnP q) (h : inside? ts = some inside) :
    inside.length < cs.length := by
  unfold inside? at h
  split at h
  · next c rest =>
    split at h
    · cases h
      have htoken : c :: rest ∈ Place.tokens backslashEscapes {} cs :=
        subset_of_mem_splitOnP halternative (subset_of_mem_splitOnP hts List.mem_cons_self)
      have hlength := Place.length_le_of_mem_tokens _ htoken
      rw [List.length_cons] at hlength
      rw [List.length_dropLast]
      omega
    · cases h
  · cases h

/-- Reads characters by the grammar of conditions: AND binds tighter than OR, and what stands in
parentheses is read by itself. -/
def readChars (cs : List Char) : Formula (List (List Char)) :=
  collapse .or
    (((Place.tokens d.capabilities.backslashEscapes {} cs).splitOnP (isWord "OR")).attach.map
      fun ⟨alternative, halternative⟩ ↦
        collapse .and ((alternative.splitOnP (isWord "AND")).attach.map fun ⟨ts, hts⟩ ↦
          match h : inside? ts with
          | some inside =>
            have := length_lt_of_inside? halternative hts h
            readChars inside
          | none => atom d ts))
termination_by cs.length

def factor (ts : List (List Char)) : Formula (List (List Char)) :=
  match inside? ts with
  | some inside => readChars d inside
  | none => atom d ts

def conjunction (ts : List (List Char)) : Formula (List (List Char)) :=
  collapse .and ((ts.splitOnP (isWord "AND")).map (factor d))

def read (sql : String) : Formula (List (List Char)) := readChars d sql.toList

theorem read_eq (sql : String) :
    read d sql = collapse .or
      (((tokens d.capabilities.backslashEscapes sql).splitOnP (isWord "OR")).map
        (conjunction d)) := by
  rw [read, readChars]
  refine congrArg (collapse .or) (map_attach_eq fun ⟨alternative, _⟩ ↦ ?_)
  refine congrArg (collapse .and) (map_attach_eq fun ⟨ts, _⟩ ↦ ?_)
  simp only [factor]
  split
  · next h => rw [h]
  · next h => rw [h]

variable {d} {sql : String}

/-- Without the words between conditions a text is one factor. -/
theorem read_of_isQuiet (h : IsQuiet d.capabilities.backslashEscapes keywordPairs sql) :
    read d sql = factor d (tokens d.capabilities.backslashEscapes sql) := by
  have hpairs : ('O', 'R') ∈ keywordPairs ∧ ('N', 'D') ∈ keywordPairs := by decide
  have hor : ∀ token ∈ tokens d.capabilities.backslashEscapes sql, isWord "OR" token = false :=
    fun _ htoken ↦ h.not_isWord (by decide) hpairs.1 (by decide) htoken
  have hand : ∀ token ∈ tokens d.capabilities.backslashEscapes sql, isWord "AND" token = false :=
    fun _ htoken ↦ h.not_isWord (by decide) hpairs.2 (by decide) htoken
  rw [read_eq, List.splitOnP_eq_singleton hor, List.map_singleton, collapse, conjunction,
    List.splitOnP_eq_singleton hand, List.map_singleton, collapse]

theorem factor_parenthesized (sql : String) :
    factor d (group sql) = read d sql := by
  rw [factor, group, inside?, if_pos rfl, List.dropLast_concat, read]

/-- Texts in parentheses between the words are read one by one. -/
theorem read_join (op : BoolOp) {sqls : List String} (hne : sqls ≠ [])
    (h : ∀ sql ∈ sqls, IsNested d.capabilities.backslashEscapes sql) :
    read d ((" " ++ op.sql ++ " ").intercalate (sqls.map fun sql ↦ "(" ++ sql ++ ")")) =
      collapse op (sqls.map (read d)) := by
  have htokens : tokens d.capabilities.backslashEscapes
        ((" " ++ op.sql ++ " ").intercalate (sqls.map fun sql ↦ "(" ++ sql ++ ")")) =
      [op.sql.toList].intercalate (sqls.map group) := by
    have hlevel : IsLevel d.capabilities.backslashEscapes op.sql := by cases op <;> rfl
    have hop : tokens d.capabilities.backslashEscapes op.sql = [op.sql.toList] := by
      cases op <;> rfl
    rw [tokens_intercalate hlevel (List.forall_mem_map.mpr fun sql hsql ↦
      (h sql hsql).isLevel_parenthesized), hop, List.map_map]
    refine congrArg _ (List.map_congr_left fun sql hsql ↦ ?_)
    exact (h sql hsql).tokens_parenthesized
  have hgroups : sqls.map group ≠ [] := fun hnil ↦ hne (List.map_eq_nil_iff.mp hnil)
  have hgroup (word : String) (hword : word.toList.head? ≠ some '(') :
      ∀ piece ∈ sqls.map group, ∀ token ∈ piece, isWord word token = false := by
    refine List.forall_mem_map.mpr fun sql _ ↦ List.forall_mem_singleton.mpr ?_
    refine decide_eq_false fun heq ↦ hword ?_
    rw [← heq]
    rfl
  have hread : (sqls.map group).map (factor d) = sqls.map (read d) := by
    rw [List.map_map]
    exact List.map_congr_left fun sql _ ↦ factor_parenthesized sql
  rw [read_eq, htokens]
  cases op with
  | or =>
    have hconjunction : (sqls.map group).map (conjunction d) = (sqls.map group).map (factor d) := by
      refine List.map_congr_left fun piece hpiece ↦ ?_
      rw [conjunction, List.splitOnP_eq_singleton (hgroup "AND" (by decide) piece hpiece),
        List.map_singleton, collapse]
    rw [splitOnP_intercalate (by decide) hgroups (hgroup "OR" (by decide)), hconjunction, hread]
  | and =>
    have hor : ∀ token ∈ [BoolOp.and.sql.toList].intercalate (sqls.map group),
        isWord "OR" token = false := by
      intro token htoken
      obtain rfl | ⟨piece, hpiece, htoken⟩ := mem_of_mem_intercalate htoken
      · rfl
      · exact hgroup "OR" (by decide) piece hpiece token htoken
    rw [List.splitOnP_eq_singleton hor, List.map_singleton, collapse, conjunction,
      splitOnP_intercalate (by decide) hgroups (hgroup "AND" (by decide)), hread]

variable (hd : d ∈ Registry.standard.dialects)

include hd

/-- A text that begins as a name does is no truth value and stands in no parentheses. -/
theorem read_of_head (h : IsQuiet d.capabilities.backslashEscapes keywordPairs sql) {c : Char}
    {cs : List Char} (hsql : sql.toList = c :: cs) (hc : Template.isQuote c = true ∨ c = '*') :
    read d sql = leaf (tokens d.capabilities.backslashEscapes sql) := by
  have hgap : isGap c = false := by
    obtain hquote | rfl := hc
    · simp only [Template.isQuote, Bool.or_eq_true, decide_eq_true_eq] at hquote
      obtain (rfl | rfl) | rfl := hquote <;> rfl
    · rfl
  have hstart : (Place.isTop {} && isGap c) = false := hgap
  obtain ⟨token, rest, htokens⟩ := Place.tokens_cons d.capabilities.backslashEscapes hstart cs
  have hopen : c ≠ '(' := by
    rintro rfl
    revert hc
    decide
  have hliteral : ∀ d ∈ Registry.standard.dialects, ∀ b,
      ((tokens d.capabilities.backslashEscapes (d.boolLiteral b)).head?.bind List.head?).all
        (fun c ↦ !Template.isQuote c && c ≠ '*') = true :=
    Registry.forall_mem_standard (by decide) (by decide) (by decide) (by decide)
  have hne (b : Bool) :
      (c :: token) :: rest ≠ tokens d.capabilities.backslashEscapes (d.boolLiteral b) := by
    intro heq
    have hfirst := hliteral d hd b
    rw [← heq] at hfirst
    have hnot : (!Template.isQuote c && decide (c ≠ '*')) = true := hfirst
    obtain hc | rfl := hc
    · rw [hc] at hnot
      cases hnot
    · cases hnot
  rw [read_of_isQuiet h, tokens, hsql, htokens]
  have hinside : inside? ((c :: token) :: rest) = none := by
    cases rest with
    | nil => rw [inside?, if_neg hopen]
    | cons => rfl
  rw [factor, hinside, atom, if_neg (hne true), if_neg (hne false)]

theorem read_boolLiteral (b : Bool) : read d (d.boolLiteral b) = const b := by
  have hinside : ∀ d ∈ Registry.standard.dialects, ∀ b,
      inside? (tokens d.capabilities.backslashEscapes (d.boolLiteral b)) = none :=
    Registry.forall_mem_standard (by decide) (by decide) (by decide) (by decide)
  have hne : ∀ d ∈ Registry.standard.dialects,
      tokens d.capabilities.backslashEscapes (d.boolLiteral false) ≠
        tokens d.capabilities.backslashEscapes (d.boolLiteral true) :=
    Registry.forall_mem_standard (by decide) (by decide) (by decide) (by decide)
  rw [read_of_isQuiet (isQuiet_boolLiteral hd b), factor, hinside d hd b, atom]
  cases b with
  | true => exact if_pos rfl
  | false => rw [if_neg (hne d hd), if_pos rfl]

end Surface

end SqlRender
