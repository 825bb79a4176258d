import SqlRender.Proofs.Draft.Node
import SqlRender.Proofs.Node.Masked
import SqlRender.Proofs.Node.Opening

namespace SqlRender

def Chunk.masked : Chunk → Chunk
  | text sql => text sql
  | bind s => bind s.masked
  | bindAll first rest => bindAll first.masked (rest.map Scalar.masked)

namespace Draft

def masked (a : Draft) : Draft := ⟨a.chunks.map Chunk.masked, a.error⟩

variable (d : Dialect)

@[simp] theorem masked_empty : empty.masked = empty := rfl

@[simp] theorem masked_text (sql : String) : (text sql).masked = text sql := rfl

@[simp] theorem masked_append (a b : Draft) : (a ++ b).masked = a.masked ++ b.masked := by
  cases h : a.error with
  | some e =>
    have hmasked : a.masked.error = some e := h
    rw [append_of_error h, append_of_error hmasked]
  | none =>
    have hmasked : a.masked.error = none := h
    rw [append_of_complete h, append_of_complete hmasked, masked, List.map_append]
    rfl

@[simp] theorem masked_require (condition : Bool) (e : Error) :
    (require condition e).masked = require condition e := by
  cases condition <;> rfl

@[simp] theorem masked_parenthesized (a : Draft) :
    a.parenthesized.masked = a.masked.parenthesized := by
  simp only [parenthesized, masked_append, masked_text]

@[simp] theorem masked_sequence (as : List Draft) :
    (sequence as).masked = sequence (as.map masked) := by
  induction as with
  | nil => rfl
  | cons a rest ih => simp only [sequence, masked_append, List.map_cons, ih]

@[simp] theorem masked_join (separator : String) (as : List Draft) :
    (join separator as).masked = join separator (as.map masked) := by
  induction as with
  | nil => rfl
  | cons a rest ih =>
    cases rest with
    | nil => rfl
    | cons b rest =>
      simp only [join, masked_append, masked_text, ih, List.map_cons]

@[simp] theorem masked_ofExcept (sql : Except Error String) :
    (ofExcept sql).masked = ofExcept sql := by
  cases sql <;> rfl

theorem masked_filled (args : List Draft) (segments : List String) :
    (List.zipWith (fun arg segment ↦ arg ++ text segment) args segments).map masked =
      List.zipWith (fun arg segment ↦ arg ++ text segment) (args.map masked) segments := by
  induction args generalizing segments with
  | nil => rfl
  | cons a rest ih =>
    cases segments with
    | nil => rfl
    | cons segment segments =>
      simp only [List.zipWith_cons_cons, List.map_cons, masked_append, masked_text, ih]

@[simp] theorem masked_template (sql : String) (args : List Draft) :
    (template d sql args).masked = template d sql (args.map masked) := by
  unfold template
  split
  · rfl
  · simp only [masked_append, masked_require, masked_text, masked_sequence, masked_filled,
      List.length_map]

@[simp] theorem masked_combination (op : BoolOp) (items : List Draft) :
    (combination d op items).masked = combination d op (items.map masked) := by
  cases items with
  | nil => rfl
  | cons a rest =>
    simp only [combination, List.isEmpty_cons, Bool.false_eq_true, ↓reduceIte, masked_join,
      List.map_cons, masked_parenthesized, List.map_map, Function.comp_def]

@[simp] theorem masked_conditions (keyword : String) (items : List Draft) :
    (conditions keyword items).masked = conditions keyword (items.map masked) := by
  cases items with
  | nil => rfl
  | cons a rest =>
    simp only [conditions, List.isEmpty_cons, Bool.false_eq_true, ↓reduceIte, masked_append,
      masked_text, masked_join, List.map_cons, masked_parenthesized, List.map_map,
      Function.comp_def]

@[simp] theorem masked_operand (isQuery : Bool) (a : Draft) :
    (operand isQuery a).masked = operand isQuery a.masked := by
  cases isQuery
  · rfl
  · exact masked_parenthesized a

@[simp] theorem masked_aliased (aliasName : String) :
    (aliased d aliasName).masked = aliased d aliasName := by
  unfold aliased
  split <;> rfl

@[simp] theorem masked_source (place : SourcePlace) (isQuery : Bool) (aliasName : String)
    (a : Draft) :
    (source d place isQuery aliasName a).masked = source d place isQuery aliasName a.masked := by
  simp only [source, masked_append, masked_require, masked_operand, masked_aliased]

@[simp] theorem masked_member (position : Nat) (isGrouped : Bool) (a : Draft) :
    (member d position isGrouped a).masked = member d position isGrouped a.masked := by
  unfold member
  split
  · rfl
  · split
    · exact masked_parenthesized a
    · simp only [masked_append, masked_text, masked_parenthesized]

@[simp] theorem masked_requireReturning (columns : List String) :
    (requireReturning d columns).masked = requireReturning d columns := masked_require _ _

@[simp] theorem masked_returning (columns : List String) :
    (returning d columns).masked = returning d columns := by
  unfold returning
  split <;> rfl

@[simp] theorem masked_clause (keyword : String) (items : List Draft) :
    (clause keyword items).masked = clause keyword (items.map masked) := by
  cases items with
  | nil => rfl
  | cons a rest =>
    simp only [clause, List.isEmpty_cons, Bool.false_eq_true, ↓reduceIte, masked_append,
      masked_text, masked_join, List.map_cons]

@[simp] theorem masked_count (keyword : String) (n : Option Nat) :
    (count keyword n).masked = count keyword n := by
  cases n with
  | none => rfl
  | some n => simp only [count, masked_append, masked_require, masked_text]

@[simp] theorem masked_names (columns : List String) :
    (names d columns).masked = names d columns := by
  unfold names
  split <;> rfl

end Draft

theorem Value.scalarMembers_masked (vs : List Value) :
    scalarMembers (maskedList vs) = (scalarMembers vs).map (List.map Scalar.masked) := by
  induction vs with
  | nil => rw [maskedList]; rfl
  | cons v rest ih =>
    cases v with
    | scalar s =>
      rw [maskedList, masked, scalarMembers, scalarMembers, ih]
      cases scalarMembers rest <;> rfl
    | node n =>
      rw [maskedList, masked, scalarMembers, scalarMembers, n.typeName_masked]
      rfl
    | _ =>
      rw [maskedList, masked]
      rfl

theorem Value.members_masked (v : Value) : v.masked.members = maskedList v.members := by
  cases v with
  | mapping entries =>
    rw [masked]
    exact map_fst_maskedEntries entries
  | _ =>
    rw [masked]
    simp only [members, maskedList]

theorem Draft.masked_ofMembers (members : List Value) :
    (ofMembers members).masked = ofMembers (Value.maskedList members) := by
  unfold ofMembers
  rw [Value.scalarMembers_masked]
  cases Value.scalarMembers members with
  | error e => rfl
  | ok ss => cases ss <;> rfl

theorem Opening.ofCollection_masked (d : Dialect) (column operator : String) (ifEmpty : Bool)
    (v : Value) :
    ofCollection d column operator ifEmpty v.masked =
      ofCollection d column operator ifEmpty v := by
  rw [ofCollection, ofCollection, Value.members_masked, Value.scalarMembers_masked]
  cases Value.scalarMembers v.members with
  | error e => rfl
  | ok ss => cases ss <;> rfl

theorem Opening.ofComparison_masked (d : Dialect) (column : String) (op : CompareOp)
    (v : Value) : ofComparison d column op v.masked = ofComparison d column op v := by
  cases hv : v.isCollection with
  | true =>
    have hmasked : v.masked.isCollection = true := v.isCollection_masked.trans hv
    rw [ofComparison_of_isCollection hv, ofComparison_of_isCollection hmasked]
    simp only [ofCollection_masked, v.typeName_masked]
  | false =>
    cases v with
    | scalar s =>
      rw [Value.masked]
      cases s with
      | text s => cases op <;> rfl
      | _ => rfl
    | foreign name => rw [Value.masked]
    | node n =>
      rw [Value.masked]
      cases op <;> rfl
    | _ => cases hv

theorem Draft.masked_comparison (d : Dialect) (column : String) (op : CompareOp) (v : Value)
    (operand : Draft) :
    (comparison d column op v operand).masked =
      comparison d column op v.masked operand.masked := by
  unfold comparison
  rw [Opening.ofComparison_masked]
  cases Opening.ofComparison d column op v with
  | error e => rfl
  | ok opening =>
    obtain ⟨sql, hasOperand⟩ := opening
    rw [masked_append]
    cases hasOperand <;> rfl

theorem Node.isGrouped_masked (n : Node) : n.masked.isGrouped = n.isGrouped := by
  cases n with
  | select s =>
    obtain ⟨columns, isDistinct, source, sourceAlias, joins, conditions, groups, having, orders,
      limit, offset⟩ := s
    rw [masked, Select.masked]
    cases orders <;> rw [OrderItem.maskedList] <;> rfl
  | _ => rw [masked] <;> rfl

variable (d : Dialect)

mutual

theorem Value.draft_masked : (v : Value) → v.masked.draft d = (v.draft d).masked
  | .node n => by
    rw [Value.masked, Value.draft, Value.draft, n.isQuery_masked, Node.draft_masked n,
      Draft.masked_operand]
  | .scalar s => by
    rw [Value.masked, Value.draft, Value.draft]
    rfl
  | .collection kind members => by
    rw [Value.masked, Value.draft, Value.draft, Draft.masked_ofMembers]
  | .mapping entries => by
    rw [Value.masked, Value.draft, Value.draft, Draft.masked_ofMembers,
      Value.map_fst_maskedEntries]
  | .foreign name => by
    rw [Value.masked, Value.draft]
    rfl

theorem Value.drafts_masked :
    (vs : List Value) → Value.drafts d (Value.maskedList vs) = (Value.drafts d vs).map Draft.masked
  | [] => by rw [Value.maskedList, Value.drafts, List.map_nil]
  | v :: rest => by
    rw [Value.maskedList, Value.drafts, Value.drafts, List.map_cons, Value.draft_masked v,
      Value.drafts_masked rest]

/-- What a masked node writes is what the node writes, with its texts masked. -/
theorem Node.draft_masked : (n : Node) → n.masked.draft d = (n.draft d).masked
  | .verbatim sql => by
    rw [Node.masked, Node.draft]
    rfl
  | .template sql args => by
    rw [Node.masked, Node.draft, Node.draft, Draft.masked_template, Value.drafts_masked args]
  | .ident name => by
    rw [Node.masked, Node.draft]
    rfl
  | .compare column op value => by
    rw [Node.masked, Node.draft, Node.draft, Draft.masked_comparison, Value.draft_masked value]
  | .combine op items => by
    rw [Node.masked, Node.draft, Node.draft, Draft.masked_combination, Node.drafts_masked items]
  | .aliased source aliasName => by
    rw [Node.masked, Node.draft, Node.draft, Draft.masked_source, Node.draft_masked source,
      source.isQuery_masked]
  | .select body => by rw [Node.masked, Node.draft, Node.draft, Select.draft_masked body]
  | .union kind members => by
    rw [Node.masked, Node.draft, Node.draft, Draft.masked_append, Draft.masked_require,
      Draft.masked_join, Node.memberDrafts_masked 1 members, Node.isEmpty_maskedList]
  | .insert body => by rw [Node.masked, Node.draft, Node.draft, Insert.draft_masked body]
  | .update body => by rw [Node.masked, Node.draft, Node.draft, Update.draft_masked body]
  | .delete body => by rw [Node.masked, Node.draft, Node.draft, Delete.draft_masked body]

theorem Node.drafts_masked :
    (ns : List Node) → Node.drafts d (Node.maskedList ns) = (Node.drafts d ns).map Draft.masked
  | [] => by rw [Node.maskedList, Node.drafts, List.map_nil]
  | n :: rest => by
    rw [Node.maskedList, Node.drafts, Node.drafts, List.map_cons, Node.draft_masked n,
      Node.drafts_masked rest]

theorem Node.memberDrafts_masked (position : Nat) :
    (ns : List Node) →
      Node.memberDrafts d position (Node.maskedList ns) =
        (Node.memberDrafts d position ns).map Draft.masked
  | [] => by rw [Node.maskedList, Node.memberDrafts, List.map_nil]
  | n :: rest => by
    rw [Node.maskedList, Node.memberDrafts, Node.memberDrafts, List.map_cons,
      Draft.masked_member, Node.draft_masked n, Node.isGrouped_masked,
      Node.memberDrafts_masked (position + 1) rest]

theorem Node.operandDrafts_masked :
    (ns : List Node) →
      Node.operandDrafts d (Node.maskedList ns) = (Node.operandDrafts d ns).map Draft.masked
  | [] => by rw [Node.maskedList, Node.operandDrafts, List.map_nil]
  | n :: rest => by
    rw [Node.maskedList, Node.operandDrafts, Node.operandDrafts, List.map_cons,
      Draft.masked_operand, Node.draft_masked n, n.isQuery_masked,
      Node.operandDrafts_masked rest]

theorem Select.draft_masked : (s : Select) → s.masked.draft d = (s.draft d).masked
  | ⟨columns, isDistinct, source, sourceAlias, joins, conditions, groups, having, orders, limit,
      offset⟩ => by
    have hcolumns : (if columns.isEmpty then Draft.text "*"
          else .join ", " (Node.operandDrafts d columns)).masked =
        if columns.isEmpty then Draft.text "*"
          else .join ", " ((Node.operandDrafts d columns).map Draft.masked) := by
      split
      · rfl
      · exact Draft.masked_join _ _
    simp only [Select.masked, Select.draft, Draft.masked_append, Draft.masked_require,
      Draft.masked_text, hcolumns, Select.sourceDraft_masked sourceAlias source,
      Draft.masked_sequence, Join.drafts_masked joins, Draft.masked_conditions,
      Node.drafts_masked conditions, Draft.masked_clause, Node.operandDrafts_masked groups,
      Node.drafts_masked having, OrderItem.drafts_masked orders, Draft.masked_count,
      Node.isEmpty_maskedList, Node.operandDrafts_masked columns, Node.isSome_maskedOption]

theorem Select.sourceDraft_masked (aliasName : String) :
    (n : Option Node) →
      Select.sourceDraft d aliasName (Node.maskedOption n) =
        (Select.sourceDraft d aliasName n).masked
  | none => by
    rw [Node.maskedOption, Select.sourceDraft]
    rfl
  | some n => by
    rw [Node.maskedOption, Select.sourceDraft, Select.sourceDraft, Draft.masked_append,
      Draft.masked_text, Draft.masked_source, Node.draft_masked n, n.isQuery_masked]

theorem Join.draft_masked : (j : Join) → j.masked.draft d = (j.draft d).masked
  | ⟨kind, source, aliasName, on⟩ => by
    simp only [Join.masked, Join.draft, Draft.masked_append, Draft.masked_require,
      Draft.masked_text, Draft.masked_source, Node.draft_masked source, Node.draft_masked on,
      source.isQuery_masked]

theorem Join.drafts_masked :
    (js : List Join) → Join.drafts d (Join.maskedList js) = (Join.drafts d js).map Draft.masked
  | [] => by rw [Join.maskedList, Join.drafts, List.map_nil]
  | j :: rest => by
    rw [Join.maskedList, Join.drafts, Join.drafts, List.map_cons, Join.draft_masked j,
      Join.drafts_masked rest]

theorem OrderItem.draft_masked : (o : OrderItem) → o.masked.draft d = (o.draft d).masked
  | ⟨item, direction⟩ => by
    cases direction <;>
      simp only [OrderItem.masked, OrderItem.draft, Draft.masked_append, Draft.masked_operand,
        Node.draft_masked item, item.isQuery_masked, Draft.masked_empty, Draft.masked_text]

theorem OrderItem.drafts_masked :
    (os : List OrderItem) →
      OrderItem.drafts d (OrderItem.maskedList os) = (OrderItem.drafts d os).map Draft.masked
  | [] => by rw [OrderItem.maskedList, OrderItem.drafts, List.map_nil]
  | o :: rest => by
    rw [OrderItem.maskedList, OrderItem.drafts, OrderItem.drafts, List.map_cons,
      OrderItem.draft_masked o, OrderItem.drafts_masked rest]

theorem Insert.draft_masked : (s : Insert) → s.masked.draft d = (s.draft d).masked
  | ⟨table, columnNames, rows, query, conflict, returning, _⟩ => by
    have hrows : (if query.isSome then Draft.empty
          else .text " VALUES " ++ Insert.rowsDraft d columnNames true rows).masked =
        if query.isSome then Draft.empty
          else .text " VALUES " ++ (Insert.rowsDraft d columnNames true rows).masked := by
      split
      · rfl
      · exact Draft.masked_append _ _
    simp only [Insert.masked, Insert.draft, Draft.masked_append, Draft.masked_require,
      Draft.masked_requireReturning, Draft.masked_text, Draft.masked_names, hrows,
      Draft.masked_returning, Insert.queryDraft_masked query,
      Insert.rowsDraft_masked columnNames true rows, Insert.conflictDraft_masked table conflict,
      Insert.isEmpty_maskedRows, Node.isSome_maskedOption, Node.isNone_maskedOption,
      Insert.isNone_maskedConflict]

theorem Insert.queryDraft_masked :
    (n : Option Node) →
      Insert.queryDraft d (Node.maskedOption n) = (Insert.queryDraft d n).masked
  | none => by
    rw [Node.maskedOption, Insert.queryDraft]
    rfl
  | some query => by
    rw [Node.maskedOption, Insert.queryDraft, Insert.queryDraft, Draft.masked_append,
      Draft.masked_text, Node.draft_masked query]

theorem Insert.rowsDraft_masked (columnNames : List String) (isFirst : Bool) :
    (rows : List (List Value)) →
      Insert.rowsDraft d columnNames isFirst (Insert.maskedRows rows) =
        (Insert.rowsDraft d columnNames isFirst rows).masked
  | [] => by
    rw [Insert.maskedRows, Insert.rowsDraft]
    rfl
  | row :: rest => by
    cases isFirst <;>
      simp only [Insert.maskedRows, Insert.rowsDraft, Draft.masked_append, Draft.masked_require,
        Draft.masked_empty, Draft.masked_text, Draft.masked_parenthesized, Draft.masked_join,
        Value.drafts_masked row, Insert.rowsDraft_masked columnNames false rest,
        Value.length_maskedList, Bool.false_eq_true, ↓reduceIte]

theorem Insert.conflictDraft_masked (table : String) :
    (conflict : Option OnConflict) →
      Insert.conflictDraft d table (Insert.maskedConflict conflict) =
        (Insert.conflictDraft d table conflict).masked
  | none => by
    rw [Insert.maskedConflict, Insert.conflictDraft]
    rfl
  | some conflict => by
    rw [Insert.maskedConflict, Insert.conflictDraft, Insert.conflictDraft,
      OnConflict.draft_masked table conflict]

theorem OnConflict.draft_masked (table : String) :
    (c : OnConflict) → c.masked.draft d table = (c.draft d table).masked
  | ⟨target, actions, ignore⟩ => by
    rw [OnConflict.masked]
    unfold OnConflict.draft
    split
    · simp only [Draft.masked_append, Draft.masked_require, Draft.masked_text, Draft.masked_join,
        ConflictAction.drafts_masked actions, ConflictAction.isEmpty_maskedList]
    · split
      · simp only [Draft.masked_append, Draft.masked_text, Draft.masked_names]
      · simp only [Draft.masked_append, Draft.masked_require, Draft.masked_text,
          Draft.masked_names, Draft.masked_join, ConflictAction.drafts_masked actions,
          ConflictAction.isEmpty_maskedList]

theorem ConflictAction.draft_masked :
    (a : ConflictAction) → a.masked.draft d = (a.draft d).masked
  | .proposed column => by
    rw [ConflictAction.masked, ConflictAction.draft, Draft.masked_append, Draft.masked_text,
      Draft.masked_ofExcept]
  | .set column value => by
    rw [ConflictAction.masked, ConflictAction.draft, ConflictAction.draft, Draft.masked_append,
      Draft.masked_text, Value.draft_masked value]

theorem ConflictAction.drafts_masked :
    (as : List ConflictAction) →
      ConflictAction.drafts d (ConflictAction.maskedList as) =
        (ConflictAction.drafts d as).map Draft.masked
  | [] => by rw [ConflictAction.maskedList, ConflictAction.drafts, List.map_nil]
  | a :: rest => by
    rw [ConflictAction.maskedList, ConflictAction.drafts, ConflictAction.drafts, List.map_cons,
      ConflictAction.draft_masked a, ConflictAction.drafts_masked rest]

theorem Assignment.draft_masked : (a : Assignment) → a.masked.draft d = (a.draft d).masked
  | ⟨column, value⟩ => by
    rw [Assignment.masked, Assignment.draft, Assignment.draft, Draft.masked_append,
      Draft.masked_text, Value.draft_masked value]

theorem Assignment.drafts_masked :
    (as : List Assignment) →
      Assignment.drafts d (Assignment.maskedList as) = (Assignment.drafts d as).map Draft.masked
  | [] => by rw [Assignment.maskedList, Assignment.drafts, List.map_nil]
  | a :: rest => by
    rw [Assignment.maskedList, Assignment.drafts, Assignment.drafts, List.map_cons,
      Assignment.draft_masked a, Assignment.drafts_masked rest]

theorem Update.draft_masked : (s : Update) → s.masked.draft d = (s.draft d).masked
  | ⟨table, assignments, conditions, returning, _⟩ => by
    simp only [Update.masked, Update.draft, Draft.masked_append, Draft.masked_require,
      Draft.masked_requireReturning, Draft.masked_text, Draft.masked_join,
      Assignment.drafts_masked assignments, Draft.masked_conditions,
      Node.drafts_masked conditions, Draft.masked_returning, Assignment.isEmpty_maskedList]

theorem Delete.draft_masked : (s : Delete) → s.masked.draft d = (s.draft d).masked
  | ⟨table, conditions, returning⟩ => by
    simp only [Delete.masked, Delete.draft, Draft.masked_append, Draft.masked_require,
      Draft.masked_requireReturning, Draft.masked_text, Draft.masked_conditions,
      Node.drafts_masked conditions, Draft.masked_returning]

end

end SqlRender
