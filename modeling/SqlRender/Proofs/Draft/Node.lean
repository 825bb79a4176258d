import SqlRender.Node.Write
import SqlRender.Proofs.Draft.Write

namespace SqlRender

def Draft.comparison (d : Dialect) (column : String) (op : CompareOp) (v : Value)
    (operand : Draft) : Draft :=
  match Opening.ofComparison d column op v with
  | .error e => fail e
  | .ok opening => text opening.sql ++ (if opening.hasOperand then operand else empty)

mutual

def Value.draft (d : Dialect) : Value → Draft
  | .node n => .operand n.isQuery (n.draft d)
  | .scalar s => ⟨[.bind s], none⟩
  | .collection _ members => .ofMembers members
  | .mapping entries => .ofMembers (entries.map Prod.fst)
  | .foreign name => .fail (.unsupportedType name none)

def Value.drafts (d : Dialect) : List Value → List Draft
  | [] => []
  | v :: rest => v.draft d :: Value.drafts d rest

/-- What a node writes, whatever the buffer. -/
def Node.draft (d : Dialect) : Node → Draft
  | .verbatim sql => .text sql
  | .template sql args => .template d sql (Value.drafts d args)
  | .ident name => .text (d.quote name)
  | .compare column op value => .comparison d column op value (value.draft d)
  | .combine op items => .combination d op (Node.drafts d items)
  | .aliased source aliasName => .source d .aliased source.isQuery aliasName (source.draft d)
  | .select body => body.draft d
  | .union kind members =>
    .require (!members.isEmpty) (.missingMembers kind)
      ++ .join (" " ++ kind.sql ++ " ") (Node.memberDrafts d 1 members)
  | .insert body => body.draft d
  | .update body => body.draft d
  | .delete body => body.draft d

def Node.drafts (d : Dialect) : List Node → List Draft
  | [] => []
  | n :: rest => n.draft d :: Node.drafts d rest

def Node.memberDrafts (d : Dialect) (position : Nat) : List Node → List Draft
  | [] => []
  | n :: rest =>
    .member d position n.isGrouped (n.draft d) :: Node.memberDrafts d (position + 1) rest

def Node.operandDrafts (d : Dialect) : List Node → List Draft
  | [] => []
  | n :: rest => .operand n.isQuery (n.draft d) :: Node.operandDrafts d rest

def Select.draft (d : Dialect) : Select → Draft
  | ⟨columns, isDistinct, source, sourceAlias, joins, conditions, groups, having, orders, limit,
      offset⟩ =>
    .require (source.isSome || d.capabilities.sourcelessSelect) (.missingFrom d.name)
      ++ .require (offset.isNone || limit.isSome || d.capabilities.offsetWithoutLimit)
        (.unsupportedFeature .offsetWithoutLimit d.name)
      ++ .text (if isDistinct then "SELECT DISTINCT " else "SELECT ")
      ++ (if columns.isEmpty then .text "*" else .join ", " (Node.operandDrafts d columns))
      ++ Select.sourceDraft d sourceAlias source
      ++ .sequence (Join.drafts d joins)
      ++ .conditions "WHERE" (Node.drafts d conditions)
      ++ .clause " GROUP BY " (Node.operandDrafts d groups)
      ++ .conditions "HAVING" (Node.drafts d having)
      ++ .clause " ORDER BY " (OrderItem.drafts d orders)
      ++ .count " LIMIT " limit
      ++ .count " OFFSET " offset

def Select.sourceDraft (d : Dialect) (aliasName : String) : Option Node → Draft
  | none => .empty
  | some n => .text " FROM " ++ .source d .fromClause n.isQuery aliasName (n.draft d)

def Join.draft (d : Dialect) : Join → Draft
  | ⟨kind, source, aliasName, on⟩ =>
    .require (kind ≠ .full || d.capabilities.fullJoin) (.unsupportedFeature .fullJoin d.name)
      ++ .text (" " ++ kind.sql ++ " JOIN ")
      ++ .source d .join source.isQuery aliasName (source.draft d)
      ++ .text " ON " ++ on.draft d

def Join.drafts (d : Dialect) : List Join → List Draft
  | [] => []
  | j :: rest => j.draft d :: Join.drafts d rest

def OrderItem.draft (d : Dialect) : OrderItem → Draft
  | ⟨item, direction⟩ =>
    .operand item.isQuery (item.draft d)
      ++ (match direction with
        | none => .empty
        | some direction => .text (" " ++ direction.sql))

def OrderItem.drafts (d : Dialect) : List OrderItem → List Draft
  | [] => []
  | o :: rest => o.draft d :: OrderItem.drafts d rest

def Insert.draft (d : Dialect) : Insert → Draft
  | ⟨table, columnNames, rows, query, conflict, returning, _⟩ =>
    .require (table ≠ "") (.missingTable .insert)
      ++ .require (!rows.isEmpty || query.isSome) (.missingValues table)
      ++ .require (rows.isEmpty || query.isNone) .rowsAndQuery
      ++ .require (conflict.isNone || d.capabilities.upsert)
        (.unsupportedFeature .upsert d.name)
      ++ .requireReturning d returning
      ++ .text ("INSERT INTO " ++ d.quote table)
      ++ .names d columnNames
      ++ Insert.queryDraft d query
      ++ (if query.isSome then .empty
        else .text " VALUES " ++ Insert.rowsDraft d columnNames true rows)
      ++ Insert.conflictDraft d table conflict
      ++ .returning d returning

def Insert.queryDraft (d : Dialect) : Option Node → Draft
  | none => .empty
  | some query => .text " " ++ query.draft d

def Insert.rowsDraft (d : Dialect) (columnNames : List String) (isFirst : Bool) :
    List (List Value) → Draft
  | [] => .empty
  | row :: rest =>
    .require (columnNames.isEmpty || row.length = columnNames.length)
        (.argumentCount columnNames.length row.length .insertRow)
      ++ (if isFirst then .empty else .text ", ")
      ++ (Draft.join ", " (Value.drafts d row)).parenthesized
      ++ Insert.rowsDraft d columnNames false rest

def Insert.conflictDraft (d : Dialect) (table : String) : Option OnConflict → Draft
  | none => .empty
  | some conflict => conflict.draft d table

def OnConflict.draft (d : Dialect) (table : String) : OnConflict → Draft
  | ⟨target, actions, ignore⟩ =>
    match d.capabilities.upsertStyle with
    | some .onDuplicateKey =>
      .require (!ignore) (.unsupportedFeature .upsertDoNothing d.name)
        ++ .require (!actions.isEmpty) (.noAssignments table)
        ++ .text " ON DUPLICATE KEY UPDATE "
        ++ .join ", " (ConflictAction.drafts d actions)
    | _ =>
      if ignore then .text " ON CONFLICT" ++ .names d target ++ .text " DO NOTHING"
      else
        .require (!target.isEmpty) (.missingConflictTarget d.name)
          ++ .require (!actions.isEmpty) (.noAssignments table)
          ++ .text " ON CONFLICT" ++ .names d target ++ .text " DO UPDATE SET "
          ++ .join ", " (ConflictAction.drafts d actions)

def ConflictAction.draft (d : Dialect) : ConflictAction → Draft
  | .proposed column =>
    .text (d.quote column ++ " = ") ++ .ofExcept (d.proposed (d.quote column))
  | .set column value => .text (d.quote column ++ " = ") ++ value.draft d

def ConflictAction.drafts (d : Dialect) : List ConflictAction → List Draft
  | [] => []
  | a :: rest => a.draft d :: ConflictAction.drafts d rest

def Assignment.draft (d : Dialect) : Assignment → Draft
  | ⟨column, value⟩ => .text (d.quote column ++ " = ") ++ value.draft d

def Assignment.drafts (d : Dialect) : List Assignment → List Draft
  | [] => []
  | a :: rest => a.draft d :: Assignment.drafts d rest

def Update.draft (d : Dialect) : Update → Draft
  | ⟨table, assignments, conditions, returning, _⟩ =>
    .require (table ≠ "") (.missingTable .update)
      ++ .require (!assignments.isEmpty) (.noAssignments table)
      ++ .requireReturning d returning
      ++ .text ("UPDATE " ++ d.quote table ++ " SET ")
      ++ .join ", " (Assignment.drafts d assignments)
      ++ .conditions "WHERE" (Node.drafts d conditions)
      ++ .returning d returning

def Delete.draft (d : Dialect) : Delete → Draft
  | ⟨table, conditions, returning⟩ =>
    .require (table ≠ "") (.missingTable .delete)
      ++ .requireReturning d returning
      ++ .text ("DELETE FROM " ++ d.quote table)
      ++ .conditions "WHERE" (Node.drafts d conditions)
      ++ .returning d returning

end

variable (d : Dialect)

@[simp] theorem Draft.write_comparison (column : String) (op : CompareOp) (v : Value)
    (operand : Draft) :
    (comparison d column op v operand).write d =
      Writing.comparison d column op v (operand.write d) := by
  unfold comparison Writing.comparison
  cases Opening.ofComparison d column op v with
  | error e => exact write_fail d e
  | ok opening =>
    obtain ⟨sql, hasOperand⟩ := opening
    cases hasOperand
    · simp only [write_append, write_text, write_empty, Bool.false_eq_true, ↓reduceIte]
      rfl
    · simp only [write_append, write_text, ↓reduceIte]
      rfl

theorem Draft.write_foreign (name : String) :
    (fail (.unsupportedType name none)).write d = Writing.value d (.foreign name) := by
  rw [write_fail]
  refine Writing.ext_into fun b ↦ ?_
  cases hb : b.inlining with
  | true =>
    rw [Writing.into_value_of_inlining d _ hb]
    rfl
  | false =>
    rw [Writing.into_value_of_binding d _ hb]
    rfl

theorem Draft.write_bind (s : Scalar) :
    (Draft.mk [.bind s] none).write d = Writing.value d (.scalar s) := by
  simp only [write, List.map_cons, List.map_nil, Writing.sequence, Chunk.write, bind_pure_unit]

mutual

theorem Value.write_draft : (v : Value) → (v.draft d).write d = v.write d
  | .node n => by rw [Value.draft, Value.write, Draft.write_operand, Node.write_draft n]
  | .scalar s => by rw [Value.draft, Value.write, Draft.write_bind]
  | .collection kind members => by rw [Value.draft, Value.write, Draft.write_ofMembers d kind]
  | .mapping entries => by
    rw [Value.draft, Value.write, Draft.write_ofMembers d .list]
    rfl
  | .foreign name => by rw [Value.draft, Value.write, Draft.write_foreign]

theorem Value.write_drafts :
    (vs : List Value) → (Value.drafts d vs).map (Draft.write d) = Value.writers d vs
  | [] => by rw [Value.drafts, Value.writers, List.map_nil]
  | v :: rest => by
    rw [Value.drafts, Value.writers, List.map_cons, Value.write_draft v, Value.write_drafts rest]

/-- Writing a node is writing its draft, into any buffer. -/
theorem Node.write_draft : (n : Node) → (n.draft d).write d = n.write d
  | .verbatim sql => by rw [Node.draft, Node.write, Draft.write_text]
  | .template sql args => by
    rw [Node.draft, Node.write, Draft.write_template, Value.write_drafts args]
  | .ident name => by rw [Node.draft, Node.write, Draft.write_text]
  | .compare column op value => by
    rw [Node.draft, Node.write, Draft.write_comparison, Value.write_draft value]
  | .combine op items => by
    rw [Node.draft, Node.write, Draft.write_combination, Node.write_drafts items]
  | .aliased source aliasName => by
    rw [Node.draft, Node.write, Draft.write_source, Node.write_draft source]
  | .select body => by rw [Node.draft, Node.write, Select.write_draft body]
  | .union kind members => by
    rw [Node.draft, Node.write, Draft.write_append, Draft.write_require, Draft.write_join,
      Node.write_memberDrafts 1 members]
  | .insert body => by rw [Node.draft, Node.write, Insert.write_draft body]
  | .update body => by rw [Node.draft, Node.write, Update.write_draft body]
  | .delete body => by rw [Node.draft, Node.write, Delete.write_draft body]

theorem Node.write_drafts :
    (ns : List Node) → (Node.drafts d ns).map (Draft.write d) = Node.writers d ns
  | [] => by rw [Node.drafts, Node.writers, List.map_nil]
  | n :: rest => by
    rw [Node.drafts, Node.writers, List.map_cons, Node.write_draft n, Node.write_drafts rest]

theorem Node.write_memberDrafts (position : Nat) :
    (ns : List Node) →
      (Node.memberDrafts d position ns).map (Draft.write d) = Node.memberWriters d position ns
  | [] => by rw [Node.memberDrafts, Node.memberWriters, List.map_nil]
  | n :: rest => by
    rw [Node.memberDrafts, Node.memberWriters, List.map_cons, Draft.write_member,
      Node.write_draft n, Node.write_memberDrafts (position + 1) rest]

theorem Node.write_operandDrafts :
    (ns : List Node) → (Node.operandDrafts d ns).map (Draft.write d) = Node.operandWriters d ns
  | [] => by rw [Node.operandDrafts, Node.operandWriters, List.map_nil]
  | n :: rest => by
    rw [Node.operandDrafts, Node.operandWriters, List.map_cons, Draft.write_operand,
      Node.write_draft n, Node.write_operandDrafts rest]

theorem Select.write_draft : (s : Select) → (s.draft d).write d = s.write d
  | ⟨columns, isDistinct, source, sourceAlias, joins, conditions, groups, having, orders, limit,
      offset⟩ => by
    have hcolumns : (if columns.isEmpty then Draft.text "*"
          else .join ", " (Node.operandDrafts d columns)).write d =
        if columns.isEmpty then Writing.text "*"
          else Writing.join ", " (Node.operandWriters d columns) := by
      rw [← Node.write_operandDrafts columns]
      split
      · exact Draft.write_text d _
      · exact Draft.write_join d _ _
    simp only [Select.draft, Select.write, Draft.write_append, Draft.write_require,
      Draft.write_text, hcolumns, Select.write_sourceDraft sourceAlias source,
      Draft.write_sequence, Join.write_drafts joins, Draft.write_conditions,
      Node.write_drafts conditions, Draft.write_clause, Node.write_operandDrafts groups,
      Node.write_drafts having, OrderItem.write_drafts orders, Draft.write_count, bind_assoc]

theorem Select.write_sourceDraft (aliasName : String) :
    (n : Option Node) →
      (Select.sourceDraft d aliasName n).write d = Select.writeSource d aliasName n
  | none => by rw [Select.sourceDraft, Select.writeSource, Draft.write_empty]
  | some n => by
    rw [Select.sourceDraft, Select.writeSource, Draft.write_append, Draft.write_text,
      Draft.write_source, Node.write_draft n]

theorem Join.write_draft : (j : Join) → (j.draft d).write d = j.write d
  | ⟨kind, source, aliasName, on⟩ => by
    simp only [Join.draft, Join.write, Draft.write_append, Draft.write_require,
      Draft.write_text, Draft.write_source, Node.write_draft source, Node.write_draft on,
      bind_assoc]

theorem Join.write_drafts :
    (js : List Join) → (Join.drafts d js).map (Draft.write d) = Join.writers d js
  | [] => by rw [Join.drafts, Join.writers, List.map_nil]
  | j :: rest => by
    rw [Join.drafts, Join.writers, List.map_cons, Join.write_draft j, Join.write_drafts rest]

theorem OrderItem.write_draft : (o : OrderItem) → (o.draft d).write d = o.write d
  | ⟨item, direction⟩ => by
    cases direction <;>
      simp only [OrderItem.draft, OrderItem.write, Draft.write_append, Draft.write_operand,
        Node.write_draft item, Draft.write_empty, Draft.write_text]

theorem OrderItem.write_drafts :
    (os : List OrderItem) → (OrderItem.drafts d os).map (Draft.write d) = OrderItem.writers d os
  | [] => by rw [OrderItem.drafts, OrderItem.writers, List.map_nil]
  | o :: rest => by
    rw [OrderItem.drafts, OrderItem.writers, List.map_cons, OrderItem.write_draft o,
      OrderItem.write_drafts rest]

theorem Insert.write_draft : (s : Insert) → (s.draft d).write d = s.write d
  | ⟨table, columnNames, rows, query, conflict, returning, _⟩ => by
    have hrows : (if query.isSome then Draft.empty
          else .text " VALUES " ++ Insert.rowsDraft d columnNames true rows).write d =
        if query.isSome then pure ()
          else (do Writing.text " VALUES "; Insert.writeRows d columnNames true rows) := by
      rw [← Insert.write_rowsDraft columnNames true rows]
      split
      · exact Draft.write_empty d
      · rw [Draft.write_append, Draft.write_text]
    simp only [Insert.draft, Insert.write, Draft.write_append, Draft.write_require,
      Draft.write_requireReturning, Draft.write_text, Draft.write_names,
      Insert.write_queryDraft query, hrows, Insert.write_conflictDraft table conflict,
      Draft.write_returning, bind_assoc]

theorem Insert.write_queryDraft :
    (n : Option Node) → (Insert.queryDraft d n).write d = Insert.writeQuery d n
  | none => by rw [Insert.queryDraft, Insert.writeQuery, Draft.write_empty]
  | some query => by
    rw [Insert.queryDraft, Insert.writeQuery, Draft.write_append, Draft.write_text,
      Node.write_draft query]

theorem Insert.write_rowsDraft (columnNames : List String) (isFirst : Bool) :
    (rows : List (List Value)) →
      (Insert.rowsDraft d columnNames isFirst rows).write d =
        Insert.writeRows d columnNames isFirst rows
  | [] => by rw [Insert.rowsDraft, Insert.writeRows, Draft.write_empty]
  | row :: rest => by
    cases isFirst <;>
      simp only [Insert.rowsDraft, Insert.writeRows, Draft.write_append, Draft.write_require,
        Draft.write_empty, Draft.write_text, Draft.write_parenthesized, Draft.write_join,
        Value.write_drafts row, Insert.write_rowsDraft columnNames false rest, bind_assoc,
        Bool.false_eq_true, ↓reduceIte]

theorem Insert.write_conflictDraft (table : String) :
    (conflict : Option OnConflict) →
      (Insert.conflictDraft d table conflict).write d = Insert.writeConflict d table conflict
  | none => by rw [Insert.conflictDraft, Insert.writeConflict, Draft.write_empty]
  | some conflict => by
    rw [Insert.conflictDraft, Insert.writeConflict, OnConflict.write_draft table conflict]

theorem OnConflict.write_draft (table : String) :
    (c : OnConflict) → (c.draft d table).write d = c.write d table
  | ⟨target, actions, ignore⟩ => by
    unfold OnConflict.draft OnConflict.write
    generalize d.capabilities.upsertStyle = style
    split
    · simp only [Draft.write_append, Draft.write_require, Draft.write_text, Draft.write_join,
        ConflictAction.write_drafts actions, bind_assoc]
    · split
      · simp only [Draft.write_append, Draft.write_text, Draft.write_names, bind_assoc]
      · simp only [Draft.write_append, Draft.write_require, Draft.write_text, Draft.write_names,
          Draft.write_join, ConflictAction.write_drafts actions, bind_assoc]

theorem ConflictAction.write_draft : (a : ConflictAction) → (a.draft d).write d = a.write d
  | .proposed column => by
    rw [ConflictAction.draft, ConflictAction.write, Draft.write_append, Draft.write_text,
      Draft.write_ofExcept]
  | .set column value => by
    rw [ConflictAction.draft, ConflictAction.write, Draft.write_append, Draft.write_text,
      Value.write_draft value]

theorem ConflictAction.write_drafts :
    (as : List ConflictAction) →
      (ConflictAction.drafts d as).map (Draft.write d) = ConflictAction.writers d as
  | [] => by rw [ConflictAction.drafts, ConflictAction.writers, List.map_nil]
  | a :: rest => by
    rw [ConflictAction.drafts, ConflictAction.writers, List.map_cons,
      ConflictAction.write_draft a, ConflictAction.write_drafts rest]

theorem Assignment.write_draft : (a : Assignment) → (a.draft d).write d = a.write d
  | ⟨column, value⟩ => by
    rw [Assignment.draft, Assignment.write, Draft.write_append, Draft.write_text,
      Value.write_draft value]

theorem Assignment.write_drafts :
    (as : List Assignment) →
      (Assignment.drafts d as).map (Draft.write d) = Assignment.writers d as
  | [] => by rw [Assignment.drafts, Assignment.writers, List.map_nil]
  | a :: rest => by
    rw [Assignment.drafts, Assignment.writers, List.map_cons, Assignment.write_draft a,
      Assignment.write_drafts rest]

theorem Update.write_draft : (s : Update) → (s.draft d).write d = s.write d
  | ⟨table, assignments, conditions, returning, _⟩ => by
    simp only [Update.draft, Update.write, Draft.write_append, Draft.write_require,
      Draft.write_requireReturning, Draft.write_text, Draft.write_join,
      Assignment.write_drafts assignments, Draft.write_conditions,
      Node.write_drafts conditions, Draft.write_returning, bind_assoc]

theorem Delete.write_draft : (s : Delete) → (s.draft d).write d = s.write d
  | ⟨table, conditions, returning⟩ => by
    simp only [Delete.draft, Delete.write, Draft.write_append, Draft.write_require,
      Draft.write_requireReturning, Draft.write_text, Draft.write_conditions,
      Node.write_drafts conditions, Draft.write_returning, bind_assoc]

end

end SqlRender
