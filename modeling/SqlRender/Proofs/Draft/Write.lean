import SqlRender.Proofs.Draft.Basic

namespace SqlRender

theorem Value.scalarMembers_map (ss : List Scalar) :
    scalarMembers (ss.map .scalar) = .ok ss := by
  induction ss with
  | nil => rfl
  | cons s rest ih => simp only [List.map_cons, scalarMembers, ih]; rfl

namespace Writing

variable {α β : Type}

theorem ext_into {w w' : Writing α} (h : ∀ b, w.into b = w'.into b) : w = w' := funext h

theorem into_bind (w : Writing α) (f : α → Writing β) (b : Buffer) :
    (w >>= f).into b =
      match w.into b with
      | (.ok a, b) => (f a).into b
      | (.error e, b) => (.error e, b) := by
  show (ExceptT.bindCont f (w.run.run b).1).run (w.run.run b).2 = _
  rcases h : w.run.run b with ⟨_ | a, b'⟩ <;> simp only [into, h] <;> rfl

theorem into_throw (e : Error) (b : Buffer) : (throw e : Writing α).into b = (.error e, b) := rfl

theorem into_liftM (r : Except Error α) (b : Buffer) : (liftM r : Writing α).into b = (r, b) := by
  cases r <;> rfl

theorem into_text (sql : String) (b : Buffer) :
    (text sql).into b = (.ok (), { b with sql := b.sql ++ sql }) := rfl

theorem into_placeholder (d : Dialect) (v : Value) {b : Buffer} (hb : b.inlining = false) :
    (placeholder d v).into b =
      (.ok (), { b with
        sql := b.sql ++ d.placeholder (b.params.length + 1)
        params := b.params ++ [v] }) := by
  obtain ⟨_, sql, params⟩ := b
  cases hb
  rfl

/-- An inlining buffer takes the literal of a value. -/
theorem into_value_of_inlining (d : Dialect) (v : Value) {b : Buffer} (hb : b.inlining = true) :
    (value d v).into b =
      match v.literal d with
      | .ok sql => (.ok (), { b with sql := b.sql ++ sql })
      | .error e => (.error e, b) := by
  obtain ⟨_, sql, params⟩ := b
  cases hb
  show ((liftM (v.literal d) : Writing String) >>= text).into _ = _
  rw [into_bind, into_liftM]
  cases v.literal d <;> rfl

theorem into_value_of_binding (d : Dialect) (v : Value) {b : Buffer} (hb : b.inlining = false) :
    (value d v).into b = (bound d v).into b := by
  obtain ⟨_, sql, params⟩ := b
  cases hb
  rfl

theorem throw_bind (e : Error) (f : α → Writing β) :
    (throw e >>= f : Writing β) = throw e := rfl

theorem sequence_append (xs ys : List (Writing Unit)) :
    sequence (xs ++ ys) = (do sequence xs; sequence ys) := by
  induction xs with
  | nil => exact (pure_bind (m := Writing) () fun _ ↦ sequence ys).symm
  | cons x xs ih => simp only [List.cons_append, sequence, ih, bind_assoc]

end Writing

namespace Draft

variable (d : Dialect)

@[simp] theorem write_empty : empty.write d = pure () :=
  pure_bind (m := Writing) () fun _ ↦ pure ()

@[simp] theorem write_text (sql : String) : (text sql).write d = Writing.text sql := by
  simp only [write, text, List.map_cons, List.map_nil, Writing.sequence, Chunk.write,
    bind_pure_unit]

@[simp] theorem write_fail (e : Error) : (fail e).write d = throw e :=
  pure_bind (m := Writing) () fun _ ↦ throw e

@[simp] theorem write_append (a b : Draft) :
    (a ++ b).write d = (do a.write d; b.write d) := by
  cases h : a.error with
  | some e => simp only [append_of_error h, write, h, bind_assoc, Writing.throw_bind]
  | none =>
    simp only [append_of_complete h, write, h, List.map_append, Writing.sequence_append,
      bind_assoc, pure_bind]

@[simp] theorem write_require (condition : Bool) (e : Error) :
    (require condition e).write d = Writing.require condition e := by
  cases condition
  · exact write_fail d e
  · exact write_empty d

@[simp] theorem write_parenthesized (a : Draft) :
    a.parenthesized.write d = Writing.parenthesized (a.write d) := by
  simp only [parenthesized, write_append, write_text, Writing.parenthesized, bind_assoc]

@[simp] theorem write_sequence (as : List Draft) :
    (sequence as).write d = Writing.sequence (as.map (write d)) := by
  induction as with
  | nil => exact write_empty d
  | cons a rest ih => simp only [sequence, write_append, ih, List.map_cons, Writing.sequence]

@[simp] theorem write_join (separator : String) (as : List Draft) :
    (join separator as).write d = Writing.join separator (as.map (write d)) := by
  induction as with
  | nil => exact write_empty d
  | cons a rest ih =>
    cases rest with
    | nil => rfl
    | cons b rest =>
      simp only [join, write_append, write_text, ih, List.map_cons, Writing.join, bind_assoc]

@[simp] theorem write_ofExcept (r : Except Error String) :
    (ofExcept r).write d = (do let sql ← r; Writing.text sql) := by
  cases r with
  | ok sql => exact write_text d sql
  | error e => exact write_fail d e

/-- What is no collection of scalars has neither a literal nor placeholders. -/
theorem value_of_scalarMembers_error {kind : CollectionKind} {members : List Value} {e : Error}
    (h : Value.scalarMembers members = .error e) :
    Writing.value d (.collection kind members) = throw e := by
  refine Writing.ext_into fun b ↦ ?_
  rw [Writing.into_throw]
  cases hb : b.inlining with
  | true =>
    rw [Writing.into_value_of_inlining d _ hb, Value.literal, Value.collectionLiteral, h]
    rfl
  | false =>
    rw [Writing.into_value_of_binding d _ hb, Writing.bound, Writing.boundMembers, h,
      Writing.into_bind, Writing.into_liftM]

/-- A collection is written by its members alone. -/
theorem write_ofMembers (kind : CollectionKind) (members : List Value) :
    (ofMembers members).write d = Writing.value d (.collection kind members) := by
  cases h : Value.scalarMembers members with
  | error e => simp only [ofMembers, h, write_fail, value_of_scalarMembers_error d h]
  | ok scalars =>
    cases scalars with
    | nil =>
      simp only [ofMembers, h, write_text]
      refine Writing.ext_into fun b ↦ ?_
      cases hb : b.inlining with
      | true =>
        rw [Writing.into_value_of_inlining d _ hb, Value.literal, Value.collectionLiteral, h]
        rfl
      | false =>
        rw [Writing.into_value_of_binding d _ hb, Writing.bound, Writing.boundMembers, h,
          Writing.into_bind, Writing.into_liftM]
        rfl
    | cons s rest =>
      simp only [ofMembers, h, write, List.map_cons, List.map_nil, Writing.sequence, Chunk.write,
        bind_pure_unit, Writing.value, Value.literal, Writing.bound, Value.collectionLiteral,
        Writing.boundMembers]
      rw [← List.map_cons, Value.scalarMembers_map]

@[simp] theorem write_template (sql : String) (args : List Draft) :
    (template d sql args).write d = Writing.template d sql (args.map (write d)) := by
  unfold template Writing.template
  cases Template.segments d.capabilities.backslashEscapes sql with
  | nil => exact write_empty d
  | cons first rest =>
    have hzip : (List.zipWith (fun arg segment ↦ arg ++ text segment) args rest).map (write d) =
        List.zipWith (fun arg segment ↦ (do arg; Writing.text segment)) (args.map (write d))
          rest := by
      simp only [List.map_zipWith, List.zipWith_map_left, write_append, write_text]
    simp only [write_append, write_require, write_text, write_sequence, hzip, List.length_map,
      bind_assoc]

theorem map_parenthesized (items : List Draft) :
    (items.map parenthesized).map (write d) = (items.map (write d)).map Writing.parenthesized := by
  simp only [List.map_map]
  exact List.map_congr_left fun a _ ↦ write_parenthesized d a

@[simp] theorem write_combination (op : BoolOp) (items : List Draft) :
    (combination d op items).write d = Writing.combination d op (items.map (write d)) := by
  unfold combination Writing.combination
  rw [List.isEmpty_map]
  cases items.isEmpty
  · simp only [Bool.false_eq_true, ↓reduceIte, write_join, map_parenthesized]
  · exact write_text d _

@[simp] theorem write_conditions (keyword : String) (items : List Draft) :
    (conditions keyword items).write d = Writing.conditions keyword (items.map (write d)) := by
  unfold conditions Writing.conditions
  rw [List.isEmpty_map]
  cases items.isEmpty
  · simp only [Bool.false_eq_true, ↓reduceIte, write_append, write_text, write_join,
      map_parenthesized]
  · exact write_empty d

@[simp] theorem write_operand (isQuery : Bool) (a : Draft) :
    (operand isQuery a).write d = Writing.operand isQuery (a.write d) := by
  cases isQuery
  · rfl
  · exact write_parenthesized d a

@[simp] theorem write_aliased (aliasName : String) :
    (aliased d aliasName).write d = Writing.aliased d aliasName := by
  unfold aliased Writing.aliased
  split
  · exact write_empty d
  · exact write_text d _

@[simp] theorem write_source (place : SourcePlace) (isQuery : Bool) (aliasName : String)
    (a : Draft) :
    (source d place isQuery aliasName a).write d =
      Writing.source d place isQuery aliasName (a.write d) := by
  simp only [source, write_append, write_require, write_operand, write_aliased, Writing.source,
    bind_assoc]

@[simp] theorem write_member (position : Nat) (isGrouped : Bool) (a : Draft) :
    (member d position isGrouped a).write d =
      Writing.member d position isGrouped (a.write d) := by
  unfold member Writing.member
  split
  · rfl
  · split
    · exact write_parenthesized d a
    · simp only [write_append, write_text, write_parenthesized, bind_assoc]

@[simp] theorem write_requireReturning (columns : List String) :
    (requireReturning d columns).write d = Writing.requireReturning d columns :=
  write_require d _ _

@[simp] theorem write_returning (columns : List String) :
    (returning d columns).write d = Writing.returning d columns := by
  unfold returning Writing.returning
  split
  · exact write_empty d
  · exact write_text d _

@[simp] theorem write_clause (keyword : String) (items : List Draft) :
    (clause keyword items).write d = Writing.clause keyword (items.map (write d)) := by
  unfold clause Writing.clause
  rw [List.isEmpty_map]
  cases items.isEmpty
  · simp only [Bool.false_eq_true, ↓reduceIte, write_append, write_text, write_join]
  · exact write_empty d

@[simp] theorem write_count (keyword : String) (n : Option Nat) :
    (count keyword n).write d = Writing.count keyword n := by
  cases n with
  | none => exact write_empty d
  | some n => simp only [count, write_append, write_require, write_text, Writing.count]

@[simp] theorem write_names (columns : List String) :
    (names d columns).write d = Writing.names d columns := by
  unfold names Writing.names
  split
  · exact write_empty d
  · exact write_text d _

end Draft

end SqlRender
