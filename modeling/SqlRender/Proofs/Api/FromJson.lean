import SqlRender.Api.Statement
import SqlRender.Proofs.Api.Yields
import SqlRender.Proofs.Node.Child

namespace SqlRender

open Schema Schema.Checked

/-- The value was read from JSON. -/
def Value.IsJson (v : Value) : Prop := ∃ j, v = .ofJson j

theorem Value.ofItems_eq_map (items : List Json) : ofJson.ofItems items = items.map ofJson := by
  induction items with
  | nil => rw [ofJson.ofItems, List.map_nil]
  | cons j rest ih => rw [ofJson.ofItems, List.map_cons, ih]

theorem Value.map_fst_ofMembers (ms : List (String × Json)) :
    (ofJson.ofMembers ms).map Prod.fst = ms.map fun m ↦ .scalar (.text m.1) := by
  induction ms with
  | nil => rw [ofJson.ofMembers, List.map_nil, List.map_nil]
  | cons m rest ih =>
    obtain ⟨name, j⟩ := m
    rw [ofJson.ofMembers, List.map_cons, List.map_cons, ih]

namespace Api

/-- All values in the condition have the property. -/
inductive Condition.AllValues (P : Value → Prop) : Condition → Prop
  | compare (op : CompareOp) (column : String) {v : Value} (h : P v) :
    AllValues P (.compare op column v)
  | combine (op : BoolOp) {cs : List Condition} (h : ∀ c ∈ cs, AllValues P c) :
    AllValues P (.combine op cs)

/-- All values in the request have the property. -/
def StatementRequest.AllValues (P : Value → Prop) : StatementRequest → Prop
  | select r =>
    (∀ j ∈ r.joins, j.on.AllValues P) ∧ (∀ c ∈ r.condition, c.AllValues P) ∧
      ∀ c ∈ r.having, c.AllValues P
  | insert r => ∀ row ∈ r.rows, ∀ v ∈ row, P v
  | update r => (∀ a ∈ r.assignments, P a.2) ∧ ∀ c ∈ r.condition, c.AllValues P
  | delete r => ∀ c ∈ r.condition, c.AllValues P

/-- All values in the request were read from JSON. -/
def StatementRequest.IsJson (r : StatementRequest) : Prop := r.AllValues Value.IsJson

theorem Condition.nodes_eq_map (cs : List Condition) : nodes cs = cs.map node := by
  induction cs with
  | nil => rw [nodes, List.map_nil]
  | cons c rest ih => rw [nodes, List.map_cons, ih]

/-- On a conflict a column takes the value that was proposed for it, if any. -/
theorem InsertRequest.eq_proposed_of_mem_conflict {r : InsertRequest} {c : OnConflict}
    (h : c ∈ r.conflict) : ∀ a ∈ c.actions, ∃ column, a = .proposed column := by
  unfold conflict at h
  split at h
  · cases h
    split
    · exact nofun
    · show ∀ a ∈ [] ++ r.updated.map ConflictAction.proposed, ∃ column, a = .proposed column
      rw [List.nil_append, List.forall_mem_map]
      exact fun column _ ↦ ⟨column, rfl⟩
  · cases h

theorem InsertRequest.values_conflict (r : InsertRequest) :
    ∀ c ∈ r.conflict, c.written.filterMap ConflictAction.value? = [] := by
  intro c hc
  rw [List.filterMap_eq_nil_iff, OnConflict.written]
  intro a ha
  split at ha
  · cases ha
  · obtain ⟨column, rfl⟩ := eq_proposed_of_mem_conflict hc a ha
    rfl

/-- A request resolves a conflict without values of its own. -/
theorem InsertRequest.values_insert (r : InsertRequest) :
    (Node.insert r.insert).values = r.rows.flatten := by
  show r.rows.flatten ++ _ = r.rows.flatten
  rw [List.append_right_eq_self, List.flatMap_eq_nil_iff]
  exact fun c hc ↦ r.values_conflict c (Option.mem_toList.mp hc)

section

variable {P : Value → Prop} {Q : Node → Prop} (hnode : ∀ c : Condition, c.AllValues P → Q c.node)

include hnode

theorem Condition.forall_nodeList {c : Option Condition} (h : ∀ a ∈ c, a.AllValues P) :
    ∀ n ∈ nodeList c, Q n := by
  cases c with
  | none => exact nofun
  | some c => exact List.forall_mem_singleton.mpr (hnode c (h c rfl))

/-- A selection is made of names and conditions. -/
theorem SelectRequest.forall_parts (hname : ∀ name, Q (.ident name)) {r : SelectRequest}
    (h : (StatementRequest.select r).AllValues P) : ∀ m ∈ (Node.select r.select).parts, Q m := by
  obtain ⟨hon, hcondition, hhaving⟩ := h
  simp only [Node.parts, select, List.forall_mem_append, List.forall_mem_map,
    List.forall_mem_flatMap, List.forall_mem_cons, List.not_mem_nil, false_implies, implies_true,
    and_true, Option.mem_toList, Option.map_eq_some_iff]
  refine ⟨⟨⟨⟨⟨⟨?_, ?_⟩, ?_⟩, ?_⟩, ?_⟩, ?_⟩, ?_⟩
  · exact fun name _ ↦ hname name
  · rintro _ ⟨name, -, rfl⟩
    exact hname name
  · exact fun j hj ↦ ⟨hname j.table, hnode j.on (hon j hj)⟩
  · exact Condition.forall_nodeList hnode hcondition
  · exact fun name _ ↦ hname name
  · exact Condition.forall_nodeList hnode hhaving
  · exact fun o _ ↦ hname o.column

end

/-- What holds of JSON carries over to the values that are read from it, and to the value that
stands for one that is left out. -/
structure CarriesTo (F : Json → Prop) (P : Value → Prop) : Prop extends IsHereditary F where
  value : ∀ j, F j → P (.ofJson j)
  null : P (.scalar .null)

section

variable {F : Json → Prop} {P : Value → Prop}

theorem yields_valuesByName (h : CarriesTo F P) (j : Json) (hj : F j) :
    (valuesByName j).Yields fun pairs ↦ ∀ p ∈ pairs, P p.2 := by
  cases j with
  | object ms =>
    refine yields_ok (List.forall_mem_map.mpr fun member hmember ↦ ?_)
    exact h.value _ (h.members ms hj member hmember)
  | _ => exact yields_fail _ _

theorem InsertRequest.yields_ofMembers (h : CarriesTo F P) {ms : List (String × Json)}
    (hms : ∀ m ∈ ms, F m.2) :
    (InsertRequest.ofMembers ms).Yields fun r ↦ (StatementRequest.insert r).AllValues P := by
  have hvalue (j : Json) (hj : F j) : (anyValue j).Yields P := yields_ok (h.value j hj)
  have hrow := yields_list h.toIsHereditary hvalue
  have hrows := yields_defaulted [] nofun (yields_list h.toIsHereditary hrow) hms "values"
  refine .seq (.seq (.seq (.seq (.seq (.seq (.map ?_) (yields_true _)) hrows)
    (yields_true _)) (yields_true _)) (yields_true _)) (yields_true _)
  intro table _ columns _ rows hrows target _ updated _ doNothing _ returning _
  exact hrows

theorem Condition.yields_ofComparison (h : CarriesTo F P) (op : CompareOp)
    {ms : List (String × Json)} (hms : ∀ m ∈ ms, F m.2) :
    (ofComparison op ms).Yields (AllValues P) := by
  have hread (j : Json) (hj : F j) : (anyValue j).Yields P := yields_ok (h.value j hj)
  have hvalue := yields_defaulted (.scalar .null) h.null hread hms "value"
  refine .seq (.map fun column _ v hv ↦ ?_) hvalue
  exact .compare op column hv

mutual

theorem Condition.yields_read (h : CarriesTo F P) (room : Nat) :
    (j : Json) → F j → (Condition.read room j).Yields (AllValues P)
  | .object ms, hj => by
    have hms := h.members ms hj
    rw [Condition.read]
    refine yields_tagged fun word c hc ↦ ?_
    obtain ⟨operator, -, rfl⟩ := Option.map_eq_some_iff.mp hc
    cases room with
    | zero => exact yields_fail _ _
    | succ room =>
      cases operator with
      | inl op => exact Condition.yields_ofComparison h op hms
      | inr op =>
        exact .map fun cs hcs ↦ .combine op (Condition.yields_nested h room ms hms cs hcs)
  | .null, _ => yields_fail _ _
  | .bool _, _ => yields_fail _ _
  | .int _, _ => yields_fail _ _
  | .float _, _ => yields_fail _ _
  | .text _, _ => yields_fail _ _
  | .array _, _ => yields_fail _ _

theorem Condition.yields_nested (h : CarriesTo F P) (room : Nat) :
    (ms : List (String × Json)) → (∀ m ∈ ms, F m.2) →
      (Condition.nested room ms).Yields fun cs ↦ ∀ c ∈ cs, c.AllValues P
  | [], _ => by
    rw [Condition.nested]
    exact yields_ok nofun
  | (name, j) :: rest, hms => by
    obtain ⟨hj, hrest⟩ := List.forall_mem_cons.mp hms
    rw [Condition.nested]
    split
    · exact (Condition.yields_list h room j hj).under _
    · exact Condition.yields_nested h room rest hrest

theorem Condition.yields_list (h : CarriesTo F P) (room : Nat) :
    (j : Json) → F j → (Condition.list room j).Yields fun cs ↦ ∀ c ∈ cs, c.AllValues P
  | .array items, hj => by
    rw [Condition.list]
    exact Condition.yields_items h room 0 items (h.items items hj)
  | .object _, _ => yields_fail _ _
  | .null, _ => yields_fail _ _
  | .bool _, _ => yields_fail _ _
  | .int _, _ => yields_fail _ _
  | .float _, _ => yields_fail _ _
  | .text _, _ => yields_fail _ _

theorem Condition.yields_items (h : CarriesTo F P) (room index : Nat) :
    (items : List Json) → (∀ j ∈ items, F j) →
      (Condition.items room index items).Yields fun cs ↦ ∀ c ∈ cs, c.AllValues P
  | [], _ => by
    rw [Condition.items]
    exact yields_ok nofun
  | j :: rest, hitems => by
    obtain ⟨hj, hrest⟩ := List.forall_mem_cons.mp hitems
    have hfirst := (Condition.yields_read h room j hj).under (.index index)
    rw [Condition.items]
    refine .seq (.map fun c hc cs hcs ↦ ?_) (Condition.yields_items h room (index + 1) rest hrest)
    exact List.forall_mem_cons.mpr ⟨hfirst c hc, hcs⟩

end

theorem Condition.yields_optional (h : CarriesTo F P) {ms : List (String × Json)}
    (hms : ∀ m ∈ ms, F m.2) (name : String) :
    (defaulted ms name none (nullable Condition.ofJson)).Yields fun c ↦ ∀ a ∈ c, a.AllValues P :=
  yields_defaulted none nofun
    (yields_nullable (Condition.yields_read h deepestCondition)) hms name

theorem JoinRequest.yields_ofJson (h : CarriesTo F P) (j : Json) (hj : F j) :
    (JoinRequest.ofJson j).Yields fun r ↦ r.on.AllValues P := by
  refine (yields_members h.toIsHereditary hj).andThen fun ms hms ↦ ?_
  have hon := yields_required (Condition.yields_read h deepestCondition) hms "on"
  refine .seq (.seq (.seq (.map ?_) (yields_true _)) (yields_true _)) hon
  exact fun _ _ _ _ _ _ _ h ↦ h

theorem SelectRequest.yields_ofMembers (h : CarriesTo F P) {ms : List (String × Json)}
    (hms : ∀ m ∈ ms, F m.2) :
    (SelectRequest.ofMembers ms).Yields fun r ↦ (StatementRequest.select r).AllValues P := by
  have hjoins := yields_defaulted [] nofun
    (yields_list h.toIsHereditary (JoinRequest.yields_ofJson h)) hms "joins"
  have hwhere := Condition.yields_optional h hms "where"
  have hhaving := Condition.yields_optional h hms "having"
  refine .seq (.seq (.seq (.seq (.seq (.seq (.seq (.seq (.seq (.seq (.map ?_) (yields_true _))
    (yields_true _)) (yields_true _)) hjoins) hwhere) (yields_true _)) hhaving)
    (yields_true _)) (yields_true _)) (yields_true _)
  intro columns _ distinct _ source _ sourceAlias _ joins hjoins condition hcondition groups _
    having hhaving orders _ limit _ offset _
  exact ⟨hjoins, hcondition, hhaving⟩

theorem UpdateRequest.yields_ofMembers (h : CarriesTo F P) {ms : List (String × Json)}
    (hms : ∀ m ∈ ms, F m.2) :
    (UpdateRequest.ofMembers ms).Yields fun r ↦ (StatementRequest.update r).AllValues P := by
  have hset := yields_defaulted [] nofun (yields_valuesByName h) hms "set"
  have hwhere := Condition.yields_optional h hms "where"
  refine .seq (.seq (.seq (.map ?_) hset) hwhere) (yields_true _)
  intro table _ assignments hassignments condition hcondition returning _
  exact ⟨hassignments, hcondition⟩

theorem DeleteRequest.yields_ofMembers (h : CarriesTo F P) {ms : List (String × Json)}
    (hms : ∀ m ∈ ms, F m.2) :
    (DeleteRequest.ofMembers ms).Yields fun r ↦ (StatementRequest.delete r).AllValues P := by
  have hwhere := Condition.yields_optional h hms "where"
  refine .seq (.seq (.map ?_) hwhere) (yields_true _)
  intro table _ condition hcondition returning _
  exact hcondition

/-- The values of a request stand in the JSON that it was read from. -/
theorem StatementRequest.yields_ofJson (h : CarriesTo F P) (j : Json) (hj : F j) :
    (StatementRequest.ofJson j).Yields fun r ↦ r.AllValues P := by
  refine (yields_members h.toIsHereditary hj).andThen fun ms hms ↦ yields_tagged fun word c hc ↦ ?_
  split at hc
  · cases hc
    exact .map (SelectRequest.yields_ofMembers h hms)
  · cases hc
    exact .map (InsertRequest.yields_ofMembers h hms)
  · cases hc
    exact .map (UpdateRequest.yields_ofMembers h hms)
  · cases hc
    exact .map (DeleteRequest.yields_ofMembers h hms)
  · cases hc

end

theorem carriesTo_isJson : CarriesTo (fun _ ↦ True) Value.IsJson where
  items _ _ _ _ := trivial
  members _ _ _ _ := trivial
  value j _ := ⟨j, rfl⟩
  null := ⟨.null, by rw [Value.ofJson]⟩

end Api

end SqlRender
