import Mathlib
import SqlRender.Dialect.Builtin
import SqlRender.Proofs.Api.Build
import SqlRender.Proofs.Api.FromJson
import SqlRender.Proofs.Draft.Within
import SqlRender.Proofs.ModeAgreement
import SqlRender.Proofs.Node.LongNumber
import SqlRender.Proofs.Node.Within

namespace SqlRender

/-- The error has one of the codes, and is no mismatch between a template and its arguments. -/
def Error.IsAmong (codes : List String) (e : Error) : Prop :=
  (∃ code ∈ codes, e.code? = some code) ∧
    ∀ expected got, e ≠ .argumentCount expected got .placeholders

namespace Error.IsAmong

variable {codes codes' : List String} {e : Error}

theorem of_code {code : String} (hmem : code ∈ codes) (hcode : e.code? = some code)
    (hcount : code ≠ "argument_count_mismatch") : e.IsAmong codes := by
  refine ⟨⟨code, hmem, hcode⟩, ?_⟩
  rintro expected got rfl
  exact hcount (Option.some.inj hcode).symm

theorem mono (h : e.IsAmong codes) (hsubset : codes ⊆ codes') : e.IsAmong codes' := by
  obtain ⟨⟨code, hmem, hcode⟩, hplace⟩ := h
  exact ⟨⟨code, hsubset hmem, hcode⟩, hplace⟩

end Error.IsAmong

/-- JSON has neither bytes nor decimals, dates or times. -/
def Scalar.IsJson : Scalar → Prop
  | null => True
  | bool _ => True
  | int _ => True
  | float _ => True
  | text _ => True
  | _ => False

namespace Value

theorem isJson_of_ofJson {j : Json} {s : Scalar} (h : ofJson j = .scalar s) : s.IsJson := by
  cases j <;> rw [ofJson] at h <;> cases h <;> trivial

variable {E : Error → Prop} (hE : ∀ typeName rule, E (.unsupportedType typeName rule))

include hE

/-- A value from JSON has a type that cannot be rendered, or only values that JSON has. -/
theorem IsJson.within {v : Value} (h : v.IsJson) (d : Dialect) :
    (v.draft d).Within E Scalar.IsJson := by
  obtain ⟨j, rfl⟩ := h
  cases j with
  | array items =>
    rw [ofJson, ofItems_eq_map, draft]
    refine .ofMembers hE fun s hs ↦ ?_
    obtain ⟨j, -, hj⟩ := List.mem_map.mp hs
    exact isJson_of_ofJson hj
  | object ms =>
    rw [ofJson, draft, map_fst_ofMembers]
    refine .ofMembers hE fun s hs ↦ ?_
    obtain ⟨m, -, hm⟩ := List.mem_map.mp hs
    cases hm
    trivial
  | _ =>
    rw [ofJson, draft]
    exact .bind trivial

end Value

/-- What JSON has is refused for a character or a number that no literal can hold. -/
theorem Dialect.isAmong_of_literal {d : Dialect} {s : Scalar} (hs : s.IsJson)
    (hshort : s.isLongNumber = false) {e : Error} (h : d.literal s = .error e) :
    e.IsAmong ["escape_error"] := by
  have hdecimal {x : Decimal} (h : decimalLiteral x = .error e) : e.IsAmong ["escape_error"] := by
    cases x with
    | finite negative digits exponent => cases h
    | _ =>
      cases h
      exact .of_code List.mem_cons_self rfl (by decide)
  cases s with
  | int n =>
    obtain ⟨hlong, -⟩ := eq_longNumber_of_intLiteral h
    rw [Scalar.isLongNumber, hlong] at hshort
    cases hshort
  | text s =>
    rw [literal, stringLiteral] at h
    split at h
    · cases h
      exact .of_code List.mem_cons_self rfl (by decide)
    · cases h
  | float x =>
    cases x with
    | finite negative significand exponent => exact hdecimal h
    | _ =>
      cases h
      exact .of_code List.mem_cons_self rfl (by decide)
  | decimal x => exact hs.elim
  | datetime t => exact hs.elim
  | _ => cases h

namespace Api

/-- The codes of the errors that a statement of this kind can end in, whatever the mode. -/
def StatementRequest.codes : StatementRequest → List String
  | select _ => ["missing_from", "unsupported_feature", "unsupported_type"]
  | insert _ =>
    ["missing_table", "missing_values", "unsupported_feature", "argument_count_mismatch",
      "missing_conflict_target", "no_assignments", "unsupported_type"]
  | update _ => ["missing_table", "no_assignments", "unsupported_feature", "unsupported_type"]
  | delete _ => ["missing_table", "unsupported_feature", "unsupported_type"]

/-- Only a literal can be refused for its characters. -/
def StatementRequest.errorCodes (r : StatementRequest) (inlining : Bool) : List String :=
  r.codes ++ if inlining then ["escape_error"] else []

variable (d : Dialect)

section

variable {E : Error → Prop} (hE : ∀ typeName rule, E (.unsupportedType typeName rule))

include hE

theorem Condition.AllValues.within {c : Condition} (h : c.AllValues Value.IsJson) :
    (c.node.draft d).Within E Scalar.IsJson := by
  induction h with
  | compare op column h =>
    rw [Condition.node, Node.draft]
    exact .comparison hE (h.within hE d)
  | combine op h ih =>
    rw [Condition.node, Node.draft, nodes_eq_map, Node.drafts_eq_map, List.map_map]
    exact .combination op (List.forall_mem_map.mpr ih)

end

theorem within_name {E : Error → Prop} {P : Scalar → Prop} (name : String) :
    ((Node.ident name).draft d).Within E P := by
  rw [Node.draft]
  exact .text _

section

variable {d} {E : Error → Prop} (hfeature : ∀ feature, E (.unsupportedFeature feature d.name))
  (htype : ∀ typeName rule, E (.unsupportedType typeName rule))

include hfeature htype

theorem SelectRequest.within (hfrom : E (.missingFrom d.name)) (hlong : E .longNumber)
    {r : SelectRequest} (h : (StatementRequest.select r).IsJson) :
    (r.select.draft d).Within E Scalar.IsJson := by
  refine Select.within_draft hfeature hfrom ?_ ?_ (fun _ _ _ ↦ hlong) ?_
  · intro n hn
    obtain ⟨table, -, rfl⟩ := Option.mem_map.mp hn
    exact fun h ↦ absurd h Bool.false_ne_true
  · rw [select, List.forall_mem_map]
    exact fun _ _ h ↦ absurd h Bool.false_ne_true
  · exact r.forall_parts (fun _ hc ↦ hc.within d htype) (within_name d) h

theorem InsertRequest.within (htable : E (.missingTable .insert))
    (hcount : ∀ expected got, E (.argumentCount expected got .insertRow))
    (htarget : E (.missingConflictTarget d.name)) {r : InsertRequest}
    (hvalues : E (.missingValues r.table)) (hassign : E (.noAssignments r.table))
    (h : (StatementRequest.insert r).IsJson) :
    (r.insert.draft d).Within E Scalar.IsJson := by
  refine Insert.within_draft hfeature htable hvalues (fun h ↦ absurd rfl h) htarget hassign
    (fun _ _ _ ↦ hcount _ _) ?_ nofun
  rw [r.values_insert, List.forall_mem_flatten]
  exact fun row hrow v hv ↦ (h row hrow v hv).within htype d

theorem UpdateRequest.within (htable : E (.missingTable .update)) {r : UpdateRequest}
    (hassign : E (.noAssignments r.table)) (h : (StatementRequest.update r).IsJson) :
    (r.update.draft d).Within E Scalar.IsJson := by
  refine Update.within_draft hfeature htable hassign ?_
    (Condition.forall_nodeList (fun _ hc ↦ hc.within d htype) h.2)
  rw [Node.values, update, Update.assign, List.nil_append, List.forall_mem_map,
    List.forall_mem_map]
  exact fun a ha ↦ (h.1 a ha).within htype d

theorem DeleteRequest.within (htable : E (.missingTable .delete)) {r : DeleteRequest}
    (h : (StatementRequest.delete r).IsJson) : (r.delete.draft d).Within E Scalar.IsJson :=
  Delete.within_draft hfeature htable (Condition.forall_nodeList (fun _ hc ↦ hc.within d htype) h)

end

/-- A number that is too long ends the rendering of any statement. -/
theorem StatementRequest.IsJson.within {r : StatementRequest} (h : r.IsJson) :
    (r.node.draft d).Within (fun e ↦ e = .longNumber ∨ e.IsAmong r.codes) Scalar.IsJson := by
  have hfeature (feature : Feature) : (Error.unsupportedFeature feature d.name).IsAmong r.codes :=
    .of_code (by cases r <;> simp [codes]) rfl (by decide)
  have htype (typeName : String) (rule : Option TypeRule) :
      (Error.unsupportedType typeName rule).IsAmong r.codes :=
    .of_code (by cases r <;> simp [codes]) rfl (by decide)
  cases r with
  | select r =>
    have hfrom : (Error.missingFrom d.name).IsAmong (codes (.select r)) :=
      .of_code (by simp [codes]) rfl (by decide)
    rw [node, Node.draft]
    exact SelectRequest.within (fun _ ↦ .inr (hfeature _)) (fun _ _ ↦ .inr (htype _ _)) (.inr hfrom)
      (.inl rfl) h
  | insert r =>
    have htable : (Error.missingTable .insert).IsAmong (codes (.insert r)) :=
      .of_code (by simp [codes]) rfl (by decide)
    have hcount (expected got : Nat) :
        (Error.argumentCount expected got .insertRow).IsAmong (codes (.insert r)) :=
      ⟨⟨_, by simp [codes], rfl⟩, by rintro _ _ ⟨⟩⟩
    have htarget : (Error.missingConflictTarget d.name).IsAmong (codes (.insert r)) :=
      .of_code (by simp [codes]) rfl (by decide)
    have hvalues : (Error.missingValues r.table).IsAmong (codes (.insert r)) :=
      .of_code (by simp [codes]) rfl (by decide)
    have hassign : (Error.noAssignments r.table).IsAmong (codes (.insert r)) :=
      .of_code (by simp [codes]) rfl (by decide)
    rw [node, Node.draft]
    exact InsertRequest.within (fun _ ↦ .inr (hfeature _)) (fun _ _ ↦ .inr (htype _ _))
      (.inr htable) (fun _ _ ↦ .inr (hcount _ _)) (.inr htarget) (.inr hvalues) (.inr hassign) h
  | update r =>
    have htable : (Error.missingTable .update).IsAmong (codes (.update r)) :=
      .of_code (by simp [codes]) rfl (by decide)
    have hassign : (Error.noAssignments r.table).IsAmong (codes (.update r)) :=
      .of_code (by simp [codes]) rfl (by decide)
    rw [node, Node.draft]
    exact UpdateRequest.within (fun _ ↦ .inr (hfeature _)) (fun _ _ ↦ .inr (htype _ _))
      (.inr htable) (.inr hassign) h
  | delete r =>
    have htable : (Error.missingTable .delete).IsAmong (codes (.delete r)) :=
      .of_code (by simp [codes]) rfl (by decide)
    rw [node, Node.draft]
    exact DeleteRequest.within (fun _ ↦ .inr (hfeature _)) (fun _ _ ↦ .inr (htype _ _))
      (.inr htable) h

/-- A request with values from JSON builds a statement, and its rendering ends in no errors but the
few that statements of its kind are known for. A request that was read from a text has no number
that is too long to be written: see `RenderRequest.statement_of_parse`. -/
theorem isAmong_of_render {request : StatementRequest} (hrequest : request.IsJson)
    (hshort : request.node.hasLongNumber = false) :
    ∃ n, request.build = .ok n ∧ ∀ d inlining e, n.render d inlining = .error e →
      e.IsAmong (request.errorCodes inlining) := by
  refine ⟨request.node, request.build_eq, fun d inlining e he ↦ ?_⟩
  have hwithin := hrequest.within d
  have hwritten := Node.isShort_draft d hshort
  rcases Node.error_of_render he with herror | ⟨rfl, s, hs, hliteral⟩
  · refine .mono ?_ (List.subset_append_left _ _)
    exact (hwithin.error e herror).resolve_left (hwritten.error e herror)
  · refine .mono ?_ (List.subset_append_right _ _)
    exact Dialect.isAmong_of_literal (hwithin.values s hs) (hwritten.values s hs) hliteral

/-- A row that is too short for its columns. -/
theorem isAmong_of_short_row :
    (Error.argumentCount 2 1 .insertRow).IsAmong
      ["missing_table", "missing_values", "unsupported_feature", "argument_count_mismatch",
        "missing_conflict_target", "no_assignments", "unsupported_type"] := by
  let request : InsertRequest :=
    { table := "t"
      columns := ["a", "b"]
      rows := [[.scalar (.text "x")]]
      conflictTarget := none
      updated := []
      doNothing := false
      returning := [] }
  have hrequest : (StatementRequest.insert request).IsJson := by
    simp only [StatementRequest.IsJson, StatementRequest.AllValues, request,
      List.forall_mem_singleton]
    exact ⟨.text "x", by rw [Value.ofJson]⟩
  have hshort : (StatementRequest.insert request).node.hasLongNumber = false := by cbv
  have hrender : (StatementRequest.insert request).node.render .postgres false =
      .error (.argumentCount 2 1 .insertRow) := by cbv
  obtain ⟨n, hbuild, hamong⟩ := isAmong_of_render hrequest hshort
  rw [StatementRequest.build_eq] at hbuild
  cases hbuild
  exact hamong .postgres false _ hrender

end Api

end SqlRender
