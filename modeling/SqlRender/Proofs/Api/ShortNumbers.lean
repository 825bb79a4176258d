import SqlRender.Proofs.Api.FromJson
import SqlRender.Proofs.Json.ShortNumbers
import SqlRender.Proofs.Node.LongNumber

/-!
A request that was read from a text has no number that is too long to be written: its values stand
in the text, and a count that is given as a text of its own is refused where it is too long.
-/

namespace SqlRender

namespace WholeNumber

theorem isTooLong_of_ofExact {cs : List Char} {n : Int} (h : ofExact cs = .ok n) :
    Digits.isTooLong n.natAbs = false := by
  unfold ofExact at h
  split at h
  next isNegative digits _ =>
  dsimp only at h
  split at h
  · cases h
  · cases h
    rfl
  · cases h
  · split at h
    · cases h
    · next hshort =>
      split at h
      · cases h
      · cases h
        have hrun := Digits.isTooLong_value (Digits.isDigits_takeWhile digits) (by omega)
        cases isNegative with
        | false => exact hrun
        | true =>
          rw [if_pos rfl, Int.natAbs_neg]
          exact hrun

theorem isTooLong_of_read {s : String} {n : Int} (h : read s = .ok n) :
    Digits.isTooLong n.natAbs = false := by
  unfold read at h
  split at h
  · exact isTooLong_of_ofExact h
  · exact isTooLong_of_ofExact h

end WholeNumber

namespace Schema

open Checked

/-- A whole number of 64 bits has at most 19 digits. -/
theorem isTooLong_of_wholeFloat {x : Binary64} {n : Int} (h : wholeFloat x = .ok n) :
    Digits.isTooLong n.natAbs = false := by
  have hpow : 10 ^ 19 ≤ 10 ^ Digits.longest := Nat.pow_le_pow_right (by decide) (by decide)
  rw [wholeFloat] at h
  split at h
  · split at h
    · split at h
      · next hbound =>
        cases h
        rw [int64Bound] at hbound
        rw [Digits.isTooLong_eq_false_iff]
        omega
      · cases h
    · cases h
  · cases h

theorem yields_int (j : Json) (hj : j.IsShort) :
    (int j).Yields fun n ↦ Digits.isTooLong n.natAbs = false := by
  cases hj with
  | int h => exact yields_ok h
  | bool b =>
    cases b with
    | false => exact yields_ok rfl
    | true => exact yields_ok rfl
  | float x =>
    rw [int]
    split
    · next hn => exact yields_ok (isTooLong_of_wholeFloat hn)
    · exact yields_fail _ _
  | text s =>
    rw [int]
    split
    · next hn => exact yields_ok (WholeNumber.isTooLong_of_read hn)
    · exact yields_fail _ _
    · exact yields_fail _ _
  | null => exact yields_fail _ _
  | array => exact yields_fail _ _
  | object => exact yields_fail _ _

theorem yields_count (j : Json) (hj : j.IsShort) :
    (count j).Yields fun n ↦ Digits.isTooLong n = false := by
  refine (yields_int j hj).andThen fun n hn ↦ ?_
  split
  · exact yields_fail _ _
  · refine yields_ok ?_
    rwa [show n.toNat = n.natAbs by omega]

end Schema

theorem Value.entriesHaveLongNumber_ofMembers {ms : List (String × Json)}
    (h : ∀ m ∈ ms, (ofJson m.2).hasLongNumber = false) :
    entriesHaveLongNumber (ofJson.ofMembers ms) = false := by
  induction ms with
  | nil => rw [ofJson.ofMembers, entriesHaveLongNumber]
  | cons m rest ih =>
    obtain ⟨name, j⟩ := m
    obtain ⟨hj, hrest⟩ := List.forall_mem_cons.mp h
    rw [ofJson.ofMembers, entriesHaveLongNumber, hj, ih hrest]
    rfl

theorem Value.hasLongNumber_ofJson {j : Json} (h : j.IsShort) :
    (ofJson j).hasLongNumber = false := by
  induction h with
  | null => rw [ofJson]; rfl
  | bool b => rw [ofJson]; rfl
  | int h => rw [ofJson]; exact h
  | float x => rw [ofJson]; rfl
  | text s => rw [ofJson]; rfl
  | array h ih =>
    rw [ofJson, hasLongNumber, ofItems_eq_map, haveLongNumber_eq_false_iff]
    exact List.forall_mem_map.mpr ih
  | object h ih =>
    rw [ofJson, hasLongNumber]
    exact entriesHaveLongNumber_ofMembers ih

namespace Api

open Schema Schema.Checked

theorem carriesTo_short : CarriesTo Json.IsShort (·.hasLongNumber = false) where
  items _ h := by
    cases h with
    | array h => exact h
  members _ h := by
    cases h with
    | object h => exact h
  value _ h := Value.hasLongNumber_ofJson h
  null := rfl

theorem Condition.AllValues.hasLongNumber_node {c : Condition}
    (h : c.AllValues (·.hasLongNumber = false)) : c.node.hasLongNumber = false := by
  induction h with
  | compare op column h => rw [Condition.node, Node.hasLongNumber, h]
  | combine op h ih =>
    rw [Condition.node, Node.hasLongNumber, nodes_eq_map, Node.haveLongNumber_eq_false_iff]
    exact List.forall_mem_map.mpr ih

theorem InsertRequest.conflictHasLongNumber (r : InsertRequest) :
    Insert.conflictHasLongNumber r.conflict = false := by
  cases h : r.conflict with
  | none => rw [Insert.conflictHasLongNumber]
  | some c =>
    obtain ⟨target, actions, ignore⟩ := c
    rw [Insert.conflictHasLongNumber, OnConflict.hasLongNumber,
      ConflictAction.haveLongNumber_eq_false_iff]
    intro a ha v hv
    obtain ⟨column, rfl⟩ := eq_proposed_of_mem_conflict h a ha
    cases hv

theorem StatementRequest.hasLongNumber_node {r : StatementRequest}
    (h : r.AllValues (·.hasLongNumber = false))
    (hcounts : ∀ k ∈ r.node.counts, Digits.isTooLong k = false) : r.node.hasLongNumber = false := by
  have hnode (c : Condition) (hc : c.AllValues (·.hasLongNumber = false)) :
      c.node.hasLongNumber = false := hc.hasLongNumber_node
  cases r with
  | select r =>
    rw [node, Node.hasLongNumber, Select.hasLongNumber_eq_false_iff]
    refine ⟨hcounts, r.forall_parts hnode (fun name ↦ ?_) h⟩
    rw [Node.hasLongNumber]
  | insert r =>
    rw [node, Node.hasLongNumber, InsertRequest.insert, Insert.hasLongNumber,
      r.conflictHasLongNumber, Value.rowsHaveLongNumber_eq_false_iff.mpr h]
    rfl
  | update r =>
    rw [node, Node.hasLongNumber, UpdateRequest.update, Update.assign, Update.hasLongNumber,
      Bool.or_eq_false_iff, Assignment.haveLongNumber_eq_false_iff,
      Node.haveLongNumber_eq_false_iff, List.nil_append, List.forall_mem_map]
    exact ⟨h.1, Condition.forall_nodeList hnode h.2⟩
  | delete r =>
    rw [node, Node.hasLongNumber, DeleteRequest.delete, Delete.hasLongNumber,
      Node.haveLongNumber_eq_false_iff]
    exact Condition.forall_nodeList hnode h

theorem SelectRequest.yields_counts {ms : List (String × Json)} (hms : ∀ m ∈ ms, m.2.IsShort) :
    (SelectRequest.ofMembers ms).Yields fun r ↦
      ∀ k ∈ (StatementRequest.select r).node.counts, Digits.isTooLong k = false := by
  have hcount (name : String) : (defaulted ms name none (nullable Schema.count)).Yields fun n ↦
      ∀ k ∈ n, Digits.isTooLong k = false :=
    yields_defaulted none nofun (yields_nullable yields_count) hms name
  refine .seq (.seq (.seq (.seq (.seq (.seq (.seq (.seq (.seq (.seq (.map ?_) (yields_true _))
    (yields_true _)) (yields_true _)) (yields_true _)) (yields_true _)) (yields_true _))
    (yields_true _)) (yields_true _)) (hcount "limit")) (hcount "offset")
  intro columns _ distinct _ source _ sourceAlias _ joins _ condition _ groups _ having _ orders _
    limit hlimit offset hoffset
  rw [StatementRequest.node, Node.counts, List.forall_mem_append]
  exact ⟨fun k hk ↦ hlimit k (Option.mem_toList.mp hk),
    fun k hk ↦ hoffset k (Option.mem_toList.mp hk)⟩

theorem StatementRequest.yields_counts (j : Json) (hj : j.IsShort) :
    (StatementRequest.ofJson j).Yields fun r ↦ ∀ k ∈ r.node.counts, Digits.isTooLong k = false := by
  refine (yields_members carriesTo_short.toIsHereditary hj).andThen fun ms hms ↦
    yields_tagged fun word c hc ↦ ?_
  split at hc
  · cases hc
    exact .map (SelectRequest.yields_counts hms)
  · cases hc
    exact .map fun _ _ ↦ nofun
  · cases hc
    exact .map fun _ _ ↦ nofun
  · cases hc
    exact .map fun _ _ ↦ nofun
  · cases hc

theorem StatementRequest.yields_short (j : Json) (hj : j.IsShort) :
    (StatementRequest.ofJson j).Yields fun r ↦ r.IsJson ∧ r.node.hasLongNumber = false := by
  intro r hr
  refine ⟨StatementRequest.yields_ofJson carriesTo_isJson j trivial r hr, ?_⟩
  exact hasLongNumber_node (StatementRequest.yields_ofJson carriesTo_short j hj r hr)
    (StatementRequest.yields_counts j hj r hr)

/-- The statement of a request that was read from a text has values from JSON, and no number that
is too long to be written. -/
theorem RenderRequest.statement_of_parse {standIn : Char} {s : String} {j : Json}
    (hj : Json.parse standIn s = .ok j) {r : RenderRequest} (hr : RenderRequest.ofJson j = .ok r) :
    r.statement.IsJson ∧ r.statement.node.hasLongNumber = false := by
  have hyields : (RenderRequest.ofJson j).Yields fun r ↦
      r.statement.IsJson ∧ r.statement.node.hasLongNumber = false := by
    refine (yields_members carriesTo_short.toIsHereditary (Json.isShort_of_parse hj)).andThen
      fun ms hms ↦ ?_
    have hstatement := yields_required StatementRequest.yields_short hms "statement"
    refine .seq (.seq (.seq (.seq (.map ?_) (yields_true _)) (yields_true _)) (yields_true _))
      hstatement
    exact fun _ _ _ _ _ _ _ _ _ h ↦ h
  exact hyields r hr

end Api

end SqlRender
