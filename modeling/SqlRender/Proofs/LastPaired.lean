import Mathlib.Data.List.Nodup
import SqlRender.Node.Basic

namespace SqlRender

/-- The last pair with the name holds the value. -/
def LastPaired (pairs : List (String × Value)) (name : String) (v : Value) : Prop :=
  ∃ before behind, pairs = before ++ (name, v) :: behind ∧ name ∉ behind.map Prod.fst

variable {pairs pairs' : List (String × Value)} {name : String} {v v' : Value}

theorem forall_mem_bne_iff : (∀ p ∈ pairs, (name != p.1) = true) ↔ name ∉ pairs.map Prod.fst := by
  rw [List.mem_map, not_exists]
  refine forall_congr' fun p ↦ ?_
  rw [not_and, bne_iff_ne, ne_comm]

theorem lookup_reverse_eq_some_iff :
    pairs.reverse.lookup name = some v ↔ LastPaired pairs name v := by
  rw [List.lookup_eq_some_iff]
  simp only [forall_mem_bne_iff]
  constructor
  · rintro ⟨behind, before, hpairs, hbehind⟩
    refine ⟨before.reverse, behind.reverse, ?_, ?_⟩
    · rw [List.reverse_eq_iff.mp hpairs, List.reverse_append, List.reverse_cons,
        List.append_assoc, List.singleton_append]
    · rwa [List.map_reverse, List.mem_reverse]
  · rintro ⟨before, behind, rfl, hbehind⟩
    refine ⟨behind.reverse, before.reverse, ?_, ?_⟩
    · rw [List.reverse_append, List.reverse_cons, List.append_assoc, List.singleton_append]
    · rwa [List.map_reverse, List.mem_reverse]

theorem lookup_reverse_eq_none_iff :
    pairs.reverse.lookup name = none ↔ name ∉ pairs.map Prod.fst := by
  rw [List.lookup_eq_none_iff, forall_mem_bne_iff, List.map_reverse, List.mem_reverse]

namespace LastPaired

theorem mem (h : LastPaired pairs name v) : (name, v) ∈ pairs := by
  obtain ⟨before, behind, rfl, -⟩ := h
  exact List.mem_append_right before List.mem_cons_self

theorem unique (h : LastPaired pairs name v) (h' : LastPaired pairs name v') : v = v' := by
  rw [← lookup_reverse_eq_some_iff] at h h'
  exact Option.some_inj.mp (h.symm.trans h')

theorem exists_of_mem (h : (name, v) ∈ pairs) : ∃ w, LastPaired pairs name w := by
  cases hlast : pairs.reverse.lookup name with
  | some w => exact ⟨w, lookup_reverse_eq_some_iff.mp hlast⟩
  | none =>
    exact absurd (List.mem_map_of_mem h) (lookup_reverse_eq_none_iff.mp hlast)

/-- Where no name is repeated, every pair is the last with its name. -/
theorem of_mem (hnodup : (pairs.map Prod.fst).Nodup) (h : (name, v) ∈ pairs) :
    LastPaired pairs name v := by
  obtain ⟨before, behind, rfl⟩ := List.append_of_mem h
  refine ⟨before, behind, rfl, ?_⟩
  rw [List.map_append, List.map_cons] at hnodup
  exact (List.nodup_cons.mp hnodup.of_append_right).1

theorem of_perm (hnodup : (pairs.map Prod.fst).Nodup) (hperm : pairs.Perm pairs')
    (h : LastPaired pairs name v) : LastPaired pairs' name v :=
  of_mem ((hperm.map Prod.fst).nodup hnodup) (hperm.mem_iff.mp h.mem)

end LastPaired

end SqlRender
