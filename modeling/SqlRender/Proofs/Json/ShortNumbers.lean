import SqlRender.Json.Reader
import SqlRender.Proofs.Digits

namespace SqlRender

namespace Digits

theorem isTooLong_value {cs : List Char} (h : IsDigits cs) (hshort : cs.length ≤ longest) :
    isTooLong (value cs) = false :=
  isTooLong_eq_false_iff.mpr
    (Nat.lt_of_lt_of_le (value_lt h) (Nat.pow_le_pow_right (by decide) hshort))

theorem isTooLong_of_value? {cs : List Char} {n : Nat} (h : value? cs = some n)
    (hshort : (cs.filter Char.isDigit).length ≤ longest) : isTooLong n = false := by
  rw [value?] at h
  split at h
  · cases h
  · next hcs =>
    cases h
    have hdigits : IsDigits cs := by simp_all [IsDigits]
    rw [List.filter_eq_self.mpr hdigits] at hshort
    exact isTooLong_value hdigits hshort

theorem isTooLong_of_int? {cs : List Char} {n : Int} (h : int? cs = some n)
    (hshort : (cs.filter Char.isDigit).length ≤ longest) : isTooLong n.natAbs = false := by
  unfold int? at h
  split at h
  · next cs =>
    cases hvalue : value? cs with
    | none =>
      rw [hvalue] at h
      cases h
    | some m =>
      rw [hvalue] at h
      cases h
      rw [Int.natAbs_neg]
      exact isTooLong_of_value? hvalue hshort
  · obtain ⟨m, hm, rfl⟩ := Option.map_eq_some_iff.mp h
    exact isTooLong_of_value? hm hshort
  · obtain ⟨m, hm, rfl⟩ := Option.map_eq_some_iff.mp h
    exact isTooLong_of_value? hm hshort

end Digits

namespace Json

/-- Every whole number in the value can be written. -/
inductive IsShort : Json → Prop
  | null : IsShort null
  | bool (b : Bool) : IsShort (bool b)
  | int {n : Int} (h : Digits.isTooLong n.natAbs = false) : IsShort (int n)
  | float (x : Binary64) : IsShort (float x)
  | text (s : String) : IsShort (text s)
  | array {items : List Json} (h : ∀ j ∈ items, IsShort j) : IsShort (array items)
  | object {members : List (String × Json)} (h : ∀ m ∈ members, IsShort m.2) :
    IsShort (object members)

theorem isShort_insertMember {name : String} {v : Json} {members : List (String × Json)}
    (hv : v.IsShort) (h : ∀ m ∈ members, m.2.IsShort) :
    ∀ m ∈ insertMember name v members, m.2.IsShort := by
  induction members with
  | nil => exact List.forall_mem_singleton.mpr hv
  | cons m rest ih =>
    obtain ⟨hm, hrest⟩ := List.forall_mem_cons.mp h
    rw [insertMember]
    split
    · exact List.forall_mem_cons.mpr ⟨hv, hrest⟩
    · exact List.forall_mem_cons.mpr ⟨hm, ih hrest⟩

theorem isShort_ofReversed {members : List (String × Json)} (h : ∀ m ∈ members, m.2.IsShort) :
    (ofReversed members).IsShort := by
  refine .object ?_
  induction members with
  | nil => exact nofun
  | cons m rest ih =>
    obtain ⟨hm, hrest⟩ := List.forall_mem_cons.mp h
    exact isShort_insertMember hm (ih hrest)

theorem isShort_of_word? {c c' : Cursor} {v : Json} (h : word? c = some (v, c')) : v.IsShort := by
  rw [word?] at h
  obtain ⟨⟨w, v⟩, hword, heq⟩ := Option.map_eq_some_iff.mp h
  cases heq
  have hall : ∀ entry ∈ wordValues, entry.2.IsShort := by
    simp only [wordValues, List.forall_mem_cons]
    exact ⟨.null, .bool _, .bool _, .float _, .float _, .float _, nofun⟩
  exact hall _ (List.mem_of_find?_eq_some hword)

theorem isShort_of_number {c c' : Cursor} {v : Json} (h : number c = .ok (v, c')) :
    v.IsShort := by
  rw [number] at h
  split at h
  · cases h
  · next digits isFloat _ =>
    split at h
    · cases h
      exact .float _
    · split at h
      · cases h
      · next hshort =>
        cases h
        refine .int ?_
        cases hdigits : Digits.int? digits with
        | none => rfl
        | some n => exact Digits.isTooLong_of_int? hdigits (Nat.le_of_not_lt hshort)

variable (standIn : Char)

/-- What is read with some fuel is short. -/
structure ReadsShort (fuel : Nat) : Prop where
  value : ∀ room c v c', Json.value standIn fuel room c = .ok (v, c') → v.IsShort
  items : ∀ room found c v c', (∀ j ∈ found, j.IsShort) →
    itemsFrom standIn fuel room found c = .ok (v, c') → v.IsShort
  members : ∀ room found c v c', (∀ m ∈ found, m.2.IsShort) →
    membersFrom standIn fuel room found c = .ok (v, c') → v.IsShort

namespace ReadsShort

variable {standIn} {fuel room : Nat} {c c' : Cursor} {v : Json}

theorem value_succ (ih : ReadsShort standIn fuel)
    (h : Json.value standIn (fuel + 1) room c = .ok (v, c')) : v.IsShort := by
  have htext {r : Reading String} {f : String × Cursor → Json × Cursor}
      (hf : ∀ p, (f p).1.IsShort) (h : r.map f = .ok (v, c')) : v.IsShort := by
    cases r with
    | error e => cases h
    | ok p =>
      have heq : f p = (v, c') := Except.ok.inj h
      rw [← show (f p).1 = v by rw [heq]]
      exact hf p
  unfold Json.value at h
  split at h
  · exact htext (fun p ↦ .text p.1) h
  · cases h
  · dsimp only at h
    split at h
    · cases h
      exact .array fun _ hj ↦ absurd hj List.not_mem_nil
    · exact ih.items _ [] _ _ _ (fun _ hj ↦ absurd hj List.not_mem_nil) h
  · cases h
  · dsimp only at h
    split at h
    · cases h
      exact .object fun _ hm ↦ absurd hm List.not_mem_nil
    · exact ih.members _ [] _ _ _ (fun _ hm ↦ absurd hm List.not_mem_nil) h
  · split at h
    · next result hword =>
      cases h
      exact isShort_of_word? hword
    · exact isShort_of_number h

theorem items_succ (ih : ReadsShort standIn fuel) {found : List Json}
    (hfound : ∀ j ∈ found, j.IsShort)
    (h : itemsFrom standIn (fuel + 1) room found c = .ok (v, c')) : v.IsShort := by
  unfold itemsFrom at h
  split at h
  · cases h
  · next w c₁ hw =>
    have hmore := List.forall_mem_cons.mpr ⟨ih.value _ _ _ _ hw, hfound⟩
    dsimp only at h
    split at h
    · cases h
      exact .array fun j hj ↦ hmore j (List.mem_reverse.mp hj)
    · exact ih.items _ _ _ _ _ hmore h
    · cases h

theorem members_succ (ih : ReadsShort standIn fuel) {found : List (String × Json)}
    (hfound : ∀ m ∈ found, m.2.IsShort)
    (h : membersFrom standIn (fuel + 1) room found c = .ok (v, c')) : v.IsShort := by
  unfold membersFrom at h
  split at h
  · split at h
    · cases h
    · next name c₁ _ =>
      dsimp only at h
      split at h
      · split at h
        · cases h
        · next w c₂ hw =>
          have hmore : ∀ m ∈ (name, w) :: found, m.2.IsShort :=
            List.forall_mem_cons.mpr ⟨ih.value _ _ _ _ hw, hfound⟩
          split at h
          · cases h
            exact isShort_ofReversed hmore
          · exact ih.members _ _ _ _ _ hmore h
          · cases h
      · cases h
  · cases h

end ReadsShort

/-- By induction on the fuel, which the three readers share. -/
theorem readsShort (fuel : Nat) : ReadsShort standIn fuel := by
  induction fuel with
  | zero =>
    refine ⟨fun _ _ _ _ h ↦ ?_, fun _ _ _ _ _ _ h ↦ ?_, fun _ _ _ _ _ _ h ↦ ?_⟩
    · rw [value] at h
      cases h
    · rw [itemsFrom] at h
      cases h
    · rw [membersFrom] at h
      cases h
  | succ fuel ih =>
    exact ⟨fun _ _ _ _ ↦ ih.value_succ, fun _ _ _ _ _ ↦ ih.items_succ,
      fun _ _ _ _ _ ↦ ih.members_succ⟩

variable {standIn} in
/-- A text holds no whole number that is too long to be written, or it has no value. -/
theorem isShort_of_parse {s : String} {v : Json} (h : parse standIn s = .ok v) : v.IsShort := by
  rw [parse] at h
  dsimp only at h
  split at h
  · cases h
  · next hv =>
    split at h
    · cases h
      exact (readsShort standIn _).value _ _ _ _ hv
    · cases h

end Json

end SqlRender
