import SqlRender.Api.Request

namespace SqlRender.Schema

variable {α β : Type}

namespace Checked

/-- What was read has the property, if anything was. -/
def Yields (P : α → Prop) (c : Checked α) : Prop := ∀ a, c = .ok a → P a

variable {P : α → Prop} {Q : β → Prop}

theorem yields_true (c : Checked α) : c.Yields fun _ ↦ True := fun _ _ ↦ trivial

theorem yields_ok {a : α} (h : P a) : (Checked.ok a).Yields P := by
  rintro _ ⟨⟩
  exact h

theorem yields_fail (kind : ProblemKind) (input : Json) :
    (Checked.fail kind input : Checked α).Yields P := nofun

theorem Yields.map {f : α → β} {c : Checked α} (h : c.Yields fun a ↦ Q (f a)) :
    (f <$> c).Yields Q := by
  intro b hb
  cases c with
  | ok a =>
    cases hb
    exact h a rfl
  | problems ps => cases hb

theorem Yields.seq {f : Checked (α → β)} {c : Checked α}
    (hf : f.Yields fun g ↦ ∀ a, P a → Q (g a)) (hc : c.Yields P) : (f <*> c).Yields Q := by
  intro b hb
  cases f with
  | ok g =>
    cases c with
    | ok a =>
      cases hb
      exact hf g rfl a (hc a rfl)
    | problems ps => cases hb
  | problems ps => cases c <;> cases hb

theorem Yields.under {c : Checked α} (h : c.Yields P) (place : Place) :
    (c.under place).Yields P := by
  intro a ha
  cases c with
  | ok a' => exact h a ha
  | problems ps => cases ha

theorem Yields.andThen {c : Checked α} {f : α → Checked β} (hc : c.Yields P)
    (hf : ∀ a, P a → (f a).Yields Q) : (c.andThen f).Yields Q := by
  cases c with
  | ok a => exact hf a (hc a rfl)
  | problems ps => exact nofun

end Checked

open Checked

/-- What holds of a JSON value holds of all that stands in it. -/
structure IsHereditary (F : Json → Prop) : Prop where
  items : ∀ items, F (.array items) → ∀ j ∈ items, F j
  members : ∀ members, F (.object members) → ∀ m ∈ members, F m.2

variable {P : α → Prop} {F : Json → Prop} {check : Json → Checked α}
  {members : List (String × Json)}

theorem of_lookup (hmembers : ∀ m ∈ members, F m.2) {name : String} {j : Json}
    (h : members.lookup name = some j) : F j := by
  obtain ⟨before, behind, rfl, -⟩ := List.lookup_eq_some_iff.mp h
  exact hmembers (name, j) (List.mem_append_right _ List.mem_cons_self)

theorem yields_required (h : ∀ j, F j → (check j).Yields P) (hmembers : ∀ m ∈ members, F m.2)
    (name : String) : (required members name check).Yields P := by
  refine Yields.under ?_ (.name name)
  split
  · next j hj => exact h j (of_lookup hmembers hj)
  · exact yields_fail _ _

theorem yields_defaulted (default : α) (hdefault : P default) (h : ∀ j, F j → (check j).Yields P)
    (hmembers : ∀ m ∈ members, F m.2) (name : String) :
    (defaulted members name default check).Yields P := by
  unfold defaulted
  split
  · next j hj => exact (h j (of_lookup hmembers hj)).under _
  · exact yields_ok hdefault

theorem yields_nullable (h : ∀ j, F j → (check j).Yields P) (j : Json) (hj : F j) :
    (nullable check j).Yields fun o ↦ ∀ a ∈ o, P a := by
  unfold nullable
  split
  · exact yields_ok nofun
  · refine Yields.map (f := some) fun a ha b hb ↦ ?_
    cases hb
    exact h _ hj a ha

theorem yields_list (hF : IsHereditary F) (h : ∀ j, F j → (check j).Yields P) (j : Json)
    (hj : F j) : (list check j).Yields fun as ↦ ∀ a ∈ as, P a := by
  have hitems (items : List Json) (index : Nat) (hall : ∀ j ∈ items, F j) :
      (itemsFrom check index items).Yields fun as ↦ ∀ a ∈ as, P a := by
    induction items generalizing index with
    | nil => exact yields_ok nofun
    | cons j rest ih =>
      obtain ⟨hfirst, hrest⟩ := List.forall_mem_cons.mp hall
      refine .seq (.map fun a ha as has ↦ ?_) (ih (index + 1) hrest)
      exact List.forall_mem_cons.mpr ⟨(h j hfirst).under _ a ha, has⟩
  cases j with
  | array items => exact hitems items 0 (hF.items items hj)
  | _ => exact yields_fail _ _

end SqlRender.Schema

namespace SqlRender.Api

open Schema Schema.Checked

theorem yields_members {F : Json → Prop} (hF : IsHereditary F) {j : Json} (hj : F j) :
    (members j).Yields fun ms ↦ ∀ m ∈ ms, F m.2 := by
  cases j with
  | object ms => exact yields_ok (hF.members ms hj)
  | _ => exact yields_fail _ _

theorem yields_tagged {α : Type} {P : α → Prop} {tag : String} {ms : List (String × Json)}
    {case? : String → Option (Schema.Checked α)}
    (h : ∀ word, ∀ c ∈ case? word, c.Yields P) : (tagged tag ms case?).Yields P := by
  unfold tagged
  split
  · exact yields_fail _ _
  · split
    · next result hresult => exact (h _ result hresult).under _
    · exact yields_fail _ _
  · exact yields_fail _ _

end SqlRender.Api
