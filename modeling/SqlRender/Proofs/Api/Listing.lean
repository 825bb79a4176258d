import Mathlib.Data.List.Induction
import SqlRender.Api.Service

namespace SqlRender.Registry

open Api (listDialects)
open Text (lower)

variable {r : Registry} {d : Dialect} {ds added : List Dialect} {name : String}
variable {entries : List (String × Dialect)}

theorem lookup_filter_self : (entries.filter (·.1 ≠ name)).lookup name = none := by
  rw [List.lookup_eq_none_iff]
  intro entry hentry
  have hname := of_decide_eq_true (List.mem_filter.mp hentry).2
  rw [bne_iff_ne]
  exact hname.symm

theorem lookup_filter_of_ne {other : String} (h : name ≠ other) :
    (entries.filter (·.1 ≠ other)).lookup name = entries.lookup name := by
  induction entries with
  | nil => rfl
  | cons entry entries ih =>
    by_cases hentry : entry.1 = other
    · rw [List.filter_cons_of_neg (by simpa using hentry), ih, List.lookup_cons,
        beq_false_of_ne (hentry ▸ h)]
    · rw [List.filter_cons_of_pos (by simpa using hentry), List.lookup_cons, List.lookup_cons, ih]

theorem lookup_register (r : Registry) (d : Dialect) (name : String) :
    (r.register d).entries.lookup name =
      if d.name = name then some d else r.entries.lookup name := by
  rw [register, List.lookup_append]
  by_cases hname : d.name = name
  · subst hname
    rw [lookup_filter_self, List.lookup_cons_self, if_pos rfl, Option.none_or]
  · rw [lookup_filter_of_ne (Ne.symm hname), List.lookup_cons, beq_false_of_ne (Ne.symm hname),
      List.lookup_nil, if_neg hname, Option.or_none]

/-- The dialect that was registered last under the name. -/
def lastNamed? (ds : List Dialect) (name : String) : Option Dialect :=
  (ds.filter (·.name = name)).getLast?

theorem lastNamed?_concat (ds : List Dialect) (d : Dialect) (name : String) :
    lastNamed? (ds ++ [d]) name = if d.name = name then some d else lastNamed? ds name := by
  rw [lastNamed?, List.filter_append]
  by_cases hname : d.name = name
  · rw [List.filter_cons_of_pos (by simpa using hname), List.filter_nil, List.getLast?_concat,
      if_pos hname]
  · rw [List.filter_cons_of_neg (by simpa using hname), List.filter_nil, List.append_nil,
      if_neg hname, lastNamed?]

theorem name_of_lastNamed? (h : lastNamed? ds name = some d) : d.name = name :=
  of_decide_eq_true (List.mem_filter.mp (List.mem_of_getLast? h)).2

theorem isSome_lastNamed?_iff : (lastNamed? ds name).isSome ↔ ∃ d ∈ ds, d.name = name := by
  simp only [lastNamed?, List.getLast?_isSome, ne_eq, List.filter_eq_nil_iff, decide_eq_true_eq,
    not_forall, not_not, exists_prop]

/-- By induction on the registrations, from the last one back. -/
theorem lookup_foldl_register (ds : List Dialect) (r : Registry) (name : String) :
    (ds.foldl register r).entries.lookup name =
      (lastNamed? ds name).or (r.entries.lookup name) := by
  induction ds using List.reverseRecOn with
  | nil => rfl
  | append_singleton ds d ih =>
    rw [List.foldl_append, List.foldl_cons, List.foldl_nil, lookup_register, ih,
      lastNamed?_concat]
    split <;> rfl

/-- The dialects that are there from the start, and those registered behind them. -/
def history (added : List Dialect) : List Dialect :=
  [Dialect.clickhouse, Dialect.mysql, Dialect.postgres, Dialect.sqlite] ++ added

theorem lookup_registered (added : List Dialect) (name : String) :
    (added.foldl register standard).entries.lookup name = lastNamed? (history added) name := by
  rw [standard, ← List.foldl_append, lookup_foldl_register, List.lookup_nil, Option.or_none,
    history]

theorem mem_available_iff : name ∈ r.available ↔ (r.entries.lookup name).isSome := by
  rw [available, List.mem_mergeSort, List.lookup_isSome_iff, List.mem_map]
  refine exists_congr fun entry ↦ and_congr_right fun _ ↦ ?_
  rw [beq_iff_eq, eq_comm]

theorem mem_available_registered_iff :
    name ∈ (added.foldl register standard).available ↔ ∃ d ∈ history added, d.name = name := by
  rw [mem_available_iff, lookup_registered, isSome_lastNamed?_iff]

theorem toOption_get (r : Registry) (name : String) :
    (r.get name).toOption = r.entries.lookup (lower name) := by
  rw [get]
  cases r.entries.lookup (lower name) <;> rfl

theorem exists_get_iff : (∃ d, r.get name = .ok d) ↔ lower name ∈ r.available := by
  rw [mem_available_iff, ← toOption_get]
  cases r.get name <;> simp [Except.toOption]

theorem get_registered (added : List Dialect) (name : String) :
    let r := added.foldl register standard
    r.get name =
      (lastNamed? (history added) (lower name)).elim (.error ⟨name, r.available⟩) .ok := by
  intro r
  rw [get, lookup_registered]
  cases lastNamed? (history added) (lower name) <;> rfl

/-- A name that is not in small letters stands for the dialect of another name. -/
theorem toOption_get_eq_lastNamed?_iff (hname : ∃ d ∈ history added, d.name = name) :
    ((added.foldl register standard).get name).toOption = lastNamed? (history added) name ↔
      lower name = name := by
  rw [toOption_get, lookup_registered]
  constructor
  · intro h
    obtain ⟨d, hd⟩ := Option.isSome_iff_exists.mp (isSome_lastNamed?_iff.mpr hname)
    rw [hd] at h
    exact (name_of_lastNamed? h).symm.trans (name_of_lastNamed? hd)
  · intro h
    rw [h]

theorem mapM_get_eq_ok_iff {names : List String} {found : List (String × Dialect)} :
    (names.mapM fun name ↦ (r.get name).map (name, ·)) = .ok found ↔
      found.map Prod.fst = names ∧ ∀ entry ∈ found, r.get entry.1 = .ok entry.2 := by
  induction names generalizing found with
  | nil =>
    rw [List.map_eq_nil_iff]
    constructor
    · intro h
      cases h
      exact ⟨rfl, List.forall_mem_nil _⟩
    · rintro ⟨rfl, -⟩
      rfl
  | cons name names ih =>
    rw [List.mapM_cons, List.map_eq_cons_iff]
    constructor
    · intro h
      cases hget : r.get name with
      | error e =>
        rw [hget] at h
        cases h
      | ok d =>
        cases hrest : names.mapM fun name ↦ (r.get name).map (name, ·) with
        | error e =>
          rw [hget, hrest] at h
          cases h
        | ok rest =>
          rw [hget, hrest] at h
          cases h
          obtain ⟨hfst, hfound⟩ := ih.mp hrest
          exact ⟨⟨_, _, rfl, rfl, hfst⟩, List.forall_mem_cons.mpr ⟨hget, hfound⟩⟩
    · rintro ⟨⟨⟨_, d⟩, rest, rfl, rfl, hfst⟩, hfound⟩
      obtain ⟨hget, hfound⟩ := List.forall_mem_cons.mp hfound
      rw [hget, ih.mpr ⟨hfst, hfound⟩]
      rfl

theorem exists_get_of_mapM_error {names : List String} {e : UnknownDialect}
    (h : (names.mapM fun name ↦ (r.get name).map (name, ·)) = .error e) :
    ∃ name ∈ names, r.get name = .error e := by
  induction names with
  | nil => cases h
  | cons name names ih =>
    rw [List.mapM_cons] at h
    cases hget : r.get name with
    | error e' =>
      rw [hget] at h
      cases h
      exact ⟨name, List.mem_cons_self, hget⟩
    | ok d =>
      cases hrest : names.mapM fun name ↦ (r.get name).map (name, ·) with
      | error e' =>
        rw [hget, hrest] at h
        cases h
        obtain ⟨name', hname', hget'⟩ := ih hrest
        exact ⟨name', List.mem_cons_of_mem _ hname', hget'⟩
      | ok rest =>
        rw [hget, hrest] at h
        cases h

variable {settings : Settings}

theorem listDialects_eq_dialects_iff {found : List (String × Dialect)} :
    listDialects settings r = .dialects settings.dialect found ↔
      found.map Prod.fst = r.available ∧ ∀ entry ∈ found, r.get entry.1 = .ok entry.2 := by
  rw [← mapM_get_eq_ok_iff, listDialects]
  cases r.available.mapM fun name ↦ (r.get name).map (name, ·) <;> simp

theorem listDialects_cases (settings : Settings) (r : Registry) :
    (∃ found, listDialects settings r = .dialects settings.dialect found) ∨
      ∃ name ∈ r.available, ∃ e,
        r.get name = .error e ∧ listDialects settings r = .unfetched e := by
  rw [listDialects]
  cases hfound : r.available.mapM fun name ↦ (r.get name).map (name, ·) with
  | ok found => exact .inl ⟨found, rfl⟩
  | error e =>
    obtain ⟨name, hname, hget⟩ := exists_get_of_mapM_error hfound
    exact .inr ⟨name, hname, e, hget, rfl⟩

theorem exists_listDialects_iff :
    (∃ found, listDialects settings r = .dialects settings.dialect found) ↔
      ∀ name ∈ r.available, lower name ∈ r.available := by
  constructor
  · rintro ⟨found, hfound⟩ name hname
    obtain ⟨hfst, hget⟩ := listDialects_eq_dialects_iff.mp hfound
    rw [← hfst] at hname
    obtain ⟨entry, hentry, rfl⟩ := List.mem_map.mp hname
    exact exists_get_iff.mp ⟨entry.2, hget entry hentry⟩
  · intro h
    refine (listDialects_cases settings r).resolve_right ?_
    rintro ⟨name, hname, e, hget, -⟩
    obtain ⟨d, hd⟩ := exists_get_iff.mpr (h name hname)
    rw [hget] at hd
    cases hd

theorem lower_name_of_standard : ∀ d ∈ history [], lower d.name = d.name := by
  decide

/-- Only the name of a dialect that is registered later can have capitals. -/
theorem forall_lower_mem_available_iff :
    let r := added.foldl register standard
    (∀ name ∈ r.available, lower name ∈ r.available) ↔
      ∀ d ∈ added, lower d.name ∈ r.available := by
  constructor
  · intro h d hd
    refine h d.name (mem_available_registered_iff.mpr ⟨d, ?_, rfl⟩)
    exact List.mem_append_right _ hd
  · intro h name hname
    obtain ⟨d, hd, rfl⟩ := mem_available_registered_iff.mp hname
    rcases List.mem_append.mp hd with hstandard | hadded
    · rwa [lower_name_of_standard d hstandard]
    · exact h d hadded

/-- Dialects are listed under the names that they were registered with, and found by names in small
letters: the one found is the last registered under the name in small letters, which is the last
registered under the name itself just where that has no capitals. So the list of all dialects fails
just where one was registered under a name whose small letters are no listed name. -/
theorem get_of_registered (added : List Dialect) (settings : Settings) :
    let r := added.foldl register standard
    (∀ name, name ∈ r.available ↔ ∃ d ∈ history added, d.name = name) ∧
    (∀ name, r.get name =
      (lastNamed? (history added) (lower name)).elim (.error ⟨name, r.available⟩) .ok) ∧
    (∀ name, (∃ d, r.get name = .ok d) ↔ lower name ∈ r.available) ∧
    (∀ name ∈ r.available,
      (r.get name).toOption = lastNamed? (history added) name ↔ lower name = name) ∧
    (∀ name other, lower name = lower other → (r.get name).toOption = (r.get other).toOption) ∧
    ((∃ found, listDialects settings r = .dialects settings.dialect found ∧
        found.map Prod.fst = r.available ∧ ∀ entry ∈ found, r.get entry.1 = .ok entry.2) ↔
      ∀ d ∈ added, lower d.name ∈ r.available) ∧
    ((∃ e, listDialects settings r = .unfetched e) ↔ ∃ d ∈ added, lower d.name ∉ r.available) := by
  intro r
  have hlist : (∃ found, listDialects settings r = .dialects settings.dialect found) ↔
      ∀ d ∈ added, lower d.name ∈ r.available :=
    exists_listDialects_iff.trans forall_lower_mem_available_iff
  refine ⟨fun _ ↦ mem_available_registered_iff, get_registered added, fun _ ↦ exists_get_iff,
    ?_, ?_, ?_, ?_⟩
  · intro name hname
    exact toOption_get_eq_lastNamed?_iff (mem_available_registered_iff.mp hname)
  · intro name other hlower
    rw [toOption_get, toOption_get, hlower]
  · rw [← hlist]
    exact exists_congr fun found ↦ and_iff_left_of_imp listDialects_eq_dialects_iff.mp
  · have hexcluded : (∃ e, listDialects settings r = .unfetched e) ↔
        ¬∃ found, listDialects settings r = .dialects settings.dialect found := by
      rcases listDialects_cases settings r with ⟨found, h⟩ | ⟨-, -, e, -, h⟩ <;> simp [h]
    rw [hexcluded, hlist]
    simp only [not_forall, exists_prop]

theorem get_of_registered_capital :
    let plain : Dialect := { name := "duck" }
    let inlining : Dialect := { name := "duck", inlines := true }
    let added : List Dialect := [plain, { name := "Oracle" }, inlining]
    let r := added.foldl register standard
    "Oracle" ∈ r.available ∧ "duck" ∈ r.available ∧ lower "DuCK" = lower "duck" ∧
      r.get "duck" = .ok inlining ∧ (r.get "DuCK").toOption = some inlining ∧
      (r.get "Oracle").toOption ≠ lastNamed? (history added) "Oracle" ∧
      ∃ e, listDialects { } r = .unfetched e := by
  intro plain inlining added r
  obtain ⟨hmem, hget, -, hlast, hcase, -, hlist⟩ := get_of_registered added { }
  have hOracle : "Oracle" ∈ r.available := (hmem _).mpr ⟨{ name := "Oracle" }, by decide, rfl⟩
  have hduck : "duck" ∈ r.available := (hmem _).mpr ⟨plain, by decide, rfl⟩
  have hlower : lower "DuCK" = lower "duck" := by decide
  have hfound : r.get "duck" = .ok inlining := hget "duck"
  refine ⟨hOracle, hduck, hlower, hfound, ?_, ?_, ?_⟩
  · rw [hcase _ _ hlower, hfound]
    rfl
  · rw [ne_eq, hlast "Oracle" hOracle]
    decide
  · refine hlist.mpr ⟨{ name := "Oracle" }, by decide, ?_⟩
    rw [hmem]
    decide

theorem not_forall_exists_get :
    ¬∀ (added : List Dialect), let r := added.foldl register standard
      ∀ name ∈ r.available, ∃ d, r.get name = .ok d := by
  intro h
  have hOracle := h [{ name := "Oracle" }] "Oracle"
    (mem_available_registered_iff.mpr ⟨{ name := "Oracle" }, by decide, rfl⟩)
  rw [exists_get_iff, mem_available_registered_iff] at hOracle
  revert hOracle
  decide

end SqlRender.Registry
