import Mathlib
import SqlRender.Api.Service
import SqlRender.Proofs.Numeral

namespace SqlRender.Api

namespace BodyLimit

variable {α : Type} {limit : Nat} {header : Option String} {method : String}
variable {chunks chunks' : List (List α)} {s : Intake α}

/-- The declared length or the length of the body is above the limit. -/
def IsTooLarge (limit : Nat) (header : Option String) (size : Nat) : Prop :=
  (∃ text ∈ header, ∃ n, Declares text n ∧ (limit : Int) < n) ∨ limit < size

/-- By induction on the chunks: those read so far fit, and the next one is refused just where all of
them together would be. -/
theorem foldlM_take? (hs : s.size ≤ limit) (chunks : List (List α)) :
    chunks.foldlM (Intake.take? limit) s =
      if limit < s.size + chunks.flatten.length then none
      else some ⟨chunks.reverse ++ s.chunks, s.size + chunks.flatten.length⟩ := by
  induction chunks generalizing s with
  | nil => exact (if_neg (Nat.not_lt.mpr hs)).symm
  | cons chunk chunks ih =>
    have hsize : s.size + (chunk :: chunks).flatten.length =
        s.size + chunk.length + chunks.flatten.length := by
      rw [List.flatten_cons, List.length_append, Nat.add_assoc]
    rw [List.foldlM_cons, Intake.take?, hsize]
    by_cases hchunk : limit < s.size + chunk.length
    · rw [if_pos hchunk, if_pos (Nat.lt_add_right _ hchunk)]
      rfl
    · rw [if_neg hchunk, List.reverse_cons, List.append_assoc]
      exact ih (Nat.not_lt.mp hchunk)

theorem foldlM_take?_start (limit : Nat) (chunks : List (List α)) :
    chunks.foldlM (Intake.take? limit) {} =
      if limit < chunks.flatten.length then none
      else some ⟨chunks.reverse, chunks.flatten.length⟩ := by
  have h := foldlM_take? (s := ({} : Intake α)) (Nat.zero_le limit) chunks
  rwa [List.append_nil, Nat.zero_add] at h

theorem collect_eq (limit : Nat) (chunks : List (List α)) :
    collect limit chunks = if limit < chunks.flatten.length then none else some chunks.flatten := by
  rw [collect, foldlM_take?_start]
  split
  · rfl
  · rw [Option.map_some, Intake.body, List.reverse_reverse]

/-- Nothing above the limit is kept at any time, also of a body that is refused in the end. -/
theorem body_of_foldlM_take? (h : chunks.foldlM (Intake.take? limit) {} = some s) :
    s.body = chunks.flatten ∧ s.body.length ≤ limit := by
  rw [foldlM_take?_start] at h
  obtain ⟨hsize, h⟩ := Option.ite_none_left_eq_some.mp h
  have hbody : s.body = chunks.flatten := by
    rw [← Option.some_inj.mp h, Intake.body, List.reverse_reverse]
  exact ⟨hbody, hbody ▸ Nat.not_lt.mp hsize⟩

theorem exceeds_iff :
    exceeds limit header = true ↔ ∃ text ∈ header, ∃ n, Declares text n ∧ (limit : Int) < n := by
  simp only [← declared?_eq_some_iff]
  cases header with
  | none => simp [exceeds]
  | some text => cases hdeclared : declared? text <;> simp [exceeds, hdeclared]

theorem receive_eq_collect (hmethod : method ∈ ["POST", "PUT", "PATCH"])
    (h : exceeds limit header = false) :
    receive limit header method chunks = collect limit chunks := by
  have hcounted : isCounted method = true := List.contains_iff_mem.mpr hmethod
  rw [receive, h, hcounted]
  rfl

theorem receive_of_isTooLarge (hmethod : method ∈ ["POST", "PUT", "PATCH"])
    (h : IsTooLarge limit header (chunks.map List.length).sum) :
    receive limit header method chunks = none := by
  cases hexceeds : exceeds limit header with
  | true => rw [receive, if_pos hexceeds]
  | false =>
    have hsize := h.resolve_left fun h ↦ by
      rw [exceeds_iff.mpr h] at hexceeds
      cases hexceeds
    rw [receive_eq_collect hmethod hexceeds, collect_eq, List.length_flatten, if_pos hsize]

theorem receive_of_not_isTooLarge (hmethod : method ∈ ["POST", "PUT", "PATCH"])
    (h : ¬IsTooLarge limit header (chunks.map List.length).sum) :
    receive limit header method chunks = some chunks.flatten := by
  obtain ⟨hheader, hsize⟩ := not_or.mp h
  have hexceeds : exceeds limit header = false :=
    Bool.eq_false_iff.mpr fun h ↦ hheader (exceeds_iff.mp h)
  rw [receive_eq_collect hmethod hexceeds, collect_eq, List.length_flatten, if_neg hsize]

theorem receive_congr (hflatten : chunks'.flatten = chunks.flatten) :
    receive limit header method chunks' = receive limit header method chunks := by
  rw [receive, receive, collect_eq, collect_eq, hflatten]

end BodyLimit

open BodyLimit

variable {tools : Sql.Tools} {settings : Settings} {registry : Registry} {standIn : Char}
  {o : Outcome}

theorem Outcome.status_eq_413_iff : o.status = 413 ↔ o = .tooLarge := by
  cases o <;> simp [status]

theorem listDialects_ne_tooLarge : listDialects settings registry ≠ .tooLarge := by
  rw [listDialects]
  split <;> nofun

theorem render_ne_tooLarge (r : RenderRequest) : render tools settings registry r ≠ .tooLarge := by
  rw [render]
  split
  · nofun
  · nofun
  · split <;> nofun
  · nofun

theorem checkRender_ne_tooLarge {j : Json} (h : checkRender tools settings registry j = .ok o) :
    o ≠ .tooLarge := by
  rw [checkRender] at h
  cases hread : RenderRequest.ofJson j with
  | ok r =>
    rw [hread] at h
    cases h
    exact render_ne_tooLarge r
  | problems ps =>
    rw [hread] at h
    cases h

theorem ofBody_ne_tooLarge {check : Json → Schema.Checked Outcome} {bytes : List UInt8}
    (h : ∀ j o, check j = .ok o → o ≠ .tooLarge) : ofBody check standIn bytes ≠ .tooLarge := by
  fun_cases ofBody check standIn bytes with
  | case6 _ _ _ j _ o hchecked => exact h j o hchecked
  | _ => nofun

theorem route_ne_tooLarge {method path : String} {body : List UInt8} :
    route tools settings registry method path standIn body ≠ .tooLarge := by
  rw [route]
  split
  · split <;> nofun
  · split
    · nofun
    · split
      · nofun
      · exact listDialects_ne_tooLarge
      · exact ofBody_ne_tooLarge fun _ _ ↦ checkRender_ne_tooLarge
      · nofun

variable {limit : Nat} {r : HttpRequest} {next : List UInt8 → Outcome}

theorem limited_of_receive_eq_none
    (h : receive limit (r.header? "content-length") r.method r.chunks = none) :
    limited limit r next = .tooLarge := by
  rw [limited, h]

theorem limited_of_receive_eq_some {body : List UInt8}
    (h : receive limit (r.header? "content-length") r.method r.chunks = some body) :
    limited limit r next = next body := by
  rw [limited, h]

theorem limited_congr {chunks : List (List UInt8)} (hflatten : chunks.flatten = r.chunks.flatten) :
    limited limit { r with chunks } next = limited limit r next := by
  have hreceive : receive limit (r.header? "content-length") r.method chunks =
      receive limit (r.header? "content-length") r.method r.chunks := receive_congr hflatten
  cases h : receive limit (r.header? "content-length") r.method r.chunks with
  | none => rw [limited_of_receive_eq_none h, limited_of_receive_eq_none (hreceive.trans h)]
  | some body => rw [limited_of_receive_eq_some h, limited_of_receive_eq_some (hreceive.trans h)]

/-- Whatever the chunks of a body are, it is refused just where its declared length or the sum of
their lengths is above the limit, and passed on in one piece where it is not. No more than the limit
is kept at any time. -/
theorem limited_by_size (hmethod : r.method ∈ ["POST", "PUT", "PATCH"]) (limit : Nat)
    (next : List UInt8 → Outcome) :
    let header := r.header? "content-length"
    let size := (r.chunks.map List.length).sum
    (IsTooLarge limit header size → limited limit r next = .tooLarge) ∧
    (¬IsTooLarge limit header size → limited limit r next = next r.chunks.flatten) ∧
    (∀ chunks, chunks.flatten = r.chunks.flatten →
      limited limit { r with chunks } next = limited limit r next) ∧
    (∀ read behind s, r.chunks = read ++ behind →
      read.foldlM (Intake.take? limit) {} = some s →
        s.body = read.flatten ∧ s.body.length ≤ limit) ∧
    ∀ tools settings registry standIn,
      (outcome tools settings registry r standIn).status = 413 ↔
        IsTooLarge bodyLimit header size := by
  intro header size
  have hlarge {limit : Nat} {next : List UInt8 → Outcome} (h : IsTooLarge limit header size) :
      limited limit r next = .tooLarge :=
    limited_of_receive_eq_none (receive_of_isTooLarge hmethod h)
  have hsmall {limit : Nat} {next : List UInt8 → Outcome} (h : ¬IsTooLarge limit header size) :
      limited limit r next = next r.chunks.flatten :=
    limited_of_receive_eq_some (receive_of_not_isTooLarge hmethod h)
  refine ⟨hlarge, hsmall, fun _ ↦ limited_congr, fun _ _ _ _ ↦ body_of_foldlM_take?, ?_⟩
  intro tools settings registry standIn
  rw [Outcome.status_eq_413_iff, outcome]
  refine ⟨fun h ↦ ?_, hlarge⟩
  by_contra hnot
  rw [hsmall hnot] at h
  exact route_ne_tooLarge h

theorem limited_by_size_of_chunks_at_limit :
    let tools : Sql.Tools := ⟨fun _ _ ↦ .pieces [true], .ok⟩
    let next : List UInt8 → Outcome := route tools { } Registry.standard "PUT" "/render" '?'
    let r : HttpRequest :=
      { method := "PUT"
        path := "/render"
        headers := [("content-length", " -1_0 ")]
        chunks := [[1, 2], [], [3]] }
    r.method ∈ ["POST", "PUT", "PATCH"] ∧ [[1], [2, 3]].flatten = r.chunks.flatten ∧
      limited 2 r next = .tooLarge ∧ limited 3 r next = next [1, 2, 3] ∧
      limited 3 { r with chunks := [[1], [2, 3]] } next = next [1, 2, 3] := by
  intro tools next r
  have hmethod : r.method ∈ ["POST", "PUT", "PATCH"] := by decide
  have hflatten : [[1], [2, 3]].flatten = r.chunks.flatten := rfl
  have hheader : declared? " -1_0 " = some (-10) := by decide
  have hsmall : ¬IsTooLarge 3 (r.header? "content-length") 3 := by
    rintro (⟨_, ⟨⟩, n, hn, hlt⟩ | hlt)
    · cases (declared?_eq_some_iff.mpr hn).symm.trans hheader
      omega
    · omega
  obtain ⟨hrefused, -⟩ := limited_by_size hmethod 2 next
  obtain ⟨-, hpassed, hsplit, -⟩ := limited_by_size hmethod 3 next
  refine ⟨hmethod, hflatten, hrefused (.inr (by decide)), hpassed hsmall, ?_⟩
  rw [hsplit _ hflatten]
  exact hpassed hsmall

end SqlRender.Api
