import SqlRender.Proofs.Enclosed

namespace SqlRender.Template

open ScanState

section Glue

variable {α : Type} [Append α]

/-- Two lists of segments, of which the last of the first and the first of the second are one. -/
def glue : List α → List α → List α
  | [], ys => ys
  | [x], [] => [x]
  | [x], y :: ys => (x ++ y) :: ys
  | x :: x' :: xs, ys => x :: glue (x' :: xs) ys

theorem glue_cons (x : α) {xs : List α} (h : xs ≠ []) (ys : List α) :
    glue (x :: xs) ys = x :: glue xs ys := by
  cases xs with
  | nil => contradiction
  | cons x' xs => rw [glue]

theorem map_glue {β : Type} [Append β] {f : α → β} (hf : ∀ x y, f (x ++ y) = f x ++ f y)
    (xs ys : List α) : (glue xs ys).map f = glue (xs.map f) (ys.map f) := by
  induction xs with
  | nil => simp only [glue, List.map_nil]
  | cons x xs ih =>
    cases xs with
    | nil => cases ys <;> simp only [glue, List.map_cons, List.map_nil, hf]
    | cons x' xs =>
      rw [List.map_cons] at ih
      rw [glue_cons x (List.cons_ne_nil _ _), List.map_cons, ih, List.map_cons, List.map_cons,
        glue_cons _ (List.cons_ne_nil _ _)]

end Glue

theorem consHead_glue (c : Char) {xs : List (List Char)} (h : xs ≠ []) (ys : List (List Char)) :
    consHead c (glue xs ys) = glue (consHead c xs) ys := by
  cases xs with
  | nil => contradiction
  | cons x xs =>
    cases xs with
    | nil => cases ys <;> simp only [glue, consHead, List.cons_append]
    | cons x' xs => simp only [glue, consHead]

variable (backslashEscapes : Bool)

/-- Segments of a text that is continued are those of both parts, glued where they meet. -/
theorem segmentsFrom_append (s : ScanState) (xs ys : List Char) :
    segmentsFrom backslashEscapes s (xs ++ ys) =
      glue (segmentsFrom backslashEscapes s xs)
        (segmentsFrom backslashEscapes (s.after backslashEscapes xs) ys) := by
  induction xs generalizing s with
  | nil =>
    obtain ⟨first, rest, hys⟩ :=
      List.exists_cons_of_ne_nil (segmentsFrom_ne_nil backslashEscapes s ys)
    simp only [List.nil_append, segmentsFrom, after, List.foldl_nil, hys, glue]
  | cons c cs ih =>
    rw [List.cons_append, segmentsFrom, segmentsFrom, after_cons]
    by_cases hmarker : s = .normal ∧ c = '?'
    · obtain ⟨rfl, rfl⟩ := hmarker
      rw [if_pos ⟨rfl, rfl⟩, if_pos ⟨rfl, rfl⟩, glue_cons _ (segmentsFrom_ne_nil _ _ _), ih]
      rfl
    · rw [if_neg hmarker, if_neg hmarker, ih, consHead_glue c (segmentsFrom_ne_nil _ _ _)]

/-- Segments joined with markers give the text back. -/
theorem intercalate_segmentsFrom (s : ScanState) (cs : List Char) :
    ['?'].intercalate (segmentsFrom backslashEscapes s cs) = cs := by
  induction cs generalizing s with
  | nil => rw [segmentsFrom, List.intercalate_singleton]
  | cons c cs ih =>
    rw [segmentsFrom]
    by_cases hmarker : s = .normal ∧ c = '?'
    · have hne := segmentsFrom_ne_nil backslashEscapes .normal cs
      rw [if_pos hmarker, List.intercalate_cons_of_ne_nil hne, ih, hmarker.2]
      rfl
    · rw [if_neg hmarker]
      have hrest := ih (s.next backslashEscapes c)
      cases h : segmentsFrom backslashEscapes (s.next backslashEscapes c) cs with
      | nil => exact absurd h (segmentsFrom_ne_nil _ _ _)
      | cons segment rest =>
        rw [h] at hrest
        rw [consHead, List.intercalate_cons_cons_left, hrest]

theorem intercalate_segments (sql : String) :
    "?".intercalate (segments backslashEscapes sql) = sql := by
  have hchars := intercalate_segmentsFrom backslashEscapes .normal sql.toList
  apply String.toList_injective
  rw [String.toList_intercalate, segments, List.map_map]
  simpa [Function.comp_def] using hchars

/-- A text without markers outside quotes is one segment. -/
theorem segmentsFrom_of_not_mem {s : ScanState} {cs : List Char}
    (h : '?' ∉ s.unquoted backslashEscapes cs) :
    segmentsFrom backslashEscapes s cs = [cs] := by
  have hlength := length_segmentsFrom backslashEscapes s cs
  rw [List.count_eq_zero.mpr h] at hlength
  obtain ⟨segment, hsegment⟩ := List.length_eq_one_iff.mp hlength
  have hchars := intercalate_segmentsFrom backslashEscapes s cs
  rw [hsegment, List.intercalate_singleton] at hchars
  rw [hsegment, hchars]

/-- Inside a region that `quote` began the character takes away the meaning of the next one. -/
def Escapes (quote c : Char) : Prop := backslashEscapes = true ∧ c = '\\' ∧ quote ≠ '\x60'

/-- What may stand between the quotes of a region: no quote that could end it. -/
inductive IsInside (quote : Char) : List Char → Prop
  | nil : IsInside quote []
  | char {c : Char} {cs : List Char} (hquote : c ≠ quote)
    (hescape : ¬Escapes backslashEscapes quote c) (h : IsInside quote cs) :
    IsInside quote (c :: cs)
  | escape {c c' : Char} {cs : List Char} (hescape : Escapes backslashEscapes quote c)
    (h : IsInside quote cs) : IsInside quote (c :: c' :: cs)

inductive Part where
  | outside (c : Char)
  | region (text : List Char)
  /-- A region without an end. -/
  | openRegion (text : List Char)
  deriving DecidableEq

def Part.chars : Part → List Char
  | outside c => [c]
  | region text => text
  | openRegion text => text

/-- A region begins with a quote outside of regions, and ends with the first such quote that can
end it, or else with the text. -/
inductive Divided : List Char → List Part → Prop
  | nil : Divided [] []
  | outside {c : Char} {cs : List Char} {parts : List Part} (hc : isQuote c = false)
    (h : Divided cs parts) : Divided (c :: cs) (.outside c :: parts)
  | region {quote : Char} {body cs : List Char} {parts : List Part} (hquote : isQuote quote = true)
    (hbody : IsInside backslashEscapes quote body) (h : Divided cs parts) :
    Divided (quote :: (body ++ quote :: cs)) (.region (quote :: (body ++ [quote])) :: parts)
  | openRegion {quote : Char} {cs : List Char} (hquote : isQuote quote = true)
    (h : ∀ body rest, IsInside backslashEscapes quote body → cs ≠ body ++ quote :: rest) :
    Divided (quote :: cs) [.openRegion (quote :: cs)]

/-- The characters between the markers outside of regions. -/
def cutAtMarkers (parts : List Part) : List (List Char) :=
  (parts.splitOnP (· = .outside '?')).map (List.flatMap Part.chars)

theorem cutAtMarkers_marker (parts : List Part) :
    cutAtMarkers (.outside '?' :: parts) = [] :: cutAtMarkers parts := by
  simp [cutAtMarkers, List.splitOnP_cons_eq_if_modifyHead]

theorem cutAtMarkers_cons {p : Part} (hp : p ≠ .outside '?') (parts : List Part) :
    cutAtMarkers (p :: parts) = glue [p.chars] (cutAtMarkers parts) := by
  unfold cutAtMarkers
  rw [List.splitOnP_cons_eq_if_modifyHead, if_neg (by simpa using hp)]
  cases h : parts.splitOnP (· = .outside '?') with
  | nil => exact absurd h (List.splitOnP_ne_nil _ _)
  | cons first rest => simp [glue]

variable {backslashEscapes} {quote : Char}

theorem next_of_escapes {c : Char} (h : Escapes backslashEscapes quote c) :
    (quoted quote false).next backslashEscapes c = quoted quote true := by
  obtain ⟨rfl, rfl, hback⟩ := h
  simp [next, hback]

theorem isAbsorbed_escaped {c : Char} (h : Escapes backslashEscapes quote c) (c' : Char) :
    IsAbsorbed backslashEscapes quote [c, c'] := by
  constructor
  · rw [after_cons, next_of_escapes h]
    rfl
  · rw [unquoted_cons_of_quoted, next_of_escapes h, unquoted_cons_of_quoted]
    rfl

theorem isAbsorbed_of_not_escapes {c : Char} (hquote : c ≠ quote)
    (h : ¬Escapes backslashEscapes quote c) : IsAbsorbed backslashEscapes quote [c] := by
  apply isAbsorbed_char hquote
  cases backslashEscapes with
  | false => exact .inl rfl
  | true =>
    by_cases hslash : c = '\\'
    · by_cases hback : quote = '\x60'
      · exact .inr (.inr hback)
      · exact absurd ⟨rfl, hslash, hback⟩ h
    · exact .inr (.inl hslash)

theorem IsInside.isAbsorbed {cs : List Char} (h : IsInside backslashEscapes quote cs) :
    IsAbsorbed backslashEscapes quote cs := by
  induction h with
  | nil => exact ⟨rfl, rfl⟩
  | char hquote hescape _ ih => exact (isAbsorbed_of_not_escapes hquote hescape).append ih
  | @escape c c' cs hescape _ ih => exact (isAbsorbed_escaped hescape c').append ih

theorem IsInside.isHidden (hquote : isQuote quote = true) {body : List Char}
    (h : IsInside backslashEscapes quote body) :
    normal.after backslashEscapes (quote :: (body ++ [quote])) = normal ∧
      normal.unquoted backslashEscapes (quote :: (body ++ [quote])) = [] := by
  have hhidden := isHidden_of_isAbsorbed hquote h.isAbsorbed String.toList_ofList
  rwa [IsHidden, IsClosed, unquoted, String.toList_ofList] at hhidden

/-- A region that does not end hides all that is left of the text. -/
theorem unquoted_of_endless (cs : List Char)
    (h : ∀ body rest, IsInside backslashEscapes quote body → cs ≠ body ++ quote :: rest) :
    (quoted quote false).unquoted backslashEscapes cs = [] := by
  match cs with
  | [] => rfl
  | c :: cs =>
    have hquote : c ≠ quote := by
      intro heq
      exact h [] cs .nil (by rw [heq, List.nil_append])
    rw [unquoted_cons_of_quoted]
    by_cases hescape : Escapes backslashEscapes quote c
    · rw [next_of_escapes hescape]
      match cs with
      | [] => rfl
      | c' :: cs =>
        rw [unquoted_cons_of_quoted]
        apply unquoted_of_endless cs
        intro body rest hbody heq
        exact h (c :: c' :: body) rest (.escape hescape hbody) (by rw [heq]; rfl)
    · have hnext : (quoted quote false).next backslashEscapes c = quoted quote false :=
        (isAbsorbed_of_not_escapes hquote hescape).1
      rw [hnext]
      apply unquoted_of_endless cs
      intro body rest hbody heq
      exact h (c :: body) rest (.char hquote hescape hbody) (by rw [heq]; rfl)

/-- The quote that ends a region is the first one that can. -/
theorem IsInside.eq_of_append_eq (hquote : isQuote quote = true) {body body' rest rest' : List Char}
    (h : IsInside backslashEscapes quote body) (h' : IsInside backslashEscapes quote body')
    (heq : body ++ quote :: rest = body' ++ quote :: rest') : body = body' ∧ rest = rest' := by
  have hslash : ¬Escapes backslashEscapes quote quote := by
    rintro ⟨-, rfl, -⟩
    cases hquote
  induction h generalizing body' with
  | nil =>
    cases h' with
    | nil => simpa using heq
    | char hne => simp_all
    | escape hescape => simp_all
  | char hne hescape _ ih =>
    cases h' with
    | nil => simp_all
    | char _ _ h' =>
      simp only [List.cons_append, List.cons.injEq] at heq
      obtain ⟨rfl, hrest⟩ := heq
      obtain ⟨rfl, rfl⟩ := ih h' hrest
      exact ⟨rfl, rfl⟩
    | escape hescape' => simp_all
  | escape hescape _ ih =>
    cases h' with
    | nil => simp_all
    | char _ hescape' => simp_all
    | escape _ h' =>
      simp only [List.cons_append, List.cons.injEq] at heq
      obtain ⟨rfl, rfl, hrest⟩ := heq
      obtain ⟨rfl, rfl⟩ := ih h' hrest
      exact ⟨rfl, rfl⟩

variable (backslashEscapes) in
theorem exists_divided (text : List Char) : ∃ parts, Divided backslashEscapes text parts := by
  cases text with
  | nil => exact ⟨[], .nil⟩
  | cons c cs =>
    cases hc : isQuote c with
    | false =>
      obtain ⟨parts, h⟩ := exists_divided cs
      exact ⟨_, .outside hc h⟩
    | true =>
      by_cases hends : ∃ body rest, IsInside backslashEscapes c body ∧ cs = body ++ c :: rest
      · obtain ⟨body, rest, hbody, hcs⟩ := hends
        obtain ⟨parts, h⟩ := exists_divided rest
        rw [hcs]
        exact ⟨_, .region hc hbody h⟩
      · refine ⟨_, .openRegion hc ?_⟩
        intro body rest hbody heq
        exact hends ⟨body, rest, hbody, heq⟩
termination_by text.length
decreasing_by
  · simp
  · simp only [hcs, List.length_cons, List.length_append]
    omega

namespace Divided

variable {text text' : List Char} {parts parts' : List Part}

/-- There is only one way to divide a text. -/
theorem unique (h : Divided backslashEscapes text parts)
    (h' : Divided backslashEscapes text' parts') (heq : text = text') : parts = parts' := by
  induction h generalizing text' parts' with
  | nil =>
    cases h' with
    | nil => rfl
    | _ => cases heq
  | outside hc _ ih =>
    cases h' with
    | nil => cases heq
    | outside _ h' =>
      obtain ⟨rfl, hrest⟩ := List.cons.inj heq
      rw [ih h' hrest]
    | region hquote => simp_all
    | openRegion hquote => simp_all
  | region hquote hbody _ ih =>
    cases h' with
    | nil => cases heq
    | outside hc => simp_all
    | region _ hbody' h' =>
      obtain ⟨rfl, hrest⟩ := List.cons.inj heq
      obtain ⟨rfl, rfl⟩ := hbody.eq_of_append_eq hquote hbody' hrest
      rw [ih h' rfl]
    | openRegion _ hendless =>
      obtain ⟨rfl, hrest⟩ := List.cons.inj heq
      exact absurd hrest.symm (hendless _ _ hbody)
  | openRegion hquote hendless =>
    cases h' with
    | nil => cases heq
    | outside hc => simp_all
    | region _ hbody' =>
      obtain ⟨rfl, hrest⟩ := List.cons.inj heq
      exact absurd hrest (hendless _ _ hbody')
    | openRegion => rw [heq]

/-- Where no region is left open a scan is outside quotes. -/
theorem after_eq (h : Divided backslashEscapes text parts)
    (hopen : ∀ rest, .openRegion rest ∉ parts) : normal.after backslashEscapes text = normal := by
  induction h with
  | nil => rfl
  | outside hc _ ih =>
    rw [after_cons, next_normal_of_not_isQuote _ hc]
    exact ih fun rest hrest ↦ hopen rest (List.mem_cons_of_mem _ hrest)
  | @region quote body cs parts hquote hbody _ ih =>
    have hsplit : quote :: (body ++ quote :: cs) = quote :: (body ++ [quote]) ++ cs := by simp
    rw [hsplit, after_append, (hbody.isHidden hquote).1]
    exact ih fun rest hrest ↦ hopen rest (List.mem_cons_of_mem _ hrest)
  | openRegion => exact absurd List.mem_cons_self (hopen _)

theorem segmentsFrom_eq (h : Divided backslashEscapes text parts) :
    segmentsFrom backslashEscapes normal text = cutAtMarkers parts := by
  induction h with
  | nil => rfl
  | @outside c cs parts hc _ ih =>
    by_cases hmarker : c = '?'
    · subst hmarker
      rw [segmentsFrom, if_pos ⟨rfl, rfl⟩, ih, cutAtMarkers_marker]
    · have hnext := next_normal_of_not_isQuote backslashEscapes hc
      have hfirst : '?' ∉ normal.unquoted backslashEscapes [c] := by
        simp [ScanState.unquoted, hnext, Ne.symm hmarker]
      have hafter : normal.after backslashEscapes [c] = normal := hnext
      rw [← List.singleton_append, segmentsFrom_append, segmentsFrom_of_not_mem _ hfirst, hafter,
        ih, cutAtMarkers_cons (by simpa using hmarker)]
      rfl
  | @region quote body cs parts hquote hbody _ ih =>
    have hsplit : quote :: (body ++ quote :: cs) = quote :: (body ++ [quote]) ++ cs := by simp
    obtain ⟨hafter, hunquoted⟩ := hbody.isHidden hquote
    have hfirst : '?' ∉ normal.unquoted backslashEscapes (quote :: (body ++ [quote])) := by
      rw [hunquoted]
      exact List.not_mem_nil
    rw [hsplit, segmentsFrom_append, segmentsFrom_of_not_mem _ hfirst, hafter, ih,
      cutAtMarkers_cons (by simp)]
    rfl
  | @openRegion quote cs hquote hendless =>
    have hfirst : '?' ∉ normal.unquoted backslashEscapes (quote :: cs) := by
      rw [unquoted_cons_of_isQuote _ hquote, unquoted_of_endless cs hendless]
      exact List.not_mem_nil
    rw [segmentsFrom_of_not_mem _ hfirst, cutAtMarkers_cons (by simp)]
    simp [cutAtMarkers, glue, Part.chars]

end Divided

theorem segments_append {sql : String} (h : IsClosed backslashEscapes sql) (behind : String) :
    segments backslashEscapes (sql ++ behind) =
      glue (segments backslashEscapes sql) (segments backslashEscapes behind) := by
  rw [segments, String.toList_append, segmentsFrom_append, h,
    map_glue fun _ _ ↦ String.ofList_append]
  rfl

variable (backslashEscapes) in
/-- A text is cut just at its markers outside quoted regions. Behind a text that leaves no region
open another text is cut as if it stood alone. -/
theorem segments_eq_cutAtMarkers (sql : String) :
    "?".intercalate (segments backslashEscapes sql) = sql ∧
    ∃ parts, Divided backslashEscapes sql.toList parts ∧
      (∀ parts', Divided backslashEscapes sql.toList parts' → parts' = parts) ∧
      segments backslashEscapes sql = (cutAtMarkers parts).map String.ofList ∧
      ((∀ rest, .openRegion rest ∉ parts) →
        ∀ behind, segments backslashEscapes (sql ++ behind) =
          glue (segments backslashEscapes sql) (segments backslashEscapes behind)) := by
  refine ⟨intercalate_segments backslashEscapes sql, ?_⟩
  obtain ⟨parts, hparts⟩ := exists_divided backslashEscapes sql.toList
  refine ⟨parts, hparts, ?_, ?_, ?_⟩
  · intro parts' hparts'
    exact hparts'.unique hparts rfl
  · rw [segments, hparts.segmentsFrom_eq]
  · intro hopen behind
    have hclosed : IsClosed backslashEscapes sql := hparts.after_eq hopen
    exact segments_append hclosed behind

-- The escaped quote does not end its region; between backticks a backslash escapes nothing.
example : segments true "'\\'?' ? \x60\\\x60?" = ["'\\'?' ", " \x60\\\x60", ""] := by
  decide

end SqlRender.Template
