import SqlRender.Proofs.Literal
import SqlRender.Proofs.ModeAgreement

namespace SqlRender

namespace Template

open ScanState

variable (backslashEscapes : Bool)

/-- Two dashes meet outside quotes, and the rest of their line is a comment. -/
def OpensComment (s : ScanState) (cs : List Char) : Prop :=
  ∃ before behind, cs = before ++ '-' :: '-' :: behind ∧ s.after backslashEscapes before = normal

def EndsInDash (s : ScanState) (cs : List Char) : Prop :=
  ∃ before, cs = before ++ ['-'] ∧ s.after backslashEscapes before = normal

variable {backslashEscapes}

theorem not_opensComment_nil {s : ScanState} : ¬OpensComment backslashEscapes s [] := by
  rintro ⟨before, behind, heq, -⟩
  exact absurd heq.symm (List.append_ne_nil_of_right_ne_nil _ (List.cons_ne_nil _ _))

theorem not_endsInDash_nil {s : ScanState} : ¬EndsInDash backslashEscapes s [] := by
  rintro ⟨before, heq, -⟩
  exact absurd heq.symm (List.append_ne_nil_of_right_ne_nil _ (List.cons_ne_nil _ _))

theorem opensComment_cons {s : ScanState} {c : Char} {cs : List Char} :
    OpensComment backslashEscapes s (c :: cs) ↔
      (s = normal ∧ c = '-' ∧ cs.head? = some '-') ∨
        OpensComment backslashEscapes (s.next backslashEscapes c) cs := by
  constructor
  · rintro ⟨_ | ⟨b, before⟩, behind, heq, hs⟩
    · obtain ⟨rfl, rfl⟩ := List.cons.inj heq
      exact .inl ⟨hs, rfl, rfl⟩
    · obtain ⟨rfl, rfl⟩ := List.cons.inj heq
      exact .inr ⟨before, behind, rfl, hs⟩
  · rintro (⟨hs, rfl, hhead⟩ | ⟨before, behind, rfl, hs⟩)
    · obtain ⟨behind, rfl⟩ := List.head?_eq_some_iff.mp hhead
      exact ⟨[], behind, rfl, hs⟩
    · exact ⟨c :: before, behind, rfl, hs⟩

theorem endsInDash_cons {s : ScanState} {c : Char} {cs : List Char} (hcs : cs ≠ []) :
    EndsInDash backslashEscapes s (c :: cs) ↔
      EndsInDash backslashEscapes (s.next backslashEscapes c) cs := by
  constructor
  · rintro ⟨_ | ⟨b, before⟩, heq, hs⟩
    · exact absurd (List.cons.inj heq).2 hcs
    · obtain ⟨rfl, rfl⟩ := List.cons.inj heq
      exact ⟨before, rfl, hs⟩
  · rintro ⟨before, rfl, hs⟩
    exact ⟨c :: before, rfl, hs⟩

theorem endsInDash_singleton {s : ScanState} {c : Char} :
    EndsInDash backslashEscapes s [c] ↔ s = normal ∧ c = '-' := by
  constructor
  · rintro ⟨_ | ⟨b, before⟩, heq, hs⟩
    · exact ⟨hs, (List.cons.inj heq).1⟩
    · exact absurd ⟨before, (List.cons.inj heq).2, hs⟩ not_endsInDash_nil
  · rintro ⟨hs, rfl⟩
    exact ⟨[], rfl, hs⟩

/-- A comment begins in one of two texts, or with a dash of each where they meet. -/
theorem opensComment_append {s : ScanState} {xs ys : List Char} :
    OpensComment backslashEscapes s (xs ++ ys) ↔
      OpensComment backslashEscapes s xs ∨
        (EndsInDash backslashEscapes s xs ∧ ys.head? = some '-') ∨
          OpensComment backslashEscapes (s.after backslashEscapes xs) ys := by
  induction xs generalizing s with
  | nil =>
    simp only [List.nil_append, not_opensComment_nil, not_endsInDash_nil, false_and, false_or]
    rfl
  | cons c cs ih =>
    rw [List.cons_append, opensComment_cons, opensComment_cons, ih, after_cons]
    cases cs with
    | nil =>
      simp only [List.nil_append, not_opensComment_nil, not_endsInDash_nil, endsInDash_singleton,
        List.head?_nil, reduceCtorEq, and_false, false_and, false_or, and_assoc]
    | cons c' cs =>
      rw [endsInDash_cons (List.cons_ne_nil _ _), List.cons_append, List.head?_cons,
        List.head?_cons, or_assoc]

theorem not_dashesApart_append_dash (cs : List Char) : ¬DashesApart (cs ++ ['-']) := by
  induction cs with
  | nil => exact fun h ↦ h rfl
  | cons c cs ih =>
    intro h
    cases cs with
    | nil => exact ih h.2
    | cons c' cs => exact ih h.2

theorem IsTidy.not_opensComment {markers : Nat} {sql : String}
    (h : IsTidy backslashEscapes markers sql) :
    ¬OpensComment backslashEscapes normal sql.toList := by
  rintro ⟨before, behind, heq, hs⟩
  have hdashes := h.dashes.not_adjacent
  rw [unquoted, heq, unquoted_append, hs] at hdashes
  exact hdashes ⟨_, _, List.append_assoc _ ['-', '-'] _⟩

theorem IsTidy.not_endsInDash {markers : Nat} {sql : String}
    (h : IsTidy backslashEscapes markers sql) :
    ¬EndsInDash backslashEscapes normal sql.toList := by
  rintro ⟨before, heq, hs⟩
  have hdashes := h.dashes
  rw [unquoted, heq, unquoted_append, hs] at hdashes
  exact not_dashesApart_append_dash _ hdashes

/-- A region is opened by a quote. -/
def ScanState.Proper : ScanState → Prop
  | normal => True
  | quoted quote _ => isQuote quote = true

theorem ScanState.Proper.next {s : ScanState} (hs : s.Proper) (c : Char) :
    (s.next backslashEscapes c).Proper := by
  cases s with
  | normal =>
    rw [ScanState.next]
    split
    · next hquote => exact hquote
    · exact trivial
  | quoted quote escaped =>
    cases escaped with
    | true => exact hs
    | false =>
      rw [ScanState.next]
      split
      · exact hs
      · split
        · exact trivial
        · exact hs

theorem ScanState.Proper.after {s : ScanState} (hs : s.Proper) (cs : List Char) :
    (s.after backslashEscapes cs).Proper := by
  induction cs generalizing s with
  | nil => exact hs
  | cons c cs ih => exact ih (hs.next c)

/-- A text that ends outside quotes ends in a dash there if it ends in one at all. -/
theorem endsInDash_iff_of_after {cs : List Char} (h : normal.after backslashEscapes cs = normal) :
    EndsInDash backslashEscapes normal cs ↔ cs.getLast? = some '-' := by
  rw [List.getLast?_eq_some_iff]
  constructor
  · rintro ⟨before, heq, -⟩
    exact ⟨before, heq⟩
  · rintro ⟨before, rfl⟩
    refine ⟨before, rfl, ?_⟩
    rw [after_append, after_cons] at h
    change next backslashEscapes _ '-' = normal at h
    have hproper : (normal.after backslashEscapes before).Proper :=
      ScanState.Proper.after (s := normal) trivial before
    -- Inside a region the dash would have to close it, and it is no quote.
    cases hs : normal.after backslashEscapes before with
    | normal => rfl
    | quoted quote escaped =>
      rw [hs] at h hproper
      cases escaped with
      | true => cases h
      | false =>
        rw [next] at h
        split at h
        · cases h
        · split at h
          · next hdash =>
            rw [← hdash] at hproper
            cases hproper
          · cases h

/-- Every segment but the last one ends outside quotes. -/
def LeadsOut (backslashEscapes : Bool) (s : ScanState) : List (List Char) → Prop
  | [] | [_] => True
  | cs :: rest => s.after backslashEscapes cs = normal ∧ LeadsOut backslashEscapes normal rest

/-- A segment that is read from outside quotes, the first one from `s`, opens a comment. -/
def AnyOpensComment (backslashEscapes : Bool) (s : ScanState) : List (List Char) → Prop
  | [] => False
  | cs :: rest =>
    OpensComment backslashEscapes s cs ∨ AnyOpensComment backslashEscapes normal rest

theorem leadsOut_segmentsFrom (s : ScanState) (cs : List Char) :
    LeadsOut backslashEscapes s (segmentsFrom backslashEscapes s cs) := by
  induction cs generalizing s with
  | nil => exact trivial
  | cons c cs ih =>
    rw [segmentsFrom]
    split
    · next hmarker =>
      have hrest := ih normal
      rw [hmarker.1]
      cases hsegments : segmentsFrom backslashEscapes normal cs with
      | nil => exact trivial
      | cons first rest => exact ⟨rfl, hsegments ▸ hrest⟩
    · have hrest := ih (s.next backslashEscapes c)
      cases hsegments : segmentsFrom backslashEscapes (s.next backslashEscapes c) cs with
      | nil => exact trivial
      | cons first rest =>
        rw [hsegments] at hrest
        cases rest with
        | nil => exact trivial
        | cons _ _ => exact hrest

theorem head?_of_segmentsFrom {s : ScanState} {cs first : List Char} {rest : List (List Char)}
    (h : segmentsFrom backslashEscapes s cs = first :: rest) :
    first.head? = some '-' ↔ cs.head? = some '-' := by
  cases cs with
  | nil =>
    obtain ⟨rfl, -⟩ := List.cons.inj h
    rfl
  | cons c cs =>
    rw [segmentsFrom] at h
    split at h
    · next hmarker =>
      obtain ⟨rfl, -⟩ := List.cons.inj h
      rw [hmarker.2]
      simp
    · cases hsegments : segmentsFrom backslashEscapes (s.next backslashEscapes c) cs with
      | nil => exact absurd hsegments (segmentsFrom_ne_nil _ _ _)
      | cons segment segments =>
        rw [hsegments] at h
        obtain ⟨rfl, -⟩ := List.cons.inj h
        rfl

/-- No marker is a dash: a comment of the text lies within a segment. -/
theorem anyOpensComment_segmentsFrom (s : ScanState) (cs : List Char) :
    AnyOpensComment backslashEscapes s (segmentsFrom backslashEscapes s cs) ↔
      OpensComment backslashEscapes s cs := by
  induction cs generalizing s with
  | nil =>
    show OpensComment backslashEscapes s [] ∨ False ↔ _
    rw [or_false]
  | cons c cs ih =>
    rw [segmentsFrom, opensComment_cons]
    split
    · next hmarker =>
      obtain ⟨rfl, rfl⟩ := hmarker
      have hnext : next backslashEscapes normal '?' = normal := rfl
      show OpensComment backslashEscapes normal [] ∨ AnyOpensComment _ normal _ ↔ _
      rw [ih, hnext]
      simp [not_opensComment_nil]
    · have hrest := ih (s.next backslashEscapes c)
      cases hsegments : segmentsFrom backslashEscapes (s.next backslashEscapes c) cs with
      | nil => exact absurd hsegments (segmentsFrom_ne_nil _ _ _)
      | cons first rest =>
        rw [hsegments] at hrest
        show OpensComment backslashEscapes s (c :: first) ∨ AnyOpensComment _ normal rest ↔ _
        rw [opensComment_cons, head?_of_segmentsFrom hsegments, or_assoc, ← hrest]
        rfl

/-- A text that may stand between two segments without a comment of its own: only a dash at its
beginning can meet another one. -/
structure IsFilling (backslashEscapes : Bool) (sql : String) : Prop where
  ne_nil : sql.toList ≠ []
  closed : IsClosed backslashEscapes sql
  opens : ¬OpensComment backslashEscapes normal sql.toList
  ends : ¬EndsInDash backslashEscapes normal sql.toList

/-- A segment and the filling behind it meet with a dash each. -/
def DashesMeet (segments fillings : List String) : Prop :=
  ∃ (k : Nat) (segment filling : String),
    segments[k]? = some segment ∧ fillings[k]? = some filling ∧
      segment.toList.getLast? = some '-' ∧ filling.toList.head? = some '-'

theorem dashesMeet_cons {segment filling : String} {segments fillings : List String} :
    DashesMeet (segment :: segments) (filling :: fillings) ↔
      (segment.toList.getLast? = some '-' ∧ filling.toList.head? = some '-') ∨
        DashesMeet segments fillings := by
  constructor
  · rintro ⟨_ | k, segment', filling', hsegment, hfilling, hdashes⟩
    · obtain rfl := Option.some.inj hsegment
      obtain rfl := Option.some.inj hfilling
      exact .inl hdashes
    · exact .inr ⟨k, segment', filling', hsegment, hfilling, hdashes⟩
  · rintro (hdashes | ⟨k, segment', filling', hsegment, hfilling, hdashes⟩)
    · exact ⟨0, segment, filling, rfl, rfl, hdashes⟩
    · exact ⟨k + 1, segment', filling', hsegment, hfilling, hdashes⟩

/-- Filled segments open a comment where one of them does, or where dashes meet. -/
theorem opensComment_weave {first : String} {fillings rest : List String}
    (hlength : rest.length = fillings.length)
    (hlead : LeadsOut backslashEscapes normal ((first :: rest).map String.toList))
    (hfillings : ∀ filling ∈ fillings, IsFilling backslashEscapes filling) :
    OpensComment backslashEscapes normal (weave first fillings rest).toList ↔
      AnyOpensComment backslashEscapes normal ((first :: rest).map String.toList) ∨
        DashesMeet (first :: rest) fillings := by
  induction fillings generalizing first rest with
  | nil =>
    obtain rfl := List.length_eq_zero_iff.mp hlength
    have hmeet : ¬DashesMeet [first] [] := fun ⟨_, _, _, _, h, _⟩ ↦ nomatch h
    show OpensComment _ _ first.toList ↔ (OpensComment _ _ first.toList ∨ False) ∨ _
    rw [or_false, or_iff_left hmeet]
  | cons filling fillings ih =>
    cases rest with
    | nil => exact absurd hlength.symm (Nat.succ_ne_zero _)
    | cons segment rest =>
      obtain ⟨hfilling, hrest⟩ := List.forall_mem_cons.mp hfillings
      have hfirst : normal.after backslashEscapes first.toList = normal := hlead.1
      have hclosed : normal.after backslashEscapes filling.toList = normal := hfilling.closed
      have hsplit : (weave first (filling :: fillings) (segment :: rest)).toList =
          first.toList ++ (filling.toList ++ (weave segment fillings rest).toList) := by
        rw [weave_cons, ← append_weave, String.toList_append, String.toList_append,
          List.append_assoc]
      have hhead : (filling.toList ++ (weave segment fillings rest).toList).head? =
          filling.toList.head? := by
        obtain ⟨c, cs, hchars⟩ := List.exists_cons_of_ne_nil hfilling.ne_nil
        rw [hchars]
        rfl
      rw [hsplit, opensComment_append, hfirst, opensComment_append, hclosed, hhead,
        endsInDash_iff_of_after hfirst, ih (Nat.succ.inj hlength) hlead.2 hrest, dashesMeet_cons]
      simp only [hfilling.opens, hfilling.ends, false_and, false_or]
      show _ ↔ (OpensComment _ _ _ ∨ AnyOpensComment _ _ _) ∨ _
      rw [or_assoc]
      exact or_congr_right or_left_comm

end Template

end SqlRender
