import SqlRender.Proofs.Literal
import SqlRender.Proofs.Region

namespace SqlRender

open Template

namespace Dialect

variable (d : Dialect)

/-- The character for which two characters stand together in a string literal. -/
def escaped? (c c' : Char) : Option Char :=
  (d.stringEscapes.find? fun e ↦ e.2.toList = [c, c']).map Prod.fst

/-- Undoes the escapes from the left; every other character stands for itself. -/
def unescaped : List Char → List Char
  | [] => []
  | [c] => [c]
  | c :: c' :: cs =>
    match d.escaped? c c' with
    | some original => original :: unescaped cs
    | none => c :: unescaped (c' :: cs)

/-- The escape is read back, and the character that it begins with never stands for itself. -/
def isUndone (e : Char × String) : Bool :=
  match e.2.toList with
  | [c, c'] => d.escaped? c c' = some e.1 && (d.stringEscapes.lookup c).isSome
  | _ => false

variable {d} (h : ∀ e ∈ d.stringEscapes, d.isUndone e = true)

include h

theorem exists_of_isUndone {e : Char × String} (he : e ∈ d.stringEscapes) :
    ∃ c c', e.2.toList = [c, c'] ∧ d.escaped? c c' = some e.1 ∧
      (d.stringEscapes.lookup c).isSome = true := by
  have hundone := h e he
  unfold isUndone at hundone
  split at hundone
  · next c c' htext =>
    rw [Bool.and_eq_true, decide_eq_true_eq] at hundone
    exact ⟨c, c', htext, hundone.1, hundone.2⟩
  · cases hundone

theorem escaped?_of_lookup_eq_none {c : Char} (hc : d.stringEscapes.lookup c = none) (c' : Char) :
    d.escaped? c c' = none := by
  rw [escaped?, Option.map_eq_none_iff, List.find?_eq_none]
  intro e he heq
  obtain ⟨first, second, htext, -, hsome⟩ := exists_of_isUndone h he
  have hchars : [first, second] = [c, c'] := by simpa [htext] using heq
  obtain ⟨rfl, -⟩ := List.cons.inj hchars
  simp [hc] at hsome

/-- What stands for a character is read back as this character, whatever comes behind it. -/
theorem unescaped_escapeChar_append (c : Char) (cs : List Char) :
    d.unescaped (d.escapeChar c ++ cs) = c :: d.unescaped cs := by
  unfold escapeChar
  split
  · next text hlookup =>
    obtain ⟨before, behind, htable, -⟩ := List.lookup_eq_some_iff.mp hlookup
    have hmem : (c, text) ∈ d.stringEscapes := by simp [htable]
    obtain ⟨first, second, htext, hescaped, -⟩ := exists_of_isUndone h hmem
    rw [htext, List.cons_append, List.singleton_append, unescaped, hescaped]
  · next hlookup =>
    cases cs with
    | nil => rw [List.append_nil, unescaped, unescaped]
    | cons c' cs =>
      rw [List.singleton_append, unescaped, escaped?_of_lookup_eq_none h hlookup]

theorem unescaped_flatMap_escapeChar (cs : List Char) :
    d.unescaped (cs.flatMap d.escapeChar) = cs := by
  induction cs with
  | nil => rw [List.flatMap_nil, unescaped]
  | cons c cs ih => rw [List.flatMap_cons, unescaped_escapeChar_append h, ih]

end Dialect

namespace Registry

theorem isUndone_of_mem_stringEscapes :
    ∀ d ∈ standard.dialects, ∀ e ∈ d.stringEscapes, d.isUndone e = true :=
  forall_mem_standard (by decide) (by decide) (by decide) (by decide)

theorem forbidden_eq :
    ∀ d ∈ standard.dialects,
      d.forbidden = if d = .postgres ∨ d = .sqlite then ['\x00'] else [] :=
  forall_mem_standard (by decide) (by decide) (by decide) (by decide)

theorem stringLiteral_eq (d : Dialect) (hd : d ∈ standard.dialects) (s : String) :
    d.stringLiteral s =
      if (d = .postgres ∨ d = .sqlite) ∧ '\x00' ∈ s.toList then
        .error (.forbiddenCharacter d.name '\x00')
      else .ok (String.ofList ('\'' :: (s.toList.flatMap d.escapeChar ++ ['\'']))) := by
  unfold Dialect.stringLiteral
  rw [forbidden_eq d hd]
  by_cases hdialect : d = .postgres ∨ d = .sqlite
  · by_cases hnul : '\x00' ∈ s.toList
    · simp [hdialect, hnul]
    · simp [hdialect, hnul]
  · simp [hdialect]

/-- A string has a literal unless it holds a character that its dialect forbids. The body of the
literal stands for this string alone, and a scan reads the literal as one region. -/
theorem stringLiteral_round_trip (d : Dialect) (hd : d ∈ standard.dialects) (s : String) :
    ((∃ e, d.stringLiteral s = .error e) ↔
      (d = .postgres ∨ d = .sqlite) ∧ '\x00' ∈ s.toList) ∧
    ∀ sql, d.stringLiteral s = .ok sql →
      (∃ body, sql.toList = '\'' :: (body ++ ['\'']) ∧ d.unescaped body = s.toList) ∧
      (∀ s', d.stringLiteral s' = .ok sql → s' = s) ∧
      IsClosed d.capabilities.backslashEscapes sql ∧
      ∀ behind, segments d.capabilities.backslashEscapes (sql ++ behind) =
        glue [sql] (segments d.capabilities.backslashEscapes behind) := by
  have hbody {s sql : String} (h : d.stringLiteral s = .ok sql) :
      sql.toList = '\'' :: (s.toList.flatMap d.escapeChar ++ ['\'']) := by
    rw [stringLiteral_eq d hd] at h
    split at h
    · cases h
    · cases h
      exact String.toList_ofList
  have hundone := Dialect.unescaped_flatMap_escapeChar (isUndone_of_mem_stringEscapes d hd)
  refine ⟨?_, ?_⟩
  · rw [stringLiteral_eq d hd]
    split
    · next hnul => simp [hnul]
    · next hnul => simp [hnul]
  · intro sql h
    have hsql := hbody h
    obtain ⟨hclosed, hunquoted⟩ := isHidden_stringLiteral d hd h
    refine ⟨⟨_, hsql, hundone s.toList⟩, ?_, hclosed, ?_⟩
    · intro s' h'
      have hsame := (hbody h').symm.trans hsql
      simp only [List.cons.injEq, List.append_cancel_right_eq, true_and] at hsame
      have hchars := congrArg d.unescaped hsame
      rw [hundone, hundone] at hchars
      exact String.toList_injective hchars
    · intro behind
      have hnone : '?' ∉ ScanState.normal.unquoted d.capabilities.backslashEscapes sql.toList := by
        rw [← Template.unquoted, hunquoted]
        exact List.not_mem_nil
      have hsegments : segments d.capabilities.backslashEscapes sql = [sql] := by
        rw [segments, segmentsFrom_of_not_mem _ hnone, List.map_singleton, String.ofList_toList]
      rw [segments_append hclosed, hsegments]

/-- Quotes, backslashes and a marker in one string, and a character that has no literal. -/
theorem stringLiteral_round_trip_hostile :
    (Dialect.mysql.stringLiteral "\\' OR ?\x00" = .ok "'\\\\\\' OR ?\\0'" ∧
      Dialect.mysql.unescaped "\\\\\\' OR ?\\0".toList = "\\' OR ?\x00".toList ∧
      segments true "'\\\\\\' OR ?\\0' = ?" = ["'\\\\\\' OR ?\\0' = ", ""]) ∧
    ∃ e, Dialect.postgres.stringLiteral "\\' OR ?\x00" = .error e := by
  have hliteral : Dialect.mysql.stringLiteral "\\' OR ?\x00" = .ok "'\\\\\\' OR ?\\0'" := rfl
  obtain ⟨⟨body, hbody, hunescaped⟩, -, -, hbehind⟩ :=
    (stringLiteral_round_trip .mysql (by decide) "\\' OR ?\x00").2 _ hliteral
  refine ⟨⟨hliteral, ?_, hbehind " = ?"⟩, ?_⟩
  · have hchars : "'\\\\\\' OR ?\\0'".toList = '\'' :: ("\\\\\\' OR ?\\0".toList ++ ['\'']) := by
      decide
    rw [hchars, List.cons.injEq, List.append_cancel_right_eq] at hbody
    rw [hbody.2]
    exact hunescaped
  · exact (stringLiteral_round_trip .postgres (by decide) "\\' OR ?\x00").1.mpr (by decide)

end Registry

end SqlRender
