import Mathlib
import SqlRender.Proofs.Draft.Succeeds
import SqlRender.Proofs.LineComment

namespace SqlRender

open Template

namespace Draft

def filledChunks (args : List Scalar) (segments : List String) : List Chunk :=
  (args.zip segments).flatMap fun (s, segment) ↦ [.bind s, .text segment]

theorem sequence_filledChunks (args : List Scalar) (segments : List String) :
    sequence (List.zipWith (fun arg segment ↦ arg ++ text segment)
        (args.map fun s ↦ (⟨[.bind s], none⟩ : Draft)) segments) =
      ⟨filledChunks args segments, none⟩ := by
  induction args generalizing segments with
  | nil => rfl
  | cons s args ih =>
    cases segments with
    | nil => rfl
    | cons segment segments =>
      rw [List.map_cons, List.zipWith_cons_cons, sequence, ih]
      rfl

theorem values_filledChunks {args : List Scalar} {segments : List String}
    (hlength : segments.length = args.length) : values (filledChunks args segments) = args := by
  induction args generalizing segments with
  | nil => rfl
  | cons s args ih =>
    cases segments with
    | nil => exact absurd hlength.symm (Nat.succ_ne_zero _)
    | cons segment segments => exact congrArg (s :: ·) (ih (Nat.succ.inj hlength))

theorem fill_filledChunks (f : Nat → Scalar → String) (held : Nat) (first : String)
    (args : List Scalar) (segments : List String) (hlength : segments.length = args.length) :
    first ++ Piece.fill f held (pieces (filledChunks args segments)) =
      weave first (Piece.fillings f held args) segments := by
  induction args generalizing held first segments with
  | nil => exact String.append_empty
  | cons s args ih =>
    cases segments with
    | nil => exact absurd hlength.symm (Nat.succ_ne_zero _)
    | cons segment segments =>
      have hrest := ih (held + 1) (first ++ f held s ++ segment) segments (Nat.succ.inj hlength)
      rw [Piece.fillings, weave_cons, ← hrest, String.append_assoc, String.append_assoc]
      rfl

theorem template_of_length (d : Dialect) {sql first : String} {rest : List String}
    {args : List Scalar} (h : segments d.capabilities.backslashEscapes sql = first :: rest)
    (hlength : rest.length = args.length) :
    template d sql (args.map fun s ↦ (⟨[.bind s], none⟩ : Draft)) =
      ⟨.text first :: filledChunks args rest, none⟩ := by
  simp only [template, h, List.length_map, hlength, decide_true, require, if_true,
    sequence_filledChunks]
  rfl

end Draft

theorem Value.drafts_scalars (d : Dialect) (args : List Scalar) :
    drafts d (args.map .scalar) = args.map fun s ↦ (⟨[.bind s], none⟩ : Draft) := by
  rw [Value.drafts_eq_map, List.map_map]
  rfl

variable {d : Dialect}

/-- An inlined template is its segments with the literal of an argument between each two. -/
theorem Node.sql_of_render_template {sql : String} {args : List Scalar} {r : Rendered}
    (h : (Node.template sql (args.map .scalar)).render d true = .ok r) :
    ∃ first rest, segments d.capabilities.backslashEscapes sql = first :: rest ∧
      rest.length = args.length ∧ r.sql = weave first (args.map (d.inlineText 0)) rest ∧
      ∀ s ∈ args, d.literal s = .ok (d.inlineText 0 s) := by
  obtain ⟨first, rest, hsegments⟩ : ∃ first rest,
      segments d.capabilities.backslashEscapes sql = first :: rest :=
    List.exists_cons_of_ne_nil (mt List.map_eq_nil_iff.mp (segmentsFrom_ne_nil _ _ _))
  have hsucceeds := (Node.sql_of_render_inlining h).1
  rw [draft, Value.drafts_scalars] at hsucceeds
  have hlength : rest.length = args.length := by
    have hmarkers := (Draft.succeeds_template.mp hsucceeds).1
    have hsegments' := length_segments d.capabilities.backslashEscapes sql
    rw [hsegments, hmarkers, List.length_map] at hsegments'
    exact Nat.succ.inj hsegments'
  have hdraft : (Node.template sql (args.map .scalar)).draft d =
      ⟨.text first :: Draft.filledChunks args rest, none⟩ := by
    rw [draft, Value.drafts_scalars, Draft.template_of_length d hsegments hlength]
  have hvalues : Draft.values (.text first :: Draft.filledChunks args rest) = args :=
    Draft.values_filledChunks hlength
  rw [render_inlining, hdraft, hvalues] at h
  cases hrefusal : d.firstRefusal? args with
  | some e =>
    rw [hrefusal] at h
    cases h
  | none =>
    rw [hrefusal] at h
    cases h
    refine ⟨first, rest, hsegments, hlength, ?_, ?_⟩
    · rw [← Dialect.fillings_inlineText, ← Draft.fill_filledChunks _ _ _ _ _ hlength]
      rfl
    · intro s hs
      exact d.literal_of_refusal?_eq_none (List.findSome?_eq_none_iff.mp hrefusal s hs) 0

def Scalar.hasMinus : Scalar → Bool
  | .int n => n < 0
  | .float (.finite negative _ _) => negative
  | .decimal (.finite negative _ _) => negative
  | _ => false

namespace Template

/-- The text is not empty, and begins with a dash just where it is to have one. -/
def Begins (hasDash : Bool) (sql : String) : Prop :=
  sql.toList ≠ [] ∧ (sql.toList.head? = some '-' ↔ hasDash = true)

instance (hasDash : Bool) (sql : String) : Decidable (Begins hasDash sql) :=
  inferInstanceAs (Decidable (_ ∧ _))

theorem Begins.append {hasDash : Bool} {xs : String} (h : Begins hasDash xs) (ys : String) :
    Begins hasDash (xs ++ ys) := by
  obtain ⟨hne, hhead⟩ := h
  obtain ⟨c, cs, heq⟩ := List.exists_cons_of_ne_nil hne
  rw [heq] at hhead
  rw [Begins, String.toList_append, heq]
  exact ⟨List.cons_ne_nil c _, hhead⟩

theorem begins_of_isPlain {sql : String} (h : IsPlain sql) (hne : sql ≠ "") :
    Begins false sql := by
  refine ⟨mt String.toList_eq_nil_iff.mp hne, iff_of_false ?_ Bool.false_ne_true⟩
  intro hhead
  exact h.not_mem (by decide) (List.mem_of_head? hhead)

end Template

theorem Decimal.begins_sign_append (negative : Bool) {sql : String} (h : IsPlain sql)
    (hne : sql ≠ "") : Begins negative (sign negative ++ sql) := by
  cases negative with
  | false =>
    rw [sign, if_neg Bool.false_ne_true, String.empty_append]
    exact begins_of_isPlain h hne
  | true => exact Begins.append (by decide : Begins true "-") sql

theorem Decimal.begins_plain (negative : Bool) (digits : Nat) (exponent : Int) :
    Begins negative (plain negative digits exponent) := by
  cases exponent with
  | ofNat e => exact begins_sign_append negative (isPlain_toString _) Nat.repr_ne_empty
  | negSucc e =>
    rw [plain]
    exact ((begins_sign_append negative (isPlain_toString _) Nat.repr_ne_empty).append _).append _

theorem Decimal.begins_int (n : Int) : Begins (n < 0) (toString n) := by
  cases n with
  | ofNat n =>
    have hsign : ¬Int.ofNat n < 0 := Int.not_lt.mpr (Int.natCast_nonneg n)
    rw [decide_eq_false hsign]
    show Begins false (toString n)
    exact begins_of_isPlain (isPlain_toString n) Nat.repr_ne_empty
  | negSucc n =>
    rw [decide_eq_true (Int.negSucc_lt_zero n)]
    show Begins true (sign true ++ toString (n + 1))
    exact begins_sign_append true (isPlain_toString (n + 1)) Nat.repr_ne_empty

namespace Registry

theorem begins_bytesLiteral (data : List UInt8) :
    ∀ d ∈ standard.dialects, Begins false (d.bytesLiteral data) := by
  have hopen : ∀ d ∈ standard.dialects, Begins false d.bytesQuotes.1 :=
    forall_mem_standard (by decide) (by decide) (by decide) (by decide)
  intro d hd
  have hdata := (hopen d hd).append (Digits.hexBytes data)
  exact hdata.append d.bytesQuotes.2

theorem begins_boolLiteral (b : Bool) :
    ∀ d ∈ standard.dialects, Begins false (d.boolLiteral b) := by
  intro d hd
  have hne : ∀ d ∈ standard.dialects, ∀ b, d.boolLiteral b ≠ "" :=
    forall_mem_standard (by decide) (by decide) (by decide) (by decide)
  exact begins_of_isPlain (boolLiteral_isPlain d hd b) (hne d hd b)

theorem begins_stringLiteral {d : Dialect} {s sql : String} (h : d.stringLiteral s = .ok sql) :
    Begins false sql := by
  unfold Dialect.stringLiteral at h
  split at h
  · cases h
  · cases h
    rw [Begins, String.toList_ofList]
    exact ⟨List.cons_ne_nil _ _, by simp⟩

theorem begins_datetimeLiteral {d : Dialect} {t : DateTime} {sql : String}
    (h : d.datetimeLiteral t = .ok sql) : Begins false sql := by
  unfold Dialect.datetimeLiteral at h
  split at h
  · cases h
    exact ((((by decide : Begins false "'").append _).append _).append _).append _
  · cases h

theorem begins_decimalLiteral {negative : Bool} {digits : Nat} {exponent : Int} {sql : String}
    (h : Dialect.decimalLiteral (.finite negative digits exponent) = .ok sql) :
    Begins negative sql := by
  cases h
  exact Decimal.begins_plain negative digits exponent

/-- A literal begins with a dash where it is that of a number with a minus sign. -/
theorem begins_literal (d : Dialect) (hd : d ∈ standard.dialects) {s : Scalar} {sql : String}
    (h : d.literal s = .ok sql) : Begins s.hasMinus sql := by
  have hquote : Begins false "'" := by decide
  cases s with
  | null =>
    cases h
    exact (by decide : Begins false "NULL")
  | bool b =>
    cases h
    exact begins_boolLiteral b d hd
  | int n =>
    obtain ⟨-, rfl⟩ := Dialect.intLiteral_eq_ok_iff.mp h
    exact Decimal.begins_int n
  | float x =>
    cases x with
    | finite negative significand exponent =>
      change Dialect.decimalLiteral (Binary64.toDecimal _) = .ok sql at h
      rw [Binary64.toDecimal] at h
      dsimp only at h
      split at h
      · exact begins_decimalLiteral h
      · exact begins_decimalLiteral h
    | _ => cases h
  | decimal x =>
    cases x with
    | finite negative digits exponent => exact begins_decimalLiteral h
    | _ => cases h
  | text s => exact begins_stringLiteral h
  | bytes kind data =>
    cases h
    exact begins_bytesLiteral data d hd
  | datetime t => exact begins_datetimeLiteral h
  | date t =>
    cases h
    exact (hquote.append _).append _
  | time t =>
    cases h
    exact ((hquote.append _).append _).append _

theorem isFilling_literal (d : Dialect) (hd : d ∈ standard.dialects) {s : Scalar} {sql : String}
    (h : d.literal s = .ok sql) : IsFilling d.capabilities.backslashEscapes sql where
  ne_nil := (begins_literal d hd h).1
  closed := (isTidy_literal d hd h).closed
  opens := (isTidy_literal d hd h).not_opensComment
  ends := (isTidy_literal d hd h).not_endsInDash

end Registry

/-- Inlined values open a comment where a number with a minus sign stands behind a dash, and
nowhere else. -/
theorem Node.opensComment_template_iff (hd : d ∈ Registry.standard.dialects) {sql : String}
    {args : List Scalar} {r : Rendered}
    (h : (Node.template sql (args.map .scalar)).render d true = .ok r) :
    OpensComment d.capabilities.backslashEscapes .normal r.sql.toList ↔
      OpensComment d.capabilities.backslashEscapes .normal sql.toList ∨
        ∃ (k : Nat) (segment : String) (s : Scalar),
          (segments d.capabilities.backslashEscapes sql)[k]? = some segment ∧
            args[k]? = some s ∧ segment.toList.getLast? = some '-' ∧ s.hasMinus = true := by
  obtain ⟨first, rest, hsegments, hlength, hsql, hliteral⟩ := Node.sql_of_render_template h
  have hchars : (first :: rest).map String.toList =
      segmentsFrom d.capabilities.backslashEscapes .normal sql.toList := by
    rw [← hsegments, segments, List.map_map]
    exact List.map_id'' (fun cs ↦ String.toList_ofList) _
  have hfillings : ∀ filling ∈ args.map (d.inlineText 0),
      IsFilling d.capabilities.backslashEscapes filling := by
    rw [List.forall_mem_map]
    exact fun s hs ↦ Registry.isFilling_literal d hd (hliteral s hs)
  rw [hsql, opensComment_weave (hlength.trans (List.length_map _).symm)
    (hchars ▸ leadsOut_segmentsFrom _ _) hfillings, hchars, anyOpensComment_segmentsFrom, hsegments]
  refine or_congr_right ⟨?_, ?_⟩
  · rintro ⟨k, segment, filling, hsegment, hfilling, hlast, hhead⟩
    rw [List.getElem?_map, Option.map_eq_some_iff] at hfilling
    obtain ⟨s, hs, rfl⟩ := hfilling
    have hbegins := Registry.begins_literal d hd (hliteral s (List.mem_of_getElem? hs))
    exact ⟨k, segment, s, hsegment, hs, hlast, hbegins.2.mp hhead⟩
  · rintro ⟨k, segment, s, hsegment, hs, hlast, hminus⟩
    have hbegins := Registry.begins_literal d hd (hliteral s (List.mem_of_getElem? hs))
    refine ⟨k, segment, d.inlineText 0 s, hsegment, ?_, hlast, hbegins.2.mpr hminus⟩
    rw [List.getElem?_map, hs]
    rfl

theorem Node.opensComment_template_minus :
    let args : List Scalar := [.int 2, .decimal (.finite true 15 (-1))]
    (Node.template "a - ? -?" (args.map .scalar)).render .mysql true = .ok ⟨"a - 2 --1.5", []⟩ ∧
      (OpensComment true .normal "a - 2 --1.5".toList ↔
        OpensComment true .normal "a - ? -?".toList ∨
          ∃ (k : Nat) (segment : String) (s : Scalar),
            (segments true "a - ? -?")[k]? = some segment ∧
              args[k]? = some s ∧ segment.toList.getLast? = some '-' ∧ s.hasMinus = true) := by
  intro args
  have hrender : (Node.template "a - ? -?" (args.map .scalar)).render .mysql true =
      .ok ⟨"a - 2 --1.5", []⟩ := by cbv
  exact ⟨hrender, Node.opensComment_template_iff (by decide) hrender⟩

/-- A template that opens no comment may open one once a value is inlined into it. -/
theorem Node.not_forall_not_opensComment_template :
    ¬∀ d ∈ Registry.standard.dialects, ∀ sql (args : List Scalar) (r : Rendered),
      ¬OpensComment d.capabilities.backslashEscapes .normal sql.toList →
      (Node.template sql (args.map .scalar)).render d true = .ok r →
      ¬OpensComment d.capabilities.backslashEscapes .normal r.sql.toList := by
  intro h
  have hrender : (Node.template "x -?" ([.int (-1)].map .scalar)).render .mysql true =
      .ok ⟨"x --1", []⟩ := by cbv
  have hclear : ¬OpensComment true .normal "x -?".toList := by
    have hchars : "x -?".toList = ['x', ' ', '-', '?'] := rfl
    rw [hchars]
    simp [opensComment_cons, not_opensComment_nil]
  exact h .mysql (by decide) _ _ _ hclear hrender ⟨['x', ' '], ['1'], rfl, rfl⟩

end SqlRender
