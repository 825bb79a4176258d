import SqlRender.Buffer
import SqlRender.Proofs.Draft.Filled
import SqlRender.Proofs.Draft.Node

namespace SqlRender

/-- Literal chunks with a filling between each two. -/
def weave (first : String) (fillings chunks : List String) : String :=
  (fillings.zip chunks).foldl (fun sql (filling, chunk) ↦ sql ++ filling ++ chunk) first

theorem weave_cons (first filling chunk : String) (fillings chunks : List String) :
    weave first (filling :: fillings) (chunk :: chunks) =
      weave (first ++ filling ++ chunk) fillings chunks := rfl

theorem append_weave (sql first : String) (fillings chunks : List String) :
    sql ++ weave first fillings chunks = weave (sql ++ first) fillings chunks := by
  induction fillings generalizing first chunks with
  | nil => rfl
  | cons filling fillings ih =>
    cases chunks with
    | nil => rfl
    | cons chunk chunks =>
      rw [weave_cons, weave_cons, ih, String.append_assoc, String.append_assoc,
        String.append_assoc]

namespace Piece

def firstChunk : List Piece → String
  | text sql :: rest => sql ++ firstChunk rest
  | _ => ""

/-- The literal text behind each gap. -/
def chunksBehind : List Piece → List String
  | [] => []
  | text _ :: rest => chunksBehind rest
  | gap _ :: rest => firstChunk rest :: chunksBehind rest

theorem length_chunksBehind (ps : List Piece) : (chunksBehind ps).length = (values ps).length := by
  induction ps with
  | nil => rfl
  | cons p rest ih =>
    cases p with
    | text sql => exact ih
    | gap s => exact congrArg (· + 1) ih

def fillings (f : Nat → Scalar → String) (held : Nat) : List Scalar → List String
  | [] => []
  | s :: rest => f held s :: fillings f (held + 1) rest

theorem fill_eq_weave (f : Nat → Scalar → String) (held : Nat) (ps : List Piece) :
    fill f held ps = weave (firstChunk ps) (fillings f held (values ps)) (chunksBehind ps) := by
  induction ps generalizing held with
  | nil => rfl
  | cons p rest ih =>
    cases p with
    | text sql =>
      rw [fill, ih, append_weave]
      rfl
    | gap s =>
      rw [fill, ih, append_weave]
      show _ = weave ("" ++ f held s ++ firstChunk rest) _ _
      rw [String.empty_append]
      rfl

end Piece

/-- The marks of the parameters 1 to `n`. -/
def Dialect.placeholders (d : Dialect) (n : Nat) : List String :=
  (List.range' 1 n).map fun k : Nat ↦ d.placeholder k

/-- The marks of `n` parameters behind `held` others. -/
def Dialect.placeholdersFrom (d : Dialect) (held n : Nat) : List String :=
  (List.range' (held + 1) n).map fun k : Nat ↦ d.placeholder k

theorem Dialect.fillings_mark_from (d : Dialect) (held : Nat) (ss : List Scalar) :
    Piece.fillings d.mark held ss = d.placeholdersFrom held ss.length := by
  induction ss generalizing held with
  | nil => rfl
  | cons s rest ih =>
    rw [Piece.fillings, ih, placeholdersFrom, placeholdersFrom, List.length_cons,
      List.range'_succ, List.map_cons]
    rfl

theorem Dialect.fillings_mark (d : Dialect) (ss : List Scalar) :
    Piece.fillings d.mark 0 ss = d.placeholders ss.length := d.fillings_mark_from 0 ss

theorem Dialect.fillings_inlineText (d : Dialect) (held : Nat) (ss : List Scalar) :
    Piece.fillings d.inlineText held ss = ss.map (d.inlineText 0) := by
  induction ss generalizing held with
  | nil => rfl
  | cons s rest ih => exact congrArg (d.inlineText 0 s :: ·) (ih (held + 1))

/-- The error of the first value that has no text. -/
def Value.firstRefusal? (d : Dialect) (vs : List Value) : Option Error :=
  vs.findSome? fun v ↦
    match v.interpolated d with
    | .ok _ => none
    | .error e => some e

theorem Value.firstRefusal?_scalars (d : Dialect) (ss : List Scalar) :
    firstRefusal? d (ss.map .scalar) = d.firstRefusal? ss := List.findSome?_map

/-- Values without a refusal are interpolated as they are inlined. -/
theorem Value.map_interpolated (d : Dialect) {ss : List Scalar} (h : d.firstRefusal? ss = none) :
    (ss.map Value.scalar).map (interpolated d) = (ss.map (d.inlineText 0)).map .ok := by
  rw [List.map_map, List.map_map]
  refine List.map_congr_left fun s hs ↦ ?_
  have hnone := List.findSome?_eq_none_iff.mp h s hs
  exact d.literal_of_refusal?_eq_none hnone 0

variable (d : Dialect)

theorem Node.into_write_of_binding (n : Node) {b : Buffer} (hb : b.inlining = false) :
    (n.write d).into b =
      (Draft.result (n.draft d).error, b.binding d (Draft.pieces (n.draft d).chunks)) := by
  rw [← n.write_draft d, Draft.into_write_of_binding d _ hb]

theorem Node.into_write_of_inlining (n : Node) {b : Buffer} (hb : b.inlining = true) :
    (n.write d).into b =
      (Draft.result ((d.firstRefusal? (Draft.values (n.draft d).chunks)).or (n.draft d).error),
        { b with sql := b.sql ++ Draft.inlinedText d (n.draft d).chunks }) := by
  rw [← n.write_draft d, Draft.into_write_of_inlining d _ hb]

theorem Node.render_inlining (n : Node) :
    n.render d true =
      match (d.firstRefusal? (Draft.values (n.draft d).chunks)).or (n.draft d).error with
      | none => .ok ⟨Piece.fill d.inlineText 0 (Draft.pieces (n.draft d).chunks), []⟩
      | some e => .error e := by
  rw [render, Writing.rendered, n.into_write_of_inlining d rfl]
  cases h : (d.firstRefusal? (Draft.values (n.draft d).chunks)).or (n.draft d).error with
  | some e => rfl
  | none =>
    rw [Option.or_eq_none_iff] at h
    show Except.ok (Rendered.mk _ _) = _
    rw [Draft.inlinedText_of_complete d 0 h.1, String.empty_append]

theorem Node.render_binding (n : Node) :
    n.render d false =
      match (n.draft d).error with
      | none =>
        .ok ⟨Piece.fill d.mark 0 (Draft.pieces (n.draft d).chunks),
          (Draft.values (n.draft d).chunks).map .scalar⟩
      | some e => .error e := by
  rw [render, Writing.rendered, n.into_write_of_binding d rfl, Buffer.binding_empty]
  cases (n.draft d).error <;> rfl

variable {d} in
/-- A render ends in the error of the draft, or in that of a value without a literal. -/
theorem Node.error_of_render {n : Node} {inlining : Bool} {e : Error}
    (h : n.render d inlining = .error e) :
    e ∈ (n.draft d).error ∨
      inlining = true ∧ ∃ s ∈ Draft.values (n.draft d).chunks, d.literal s = .error e := by
  cases inlining with
  | false =>
    rw [render_binding] at h
    split at h
    · cases h
    · next e' he' =>
      cases h
      exact .inl he'
  | true =>
    rw [render_inlining] at h
    split at h
    · cases h
    · next e' he' =>
      cases h
      rcases Option.or_eq_some_iff.mp he' with hrefused | ⟨-, herror⟩
      · obtain ⟨s, hs, hrefusal⟩ := List.exists_of_findSome?_eq_some hrefused
        exact .inr ⟨rfl, s, hs, d.literal_of_refusal?_eq_some hrefusal⟩
      · exact .inl herror

variable {d} in
theorem Node.sql_of_render_inlining {n : Node} {r : Rendered} (h : n.render d true = .ok r) :
    (n.draft d).error = none ∧
      r.sql = Piece.fill d.inlineText 0 (Draft.pieces (n.draft d).chunks) := by
  rw [render_inlining] at h
  cases he : (d.firstRefusal? (Draft.values (n.draft d).chunks)).or (n.draft d).error with
  | some e =>
    rw [he] at h
    cases h
  | none =>
    rw [he] at h
    cases h
    exact ⟨(Option.or_eq_none_iff.mp he).2, rfl⟩

variable {d} in
theorem Node.rendered_of_render_binding {n : Node} {r : Rendered}
    (h : n.render d false = .ok r) :
    (n.draft d).error = none ∧
      r = ⟨Piece.fill d.mark 0 (Draft.pieces (n.draft d).chunks),
        (Draft.values (n.draft d).chunks).map .scalar⟩ := by
  rw [render_binding] at h
  cases he : (n.draft d).error with
  | some e =>
    rw [he] at h
    cases h
  | none =>
    rw [he] at h
    cases h
    exact ⟨rfl, rfl⟩

/-- Both modes write the same chunks: placeholders stand between them where values are bound, and
the texts of the same values where they are inlined. The first value without a text ends the
inlining render; without such a value it ends as the binding one does. -/
theorem Node.render_modes_agree (n : Node) :
    match (n.write d).into { inlining := false } with
    | (.ok (), b) =>
      n.render d false = .ok ⟨b.sql, b.params⟩ ∧
      ∃ (first : String) (chunks : List String),
        chunks.length = b.params.length ∧
        b.sql = weave first (d.placeholders b.params.length) chunks ∧
        match Value.firstRefusal? d b.params with
        | none =>
          ∃ texts : List String,
            b.params.map (Value.interpolated d) = texts.map .ok ∧
            n.render d true = .ok ⟨weave first texts chunks, []⟩
        | some e => n.render d true = .error e
    | (.error e, b) =>
      n.render d false = .error e ∧
      n.render d true = .error ((Value.firstRefusal? d b.params).getD e) := by
  have hb := n.render_binding d
  have hi := n.render_inlining d
  rw [n.into_write_of_binding d rfl, Buffer.binding_empty]
  cases he : (n.draft d).error with
  | none =>
    rw [he] at hb hi
    refine ⟨hb, Piece.firstChunk (Draft.pieces (n.draft d).chunks),
      Piece.chunksBehind (Draft.pieces (n.draft d).chunks), ?_, ?_, ?_⟩
    · rw [Piece.length_chunksBehind, List.length_map]
    · rw [Piece.fill_eq_weave, Dialect.fillings_mark, List.length_map]
    · rw [Value.firstRefusal?_scalars]
      cases hr : d.firstRefusal? (Piece.values (Draft.pieces (n.draft d).chunks)) with
      | none =>
        refine ⟨_, Value.map_interpolated d hr, ?_⟩
        rw [Draft.values, hr, Piece.fill_eq_weave, Dialect.fillings_inlineText] at hi
        exact hi
      | some e =>
        rw [Draft.values, hr] at hi
        exact hi
  | some e =>
    rw [he] at hb hi
    refine ⟨hb, ?_⟩
    rw [Value.firstRefusal?_scalars]
    rw [Draft.values] at hi
    cases hr : d.firstRefusal? (Piece.values (Draft.pieces (n.draft d).chunks)) with
    | none => rw [hr] at hi; exact hi
    | some e' => rw [hr] at hi; exact hi

end SqlRender
