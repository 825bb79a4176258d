import SqlRender.Proofs.Draft.Write

namespace SqlRender

/-- Literal text, or the place of a value in it. -/
inductive Piece where
  | text (sql : String)
  | gap (value : Scalar)
  deriving DecidableEq

namespace Piece

def value? : Piece → Option Scalar
  | text _ => none
  | gap s => some s

/-- The values of the gaps in order. -/
def values (ps : List Piece) : List Scalar := ps.filterMap value?

@[simp] theorem values_append (ps qs : List Piece) :
    values (ps ++ qs) = values ps ++ values qs := List.filterMap_append

variable (f : Nat → Scalar → String)

/-- The text with each gap filled by its value and the number of gaps in front of it. -/
def fill (held : Nat) : List Piece → String
  | [] => ""
  | text sql :: rest => sql ++ fill held rest
  | gap s :: rest => f held s ++ fill (held + 1) rest

theorem fill_append (held : Nat) (ps qs : List Piece) :
    fill f held (ps ++ qs) = fill f held ps ++ fill f (held + (values ps).length) qs := by
  induction ps generalizing held with
  | nil => exact String.empty_append.symm
  | cons p rest ih =>
    cases p with
    | text sql => simp only [List.cons_append, fill, ih, values, List.filterMap_cons, value?,
        String.append_assoc]
    | gap s => simp only [List.cons_append, fill, ih, values, List.filterMap_cons, value?,
        List.length_cons, Nat.add_assoc, Nat.add_comm 1, String.append_assoc]

end Piece

/-- The members of a collection behind the first. -/
def Chunk.tail (rest : List Scalar) : List Piece :=
  rest.flatMap fun s ↦ [.text ", ", .gap s]

def Chunk.pieces : Chunk → List Piece
  | text sql => [.text sql]
  | bind s => [.gap s]
  | bindAll first rest => .text "(" :: .gap first :: (tail rest ++ [.text ")"])

namespace Draft

def pieces (chunks : List Chunk) : List Piece := chunks.flatMap Chunk.pieces

/-- The values that a write binds. -/
def values (chunks : List Chunk) : List Scalar := Piece.values (pieces chunks)

@[simp] theorem pieces_append (xs ys : List Chunk) :
    pieces (xs ++ ys) = pieces xs ++ pieces ys := List.flatMap_append

theorem pieces_cons (c : Chunk) (rest : List Chunk) :
    pieces (c :: rest) = c.pieces ++ pieces rest := rfl

end Draft

variable (d : Dialect)

/-- The mark of a value that has `held` others in front of it. -/
def Dialect.mark (held : Nat) (_ : Scalar) : String := d.placeholder (held + 1)

/-- The literal of a value, empty where it has none. -/
def Dialect.inlineText (_ : Nat) (s : Scalar) : String :=
  match d.literal s with
  | .ok sql => sql
  | .error _ => ""

def Dialect.refusal? (s : Scalar) : Option Error :=
  match d.literal s with
  | .ok _ => none
  | .error e => some e

/-- The error of the first value without a literal. -/
def Dialect.firstRefusal? (ss : List Scalar) : Option Error := ss.findSome? d.refusal?

theorem Dialect.firstRefusal?_cons (s : Scalar) (rest : List Scalar) :
    d.firstRefusal? (s :: rest) = (d.refusal? s).or (d.firstRefusal? rest) := by
  rw [firstRefusal?, List.findSome?_cons]
  cases d.refusal? s <;> rfl

theorem Dialect.firstRefusal?_append (xs ys : List Scalar) :
    d.firstRefusal? (xs ++ ys) = (d.firstRefusal? xs).or (d.firstRefusal? ys) :=
  List.findSome?_append

theorem Dialect.literal_of_refusal?_eq_none {s : Scalar} (h : d.refusal? s = none) (held : Nat) :
    d.literal s = .ok (d.inlineText held s) := by
  cases hs : d.literal s with
  | ok sql => simp only [inlineText, hs]
  | error e => simp only [refusal?, hs, reduceCtorEq] at h

theorem Dialect.literal_of_refusal?_eq_some {s : Scalar} {e : Error} (h : d.refusal? s = some e) :
    d.literal s = .error e := by
  cases hs : d.literal s with
  | ok sql => simp only [refusal?, hs, reduceCtorEq] at h
  | error e' =>
    simp only [refusal?, hs, Option.some.injEq] at h
    rw [h]

theorem Dialect.mapM_literal (ss : List Scalar) :
    ss.mapM d.literal =
      match d.firstRefusal? ss with
      | none => .ok (ss.map (d.inlineText 0))
      | some e => .error e := by
  induction ss with
  | nil => rfl
  | cons s rest ih =>
    rw [List.mapM_cons, ih, firstRefusal?_cons]
    cases h : d.refusal? s with
    | some e => rw [d.literal_of_refusal?_eq_some h]; rfl
    | none =>
      rw [d.literal_of_refusal?_eq_none h 0, Option.none_or]
      cases d.firstRefusal? rest <;> rfl

namespace Buffer

/-- What pieces leave in a buffer that binds their values. -/
def binding (b : Buffer) (ps : List Piece) : Buffer :=
  { b with
    sql := b.sql ++ Piece.fill d.mark b.params.length ps
    params := b.params ++ (Piece.values ps).map .scalar }

theorem binding_nil (b : Buffer) : b.binding d [] = b := by
  simp only [binding, Piece.fill, Piece.values, List.filterMap_nil, List.map_nil, List.append_nil,
    String.append_empty]

theorem binding_empty (ps : List Piece) :
    ({ inlining := false } : Buffer).binding d ps =
      ⟨false, Piece.fill d.mark 0 ps, (Piece.values ps).map .scalar⟩ := by
  rw [binding, String.empty_append]
  rfl

theorem binding_binding (b : Buffer) (ps qs : List Piece) :
    (b.binding d ps).binding d qs = b.binding d (ps ++ qs) := by
  simp only [binding, Piece.fill_append, Piece.values_append, List.length_append, List.length_map,
    List.map_append, List.append_assoc, String.append_assoc]

end Buffer

namespace Writing

theorem into_text_binding (sql : String) (b : Buffer) :
    (text sql).into b = (.ok (), b.binding d [.text sql]) := by
  simp only [into_text, Buffer.binding, Piece.fill, Piece.values, List.filterMap_cons,
    Piece.value?, List.filterMap_nil, List.map_nil, List.append_nil, String.append_empty]

theorem into_placeholder_binding (s : Scalar) {b : Buffer} (hb : b.inlining = false) :
    (placeholder d (.scalar s)).into b = (.ok (), b.binding d [.gap s]) := by
  simp only [into_placeholder d _ hb, Buffer.binding, Piece.fill, Piece.values,
    List.filterMap_cons, Piece.value?, List.filterMap_nil, List.map_cons, List.map_nil,
    String.append_empty, Dialect.mark]

theorem into_join_placeholders (first : Scalar) (rest : List Scalar) {b : Buffer}
    (hb : b.inlining = false) :
    (join ", " ((first :: rest).map fun s ↦ placeholder d (.scalar s))).into b =
      (.ok (), b.binding d (.gap first :: Chunk.tail rest)) := by
  induction rest generalizing first b with
  | nil => exact into_placeholder_binding d first hb
  | cons s rest ih =>
    simp only [List.map_cons] at ih ⊢
    simp only [join, into_bind, into_placeholder_binding d first hb, into_text_binding d ", "]
    rw [ih s (b := (b.binding d [.gap first]).binding d [.text ", "]) hb,
      Buffer.binding_binding, Buffer.binding_binding]
    rfl

end Writing

namespace Chunk

theorem into_write_of_binding (c : Chunk) {b : Buffer} (hb : b.inlining = false) :
    (c.write d).into b = (.ok (), b.binding d c.pieces) := by
  cases c with
  | text sql => exact Writing.into_text_binding d sql b
  | bind s =>
    rw [write, Writing.into_value_of_binding d _ hb]
    exact Writing.into_placeholder_binding d s hb
  | bindAll first rest =>
    rw [write, Writing.into_value_of_binding d _ hb, Writing.bound, Writing.boundMembers,
      Value.scalarMembers_map, Writing.into_bind, Writing.into_liftM]
    show (Writing.parenthesized _).into b = _
    simp only [Writing.parenthesized, Writing.into_bind, Writing.into_text_binding d "("]
    rw [Writing.into_join_placeholders d first rest (b := b.binding d [.text "("]) hb]
    simp only [Writing.into_text_binding d ")", Buffer.binding_binding]
    rfl

theorem values_tail (rest : List Scalar) : Piece.values (tail rest) = rest := by
  induction rest with
  | nil => rfl
  | cons s rest ih => exact congrArg (s :: ·) ih

theorem values_bindAll (first : Scalar) (rest : List Scalar) :
    Piece.values (bindAll first rest).pieces = first :: rest := by
  show first :: Piece.values (tail rest ++ [.text ")"]) = _
  rw [Piece.values_append, values_tail]
  exact congrArg (first :: ·) (List.append_nil rest)

def inlined : Chunk → Except Error String
  | text sql => .ok sql
  | bind s => d.literal s
  | bindAll first rest => do
    let items ← (first :: rest).mapM d.literal
    return "(" ++ ", ".intercalate items ++ ")"

theorem into_write_of_inlining (c : Chunk) {b : Buffer} (hb : b.inlining = true) :
    (c.write d).into b =
      match c.inlined d with
      | .ok sql => (.ok (), { b with sql := b.sql ++ sql })
      | .error e => (.error e, b) := by
  cases c with
  | text sql => rfl
  | bind s => exact Writing.into_value_of_inlining d _ hb
  | bindAll first rest =>
    rw [write, Writing.into_value_of_inlining d _ hb, Value.literal, Value.collectionLiteral,
      Value.scalarMembers_map]
    rfl

theorem fill_tail (held : Nat) (first : Scalar) (rest : List Scalar) :
    Piece.fill d.inlineText held (.gap first :: tail rest) =
      ", ".intercalate ((first :: rest).map (d.inlineText 0)) := by
  induction rest generalizing held first with
  | nil =>
    rw [List.map_cons, List.map_nil, String.intercalate_singleton]
    exact String.append_empty
  | cons s rest ih =>
    rw [List.map_cons, List.map_cons, String.intercalate_cons_cons, ← List.map_cons,
      ← ih (held + 1) s, String.append_assoc]
    rfl

/-- A chunk inlines as its filled pieces, or fails with the first value without a literal. -/
theorem inlined_eq (held : Nat) (c : Chunk) :
    c.inlined d =
      match d.firstRefusal? (Piece.values c.pieces) with
      | none => .ok (Piece.fill d.inlineText held c.pieces)
      | some e => .error e := by
  cases c with
  | text sql => exact congrArg Except.ok String.append_empty.symm
  | bind s =>
    show d.literal s = match d.firstRefusal? [s] with | none => _ | some e => _
    rw [Dialect.firstRefusal?_cons]
    cases h : d.refusal? s with
    | some e => exact d.literal_of_refusal?_eq_some h
    | none =>
      rw [d.literal_of_refusal?_eq_none h held]
      exact congrArg Except.ok String.append_empty.symm
  | bindAll first rest =>
    rw [inlined, Dialect.mapM_literal, values_bindAll]
    cases d.firstRefusal? (first :: rest) with
    | some e => rfl
    | none =>
      show Except.ok _ = Except.ok _
      rw [pieces, Piece.fill, ← List.cons_append, Piece.fill_append, fill_tail,
        String.append_assoc]
      simp only [Piece.fill, String.append_empty]

end Chunk

namespace Draft

def result : Option Error → Except Error Unit
  | none => .ok ()
  | some e => .error e

theorem into_write_of_error {chunks : List Chunk} (e : Option Error) {b b' : Buffer}
    (h : (Writing.sequence (chunks.map (Chunk.write d))).into b = (.ok (), b')) :
    ((Draft.mk chunks e).write d).into b = (result e, b') := by
  rw [write, Writing.into_bind, h]
  cases e <;> rfl

/-- A buffer that binds takes all pieces in front of the error. -/
theorem into_write_of_binding (a : Draft) {b : Buffer} (hb : b.inlining = false) :
    (a.write d).into b = (result a.error, b.binding d (pieces a.chunks)) := by
  obtain ⟨chunks, e⟩ := a
  apply into_write_of_error
  induction chunks generalizing b with
  | nil => rw [pieces, List.flatMap_nil, Buffer.binding_nil]; rfl
  | cons c rest ih =>
    rw [List.map_cons, Writing.sequence, Writing.into_bind, Chunk.into_write_of_binding d c hb]
    show (Writing.sequence (rest.map (Chunk.write d))).into _ = _
    rw [ih (b := b.binding d c.pieces) hb, Buffer.binding_binding, pieces_cons]

/-- The text with literals up to the first chunk that has a value without one. -/
def inlinedText : List Chunk → String
  | [] => ""
  | c :: rest =>
    match c.inlined d with
    | .ok sql => sql ++ inlinedText rest
    | .error _ => ""

theorem values_cons (c : Chunk) (rest : List Chunk) :
    values (c :: rest) = Piece.values c.pieces ++ values rest :=
  Piece.values_append _ _

theorem inlinedText_of_complete {chunks : List Chunk} (held : Nat)
    (h : d.firstRefusal? (values chunks) = none) :
    inlinedText d chunks = Piece.fill d.inlineText held (pieces chunks) := by
  induction chunks generalizing held with
  | nil => rfl
  | cons c rest ih =>
    rw [values_cons, Dialect.firstRefusal?_append, Option.or_eq_none_iff] at h
    rw [inlinedText, Chunk.inlined_eq d held, h.1, pieces_cons, Piece.fill_append,
      ih (held + (Piece.values c.pieces).length) h.2]

/-- A buffer that inlines stops at the first value without a literal, or else at the error. -/
theorem into_write_of_inlining (a : Draft) {b : Buffer} (hb : b.inlining = true) :
    (a.write d).into b =
      (result ((d.firstRefusal? (values a.chunks)).or a.error),
        { b with sql := b.sql ++ inlinedText d a.chunks }) := by
  obtain ⟨chunks, e⟩ := a
  induction chunks generalizing b with
  | nil =>
    rw [inlinedText, String.append_empty]
    exact into_write_of_error d e rfl
  | cons c rest ih =>
    have hsplit : Draft.mk (c :: rest) e = ⟨[c], none⟩ ++ ⟨rest, e⟩ := rfl
    have hfirst : ((Draft.mk [c] none).write d).into b = (c.write d).into b := by
      simp only [write, List.map_cons, List.map_nil, Writing.sequence, bind_pure_unit]
    rw [hsplit, write_append, Writing.into_bind, hfirst, Chunk.into_write_of_inlining d c hb,
      Chunk.inlined_eq d 0]
    show _ = (result ((d.firstRefusal? (values (c :: rest))).or e),
      { b with sql := b.sql ++ inlinedText d (c :: rest) })
    rw [values_cons, Dialect.firstRefusal?_append, inlinedText, Chunk.inlined_eq d 0]
    cases d.firstRefusal? (Piece.values c.pieces) with
    | some e' => simp only [Option.some_or, String.append_empty]; rfl
    | none =>
      simp only [Option.none_or]
      rw [ih (b := { b with sql := b.sql ++ Piece.fill d.inlineText 0 c.pieces }) hb,
        String.append_assoc]

end Draft

end SqlRender
