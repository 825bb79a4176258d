import Mathlib
import SqlRender.Proofs.Draft.Masked
import SqlRender.Proofs.Literal
import SqlRender.Proofs.ModeAgreement
import SqlRender.Proofs.Node.Relates

namespace SqlRender

open Template

/-- Each raw text in the tree leaves a scan outside quotes. -/
def Node.HasClosedTexts (d : Dialect) (n : Node) : Prop :=
  ∀ m, n.Reaches m → ∀ sql ∈ m.rawText?, IsClosed d.capabilities.backslashEscapes sql

/-- Both texts end outside quotes and are the same there. -/
def Template.SameOutside (backslashEscapes : Bool) (a b : String) : Prop :=
  IsClosed backslashEscapes a ∧ IsClosed backslashEscapes b ∧
    unquoted backslashEscapes a = unquoted backslashEscapes b

theorem Template.IsClosed.sameOutside {backslashEscapes : Bool} {sql : String}
    (h : IsClosed backslashEscapes sql) : SameOutside backslashEscapes sql sql := ⟨h, h, rfl⟩

theorem Template.SameOutside.append {backslashEscapes : Bool} {a b a' b' : String}
    (h : SameOutside backslashEscapes a b) (h' : SameOutside backslashEscapes a' b') :
    SameOutside backslashEscapes (a ++ a') (b ++ b') := by
  obtain ⟨ha, hb, heq⟩ := h
  obtain ⟨ha', hb', heq'⟩ := h'
  refine ⟨ha.append _ ha', hb.append _ hb', ?_⟩
  rw [unquoted_append_of_isClosed _ ha, unquoted_append_of_isClosed _ hb, heq, heq']

variable {d : Dialect} (hd : d ∈ Registry.standard.dialects)

include hd

/-- Outside quotes a value reads as it does with its text masked. -/
theorem Registry.sameOutside_inlineText (held : Nat) (s : Scalar) :
    SameOutside d.capabilities.backslashEscapes (d.inlineText held s)
      (d.inlineText held s.masked) := by
  cases s with
  | text s =>
    obtain ⟨hclosed, hunquoted⟩ := isHidden_inlineText hd held s
    obtain ⟨hclosed', hunquoted'⟩ := isHidden_inlineText hd held ""
    exact ⟨hclosed, hclosed', hunquoted.trans hunquoted'.symm⟩
  | _ => exact (isTidy_inlineText hd held _).closed.sameOutside

theorem Registry.congruence_sameOutside :
    Congruence d d.inlineText (fun held s ↦ d.inlineText held s.masked)
      fun _ ↦ SameOutside d.capabilities.backslashEscapes where
  plain h := (h.isClosed _).sameOutside
  name s := (isTidy_quote d hd s).closed.sameOutside
  value := sameOutside_inlineText hd
  append h h' := h.append h'
  parenthesized h := by
    have hopen := isClosed_of_no_quote d.capabilities.backslashEscapes "(" (by decide)
    have hclose := isClosed_of_no_quote d.capabilities.backslashEscapes ")" (by decide)
    exact (hopen.1.sameOutside.append h).append hclose.1.sameOutside

omit hd

def Piece.masked : Piece → Piece
  | text sql => text sql
  | gap s => gap s.masked

theorem Piece.fill_masked (f : Nat → Scalar → String) (held : Nat) (ps : List Piece) :
    fill f held (ps.map masked) = fill (fun held s ↦ f held s.masked) held ps := by
  induction ps generalizing held with
  | nil => rfl
  | cons p rest ih =>
    cases p with
    | text sql => exact congrArg (sql ++ ·) (ih held)
    | gap s => exact congrArg (f held s.masked ++ ·) (ih (held + 1))

theorem Draft.pieces_masked (chunks : List Chunk) :
    pieces (chunks.map Chunk.masked) = (pieces chunks).map Piece.masked := by
  have hchunk (c : Chunk) : c.masked.pieces = c.pieces.map Piece.masked := by
    cases c with
    | text sql => rfl
    | bind s => rfl
    | bindAll first rest =>
      have htail : Chunk.tail (rest.map Scalar.masked) = (Chunk.tail rest).map Piece.masked := by
        rw [Chunk.tail, Chunk.tail, List.flatMap_map, List.map_flatMap]
        rfl
      simp only [Chunk.masked, Chunk.pieces, htail, List.map_cons, List.map_append, List.map_nil,
        Piece.masked]
  rw [pieces, pieces, List.flatMap_map, List.map_flatMap]
  exact congrArg (chunks.flatMap ·) (funext hchunk)

include hd

/-- Outside quotes a text reads like that of the masked tree. -/
theorem Node.unquoted_of_render_inlining {n : Node} (hn : n.HasClosedTexts d) {r : Rendered}
    (h : n.render d true = .ok r) :
    unquoted d.capabilities.backslashEscapes r.sql =
      unquoted d.capabilities.backslashEscapes
        (Piece.fill d.inlineText 0 (Draft.pieces (n.masked.draft d).chunks)) := by
  have hwritten : ∀ m, n.Reaches m → ∀ sql ∈ m.writtenTexts d,
      SameOutside d.capabilities.backslashEscapes sql sql := by
    intro m hm sql hsql
    have hclosed := hn m hm
    cases m with
    | verbatim raw =>
      rw [List.mem_singleton.mp hsql]
      exact (hclosed raw rfl).sameOutside
    | template raw args =>
      exact ((hclosed raw rfl).of_mem_segments _ hsql).sameOutside
    | _ => exact absurd hsql List.not_mem_nil
  obtain ⟨hsucceeds, hsql⟩ := sql_of_render_inlining h
  have hrelates := relates_draft (Registry.congruence_sameOutside hd) hd n hwritten hsucceeds 0
  rw [hsql, hrelates.2.2, draft_masked, Draft.masked, Draft.pieces_masked, Piece.fill_masked]

/-- Texts that are bound have no influence on what stands outside quotes. -/
theorem Node.unquoted_eq_of_masked_eq {n m : Node} (h : n.masked = m.masked)
    (hn : n.HasClosedTexts d) (hm : m.HasClosedTexts d) {r s : Rendered}
    (hr : n.render d true = .ok r) (hs : m.render d true = .ok s) :
    unquoted d.capabilities.backslashEscapes r.sql =
      unquoted d.capabilities.backslashEscapes s.sql := by
  rw [unquoted_of_render_inlining hd hn hr, unquoted_of_render_inlining hd hm hs, h]

omit hd

/-- A name that tries to leave its quotes reads like any other one. -/
theorem Node.unquoted_eq_of_hostile_name :
    unquoted true "name = 'it\\'s' OR id IN ('1')" =
      unquoted true "name = '\\\\\\' OR 1 = 1; --' OR id IN ('1')" := by
  let named (name : String) : Node :=
    .template "name = ? OR id IN ?"
      [.scalar (.text name), .collection .list [.scalar (.text "1")]]
  have hd : Dialect.mysql ∈ Registry.standard.dialects := by decide
  have hmasked : (named "it's").masked = (named "\\' OR 1 = 1; --").masked := rfl
  have hclosed (name : String) : (named name).HasClosedTexts .mysql := by
    have htext : IsClosed true "name = ? OR id IN ?" := by decide
    refine Node.forall_reaches_iff.mpr ⟨?_, fun k hk ↦ absurd hk List.not_mem_nil⟩
    rintro sql ⟨⟩
    exact htext
  have hr : (named "it's").render .mysql true =
      .ok ⟨"name = 'it\\'s' OR id IN ('1')", []⟩ := by cbv
  have hs : (named "\\' OR 1 = 1; --").render .mysql true =
      .ok ⟨"name = '\\\\\\' OR 1 = 1; --' OR id IN ('1')", []⟩ := by cbv
  exact Node.unquoted_eq_of_masked_eq hd hmasked (hclosed _) (hclosed _) hr hs

end SqlRender
