import Mathlib
import SqlRender.Dialect.Builtin
import SqlRender.Proofs.ModeAgreement

namespace SqlRender

namespace Buffer

variable (d : Dialect)

/-- The buffer after some steps, those that fail included. -/
def run (b : Buffer) (steps : List Step) : Buffer := steps.foldl (fun b s ↦ (b.apply d s).1) b

/-- The step writes SQL. A bare parameter has no mark in the text. -/
def Step.IsRendering : Step → Prop
  | param _ => False
  | _ => True

variable {d}

theorem run_cons (b : Buffer) (s : Step) (steps : List Step) :
    b.run d (s :: steps) = (b.apply d s).1.run d steps := rfl

theorem Step.exists_draft {s : Step} (hs : s.IsRendering) :
    ∃ a : Draft, s.perform d = do a.write d; return none := by
  cases s with
  | param v => exact absurd hs not_false
  | write sql => exact ⟨.text sql, by rw [Draft.write_text]; rfl⟩
  | value v => exact ⟨v.draft d, by rw [Value.write_draft]; rfl⟩
  | template sql args => exact ⟨(Node.template sql args).draft d, by rw [Node.write_draft]; rfl⟩
  | node n => exact ⟨n.draft d, by rw [Node.write_draft]; rfl⟩

theorem apply_of_perform {s : Step} {w : Writing Unit} (h : s.perform d = do w; return none)
    {b b' : Buffer} {r : Except Error Unit} (hw : w.into b = (r, b')) :
    b.apply d s = (b', r.map fun _ ↦ none) := by
  rw [apply, h, Writing.into_bind, hw]
  cases r <;> rfl

/-- A step leaves the same pieces and the same result in every buffer that binds values. -/
theorem exists_apply_of_binding {s : Step} (hs : s.IsRendering) :
    ∃ ps result, ∀ b : Buffer, b.inlining = false → b.apply d s = (b.binding d ps, result) := by
  obtain ⟨a, ha⟩ := Step.exists_draft (d := d) hs
  refine ⟨Draft.pieces a.chunks, (Draft.result a.error).map fun _ ↦ none, ?_⟩
  intro b hb
  exact apply_of_perform ha (Draft.into_write_of_binding d a hb)

theorem exists_apply_of_inlining {s : Step} (hs : s.IsRendering) :
    ∃ sql result, ∀ b : Buffer, b.inlining = true →
      b.apply d s = ({ b with sql := b.sql ++ sql }, result) := by
  obtain ⟨a, ha⟩ := Step.exists_draft (d := d) hs
  let error := (d.firstRefusal? (Draft.values a.chunks)).or a.error
  refine ⟨Draft.inlinedText d a.chunks, (Draft.result error).map fun _ ↦ none, ?_⟩
  intro b hb
  exact apply_of_perform ha (Draft.into_write_of_inlining d a hb)

theorem binding_eq_weave (b : Buffer) (ps : List Piece) :
    b.binding d ps =
      { b with
        sql := b.sql ++ weave (Piece.firstChunk ps)
          (d.placeholdersFrom b.params.length (Piece.values ps).length) (Piece.chunksBehind ps)
        params := b.params ++ (Piece.values ps).map .scalar } := by
  rw [binding, Piece.fill_eq_weave, Dialect.fillings_mark_from]

theorem exists_run_of_binding {steps : List Step} (hsteps : ∀ s ∈ steps, s.IsRendering)
    {b : Buffer} (hb : b.inlining = false) : ∃ ps, b.run d steps = b.binding d ps := by
  induction steps generalizing b with
  | nil => exact ⟨[], (binding_nil d b).symm⟩
  | cons s steps ih =>
    obtain ⟨hs, hrest⟩ := List.forall_mem_cons.mp hsteps
    obtain ⟨ps, result, happly⟩ := exists_apply_of_binding (d := d) hs
    obtain ⟨qs, hrun⟩ := ih hrest (b := b.binding d ps) hb
    refine ⟨ps ++ qs, ?_⟩
    rw [run_cons, happly b hb, hrun, binding_binding]

theorem params_run_of_inlining {steps : List Step} (hsteps : ∀ s ∈ steps, s.IsRendering)
    {b : Buffer} (hb : b.inlining = true) : (b.run d steps).params = b.params := by
  induction steps generalizing b with
  | nil => rfl
  | cons s steps ih =>
    obtain ⟨hs, hrest⟩ := List.forall_mem_cons.mp hsteps
    obtain ⟨sql, result, happly⟩ := exists_apply_of_inlining (d := d) hs
    have hparams := ih hrest (b := { b with sql := b.sql ++ sql }) hb
    rw [run_cons, happly b hb, hparams]

/-- Between literal chunks the text has one mark for each parameter, numbered in order. -/
def IsNumbered (d : Dialect) (b : Buffer) : Prop :=
  ∃ first chunks,
    chunks.length = b.params.length ∧
    b.sql = weave first (d.placeholders b.params.length) chunks

/-- The step only adds to a buffer, and ends in the same way on each of the same mode. Of what the
buffer holds, only the number of its parameters counts. -/
structure Step.IsAppending (d : Dialect) (s : Step) : Prop where
  inlining : ∃ sql result, ∀ b : Buffer, b.inlining = true →
    b.apply d s = ({ b with sql := b.sql ++ sql }, result)
  binding : ∃ first chunks params result, chunks.length = params.length ∧
    ∀ b : Buffer, b.inlining = false →
      b.apply d s =
        ({ b with
            sql := b.sql ++ weave first (d.placeholdersFrom b.params.length params.length) chunks
            params := b.params ++ params },
          result)

theorem Step.isAppending {s : Step} (hs : s.IsRendering) : s.IsAppending d := by
  obtain ⟨ps, result, happly⟩ := exists_apply_of_binding (d := d) hs
  refine ⟨exists_apply_of_inlining hs, Piece.firstChunk ps, Piece.chunksBehind ps,
    (Piece.values ps).map .scalar, result, ?_, ?_⟩
  · rw [Piece.length_chunksBehind, List.length_map]
  · intro b hb
    rw [happly b hb, binding_eq_weave, List.length_map]

theorem isNumbered_binding_empty (ps : List Piece) :
    (({ inlining := false } : Buffer).binding d ps).IsNumbered d := by
  refine ⟨Piece.firstChunk ps, Piece.chunksBehind ps, ?_, ?_⟩
  · rw [binding_empty, Piece.length_chunksBehind, List.length_map]
  · rw [binding_empty, Piece.fill_eq_weave, Dialect.fillings_mark, List.length_map]

/-- Whatever steps fail, a buffer that inlines holds no parameters, and one that binds has a mark
for each of them. -/
theorem run_isNumbered (d : Dialect) {steps : List Step} (hsteps : ∀ s ∈ steps, s.IsRendering) :
    (run d { inlining := true } steps).params = [] ∧
      (run d { inlining := false } steps).IsNumbered d ∧
      ∀ s ∈ steps, s.IsAppending d := by
  refine ⟨params_run_of_inlining hsteps rfl, ?_, fun s hs ↦ Step.isAppending (hsteps s hs)⟩
  obtain ⟨ps, hrun⟩ := exists_run_of_binding (d := d) hsteps (b := { inlining := false }) rfl
  rw [hrun]
  exact isNumbered_binding_empty ps

/-- The second argument of the template ends it after its first mark. -/
theorem run_isNumbered_half_written :
    let steps : List Step :=
      [.value (.scalar (.int 1)),
        .template " AND b = ? AND c = ?" [.scalar (.int 2), .foreign "object"],
        .node (.compare "d" .eq (.scalar (.int 3)))]
    (run .postgres { inlining := false } steps).sql = "$1 AND b = $2 AND c = \"d\" = $3" ∧
      (∀ s ∈ steps, s.IsRendering) ∧
      (run .postgres { inlining := true } steps).params = [] ∧
      (run .postgres { inlining := false } steps).IsNumbered .postgres ∧
      ∀ s ∈ steps, s.IsAppending .postgres := by
  intro steps
  have hsteps : ∀ s ∈ steps, s.IsRendering := by
    simp [steps, Step.IsRendering]
  have hsql : (run .postgres { inlining := false } steps).sql =
      "$1 AND b = $2 AND c = \"d\" = $3" := by cbv
  exact ⟨hsql, hsteps, run_isNumbered .postgres hsteps⟩

end Buffer

end SqlRender
