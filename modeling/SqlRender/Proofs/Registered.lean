import SqlRender.Dialect.Registry
import SqlRender.Dialect.Literal
import SqlRender.Proofs.Scan

namespace SqlRender

namespace Registry

def dialects (r : Registry) : List Dialect := r.entries.map Prod.snd

theorem dialects_standard :
    standard.dialects = [Dialect.clickhouse, Dialect.mysql, Dialect.postgres, Dialect.sqlite] := by
  decide

/-- What holds of the four dialects holds of every registered one. -/
theorem forall_mem_standard {P : Dialect → Prop} (clickhouse : P .clickhouse)
    (mysql : P .mysql) (postgres : P .postgres) (sqlite : P .sqlite) :
    ∀ d ∈ standard.dialects, P d := by
  rw [dialects_standard]
  simp only [List.forall_mem_cons, List.not_mem_nil, false_implies, implies_true, and_true]
  exact ⟨clickhouse, mysql, postgres, sqlite⟩

/-- A registered dialect that has upserts can name the proposed value. -/
theorem proposed_isSome_of_upsert :
    ∀ d ∈ standard.dialects, d.capabilities.upsert = true → d.proposedQuotes.isSome = true := by
  exact forall_mem_standard (by decide) (by decide) (by decide) (by decide)

/-- The proposed value is the column as the argument of a function, or behind a table name. -/
theorem proposed_eq :
    ∀ d ∈ standard.dialects, ∀ {column sql : String}, d.proposed column = .ok sql →
      sql = "VALUES" ++ ("(" ++ column ++ ")") ∨ sql = "EXCLUDED." ++ column ∨
        sql = "excluded." ++ column := by
  refine forall_mem_standard ?_ ?_ ?_ ?_ <;> intro column sql h
  · cases h
  · cases h
    have hopen : "VALUES(" = "VALUES" ++ "(" := by decide
    left
    rw [hopen, String.append_assoc, String.append_assoc, String.append_assoc]
  · cases h
    exact .inr (.inl String.append_empty)
  · cases h
    exact .inr (.inr String.append_empty)

theorem boolLiteral_isPlain :
    ∀ d ∈ standard.dialects, ∀ b, Template.IsPlain (d.boolLiteral b) :=
  forall_mem_standard (by decide) (by decide) (by decide) (by decide)

end Registry

end SqlRender
