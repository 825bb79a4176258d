import SqlRender.Dialect.Builtin
import SqlRender.Text.LowerCase

namespace SqlRender

/-- Dialects by name, each name once. -/
structure Registry where
  entries : List (String × Dialect)

structure UnknownDialect where
  name : String
  available : List String
  deriving DecidableEq

def UnknownDialect.message (e : UnknownDialect) : String :=
  s!"Unsupported dialect '{e.name}'. Available: " ++ ", ".intercalate e.available

namespace Registry

/-- A dialect is kept under its name as it is spelled, in the place of one registered before. -/
def register (r : Registry) (d : Dialect) : Registry :=
  ⟨r.entries.filter (·.1 ≠ d.name) ++ [(d.name, d)]⟩

/-- The names in the order of their characters. -/
def available (r : Registry) : List String :=
  (r.entries.map Prod.fst).mergeSort fun a b ↦ decide (a ≤ b)

/-- Looks for the name in small letters. -/
def get (r : Registry) (name : String) : Except UnknownDialect Dialect :=
  match r.entries.lookup (Text.lower name) with
  | some d => .ok d
  | none => .error ⟨name, r.available⟩

def standard : Registry :=
  [Dialect.clickhouse, Dialect.mysql, Dialect.postgres, Dialect.sqlite].foldl register ⟨[]⟩

end Registry

end SqlRender
