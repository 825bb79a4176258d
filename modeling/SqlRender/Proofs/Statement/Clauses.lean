import SqlRender.Buffer
import SqlRender.Statement.Select

namespace SqlRender.Select

/-- The clauses of a selection that its steps change. -/
inductive Clause where
  | distinct
  | source
  | joins
  | conditions
  | groups
  | having
  | orders
  | limit
  | offset
  deriving DecidableEq

namespace Step

def clause : Step → Clause
  | .distinct _ => .distinct
  | .source .. => .source
  | .join .. => .joins
  | .filter .. => .conditions
  | .groupBy _ => .groups
  | .having .. => .having
  | .orderBy .. => .orders
  | .limit _ => .limit
  | .offset _ => .offset

end Step

variable {s a : Select} {step : Step} {steps xs ys : List Step}

end SqlRender.Select
