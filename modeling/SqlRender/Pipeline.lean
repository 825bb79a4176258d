import SqlRender.Buffer
import SqlRender.Dialect.Registry
import SqlRender.Settings
import SqlRender.Sql.Tools

namespace SqlRender

/-- What a render may ask for; the settings decide what it leaves open. -/
structure RenderOptions where
  /-- An empty name asks for nothing. -/
  dialect : String := ""
  interpolate : Option Bool := none
  validate : Option Bool := none
  pretty : Option Bool := none

structure RenderReport where
  sql : String
  params : List Value
  dialect : String
  interpolated : Bool
  problems : List Sql.Problem

namespace RenderReport

def isValid (r : RenderReport) : Bool := r.problems.isEmpty

def warnings (r : RenderReport) : List String :=
  r.problems.map fun p ↦ "SQL validation: " ++ p.message

end RenderReport

inductive PipelineError where
  | unknownDialect (e : UnknownDialect)
  | render (e : Error)
  /-- The reader or the formatter fails. -/
  | tool (text : String)

/-- The report on a rendered statement, whose text is checked and laid out as far as it is asked
for. -/
def Sql.Tools.report (tools : Sql.Tools) (validate pretty inlining : Bool) (d : Dialect)
    (r : Rendered) : Except String RenderReport := do
  let problems ← if validate then Sql.check tools.read r.sql d.name else .ok []
  let sql ← if pretty then Sql.layout tools.format r.sql else .ok r.sql
  return ⟨sql, r.params, d.name, inlining, problems⟩

/-- Looks the dialect up, renders, and reports. -/
def Settings.render (tools : Sql.Tools) (s : Settings) (registry : Registry) (o : RenderOptions)
    (n : Node) : Except PipelineError RenderReport :=
  match registry.get (if o.dialect = "" then s.dialect else o.dialect) with
  | .error e => .error (.unknownDialect e)
  | .ok d =>
    let inlining := ((o.interpolate <|> s.interpolate).getD d.inlines)
    match n.render d inlining with
    | .error e => .error (.render e)
    | .ok r =>
      (tools.report (o.validate.getD s.validate) (o.pretty.getD s.pretty) inlining d r).mapError
        .tool

end SqlRender
