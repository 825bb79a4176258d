import SqlRender.Node.Write

namespace SqlRender

namespace Buffer

/-- What can be done with a buffer. -/
inductive Step where
  | write (text : String)
  | param (v : Value)
  | value (v : Value)
  | template (sql : String) (args : List Value)
  | node (n : Node)

/-- What a step writes, and the position of a parameter that it adds. -/
def Step.perform (d : Dialect) : Step → Writing (Option Nat)
  | write sql => do
    Writing.text sql
    return none
  | param v => do
    let position ← Writing.param v
    return some position
  | value v => do
    v.write d
    return none
  | template sql args => do
    (Node.template sql args).write d
    return none
  | node n => do
    n.write d
    return none

/-- The buffer after a step, also one that fails. -/
def apply (d : Dialect) (b : Buffer) (s : Step) : Buffer × Except Error (Option Nat) :=
  let (result, b) := (s.perform d).into b
  (b, result)

end Buffer

/-- Statement text with the values of its placeholders. -/
structure Rendered where
  sql : String
  params : List Value

/-- What a write into a buffer of its own leaves, unless it fails. -/
def Writing.rendered (inlining : Bool) (w : Writing Unit) : Except Error Rendered :=
  match w.into { inlining } with
  | (.ok (), b) => .ok ⟨b.sql, b.params⟩
  | (.error e, _) => .error e

def Node.render (d : Dialect) (inlining : Bool) (n : Node) : Except Error Rendered :=
  (n.write d).rendered inlining

/-- The dialect decides whether values are inlined, unless the caller does. -/
def Node.toSql (d : Dialect) (inlining : Option Bool) (n : Node) : Except Error Rendered :=
  n.render d (inlining.getD d.inlines)

/-- The text of a value with every literal inlined. -/
def Value.interpolated (d : Dialect) : Value → Except Error String
  | node n => ((node n).write d).rendered true |>.map Rendered.sql
  | v => v.literal d

end SqlRender
