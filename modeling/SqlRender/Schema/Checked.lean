import SqlRender.Json.Basic

namespace SqlRender.Schema

/-- What is wrong with a part of a request or a setting. -/
inductive ProblemKind where
  | missing
  | jsonInvalid
  | stringType
  | boolType
  | boolParsing
  | intType
  | intParsing
  | intParsingSize
  | intFromFloat
  | finiteNumber
  | greaterThanEqual
  | listType
  | dictType
  | literalError
  | enum
  | modelAttributesType
  | unionTagNotFound
  | unionTagInvalid
  | recursionDepthExceeded
  deriving DecidableEq

def ProblemKind.name : ProblemKind → String
  | missing => "missing"
  | jsonInvalid => "json_invalid"
  | stringType => "string_type"
  | boolType => "bool_type"
  | boolParsing => "bool_parsing"
  | intType => "int_type"
  | intParsing => "int_parsing"
  | intParsingSize => "int_parsing_size"
  | intFromFloat => "int_from_float"
  | finiteNumber => "finite_number"
  | greaterThanEqual => "greater_than_equal"
  | listType => "list_type"
  | dictType => "dict_type"
  | literalError => "literal_error"
  | enum => "enum"
  | modelAttributesType => "model_attributes_type"
  | unionTagNotFound => "union_tag_not_found"
  | unionTagInvalid => "union_tag_invalid"
  | recursionDepthExceeded => "recursion_depth_exceeded"

/-- A step on the way from the whole to the part that is wrong. -/
inductive Place where
  | name (name : String)
  | index (n : Nat)
  deriving DecidableEq

/-- What is wrong, with the value in which it was found. -/
structure Problem where
  kind : ProblemKind
  input : Json
  location : List Place := []

/-- A value that was read, or all the problems of its parts. -/
inductive Checked (α : Type) where
  | ok (a : α)
  | problems (ps : List Problem)

namespace Checked

variable {α β : Type}

def fail (kind : ProblemKind) (input : Json) : Checked α := problems [⟨kind, input, []⟩]

def map (f : α → β) : Checked α → Checked β
  | ok a => ok (f a)
  | problems ps => problems ps

/-- The problems of both sides are kept, those of the left one first. -/
def apply : Checked (α → β) → Checked α → Checked β
  | ok f, ok a => ok (f a)
  | ok _, problems ps => problems ps
  | problems ps, ok _ => problems ps
  | problems ps, problems qs => problems (ps ++ qs)

instance : Applicative Checked where
  pure := ok
  map := map
  seq f a := apply f (a ())

/-- Goes on with a value that was read. -/
def andThen (a : Checked α) (f : α → Checked β) : Checked β :=
  match a with
  | ok a => f a
  | problems ps => problems ps

/-- Problems of a part are problems of the whole at that place. -/
def under (place : Place) : Checked α → Checked α
  | ok a => ok a
  | problems ps => problems (ps.map fun p ↦ { p with location := place :: p.location })

end Checked

end SqlRender.Schema
