import SqlRender.Api.BodyLimit
import SqlRender.Api.Statement
import SqlRender.Json.Reader
import SqlRender.Node.Display
import SqlRender.Pipeline
import SqlRender.Text.Encoding

namespace SqlRender.Api

open Schema (Checked Place Problem)

structure HttpRequest where
  method : String
  path : String
  headers : List (String × String)
  chunks : List (List UInt8)

/-- What a request comes to. -/
inductive Outcome where
  | tooLarge
  | notFound
  | methodNotAllowed
  /-- The path has slashes behind it that it should not have. -/
  | moved
  | unreadable
  | invalid (problems : List Problem)
  | unknownDialect (e : UnknownDialect)
  /-- A dialect is listed that is not found by its name. -/
  | unfetched (e : UnknownDialect)
  /-- Rendering ends in an error that has no code. -/
  | broken (text : String)
  | failed (e : Error)
  | health
  /-- A description of the service for its users. -/
  | documentation
  | dialects (default : String) (dialects : List (String × Dialect))
  | rendered (report : RenderReport)

def version : String := "0.1.0"

def bodyLimit : Nat := 256 * 1024

/-- The problems of a request lie in its body. -/
def invalidBody (ps : List Problem) : Outcome :=
  .invalid (ps.map fun p ↦ { p with location := .name "body" :: p.location })

/-- What the value in a body comes to, with `standIn` for each surrogate without a partner. -/
def ofBody (check : Json → Checked Outcome) (standIn : Char) (bytes : List UInt8) : Outcome :=
  if bytes.isEmpty then invalidBody [⟨.missing, .null, []⟩]
  else
    match Text.decode? standIn bytes with
    | none => .unreadable
    | some text =>
      match Json.parse standIn text with
      | .error (.malformed position) =>
        invalidBody [⟨.jsonInvalid, .object [], [.index position]⟩]
      | .error .longNumber | .error .deepNesting => .unreadable
      | .ok j =>
        match check j with
        | .ok outcome => outcome
        | .problems ps => invalidBody ps

def render (tools : Sql.Tools) (settings : Settings) (registry : Registry) (r : RenderRequest) :
    Outcome :=
  let options : RenderOptions :=
    { dialect := r.dialect.getD ""
      interpolate := r.interpolate
      validate := r.validate
      pretty := r.pretty }
  match settings.render tools registry options r.statement.node with
  | .ok report => .rendered report
  | .error (.unknownDialect e) => .unknownDialect e
  | .error (.render e) => if e.code?.isSome then .failed e else .broken e.message
  | .error (.tool text) => .broken text

/-- Reads a request and renders what it asks for. -/
def checkRender (tools : Sql.Tools) (settings : Settings) (registry : Registry) (j : Json) :
    Checked Outcome :=
  (RenderRequest.ofJson j).map (render tools settings registry)

/-- Every dialect that is listed is fetched by its name. -/
def listDialects (settings : Settings) (registry : Registry) : Outcome :=
  match registry.available.mapM fun name ↦ (registry.get name).map (name, ·) with
  | .ok found => .dialects settings.dialect found
  | .error e => .unfetched e

inductive Route where
  | health
  | dialects
  | render
  | documentation

/-- A line break at the end of a path does not count. -/
def Route.ofPath? (path : String) : Option Route :=
  match if path.endsWith "\n" then (path.dropEnd 1).toString else path with
  | "/health" => some health
  | "/dialects" => some dialects
  | "/render" => some render
  | "/docs" | "/docs/oauth2-redirect" | "/redoc" | "/openapi.json" => some documentation
  | _ => none

def Route.methods : Route → List String
  | health | dialects => ["GET"]
  | render => ["POST"]
  | documentation => ["GET", "HEAD"]

def withoutSlashes (path : String) : String :=
  String.ofList (path.toList.reverse.dropWhile (· = '/')).reverse

def route (tools : Sql.Tools) (settings : Settings) (registry : Registry) (method path : String)
    (standIn : Char) (body : List UInt8) : Outcome :=
  match Route.ofPath? path with
  | none => if (Route.ofPath? (withoutSlashes path)).isSome then .moved else .notFound
  | some r =>
    if !r.methods.contains method then .methodNotAllowed
    else
      match r with
      | .health => .health
      | .dialects => listDialects settings registry
      | .render => ofBody (checkRender tools settings registry) standIn body
      | .documentation => .documentation

/-- The names of headers are in small letters. -/
def HttpRequest.header? (r : HttpRequest) (name : String) : Option String := r.headers.lookup name

/-- The outcome that `next` gives for the body, unless that is too large. -/
def limited (limit : Nat) (r : HttpRequest) (next : List UInt8 → Outcome) : Outcome :=
  match BodyLimit.receive limit (r.header? "content-length") r.method r.chunks with
  | none => .tooLarge
  | some body => next body

def outcome (tools : Sql.Tools) (settings : Settings) (registry : Registry) (r : HttpRequest)
    (standIn : Char) : Outcome :=
  limited bodyLimit r (route tools settings registry r.method r.path standIn)

def detail (text : String) : Json := .object [("detail", .text text)]

def capabilitiesJson (c : Capabilities) : Json :=
  .object
    [("upsert_style", (c.upsertStyle.map fun s ↦ Json.text s.name).getD .null),
     ("supports_transactions", .bool c.transactions),
     ("supports_returning", .bool c.returning),
     ("supports_full_join", .bool c.fullJoin),
     ("supports_sourceless_select", .bool c.sourcelessSelect),
     ("supports_offset_without_limit", .bool c.offsetWithoutLimit),
     ("backslash_escapes", .bool c.backslashEscapes),
     ("supports_parenthesized_compound", .bool c.parenthesizedCompound),
     ("supports_upsert", .bool c.upsert)]

def dialectJson (name : String) (d : Dialect) : Json :=
  .object
    [("name", .text name), ("interpolate", .bool d.inlines),
     ("capabilities", capabilitiesJson d.capabilities)]

/-- A number that is not finite has no JSON form. -/
def paramJson : Value → Json
  | .scalar (.bool b) => .bool b
  | .scalar (.int n) => .int n
  | .scalar (.float x) => if x.IsFinite then .float x else .null
  | .scalar .null => .null
  | v => .text v.asText

def placeJson : Place → Json
  | .name s => .text s
  | .index n => .int n

def problemJson (p : Problem) : Json :=
  .object
    [("type", .text p.kind.name), ("loc", .array (p.location.map placeJson)), ("input", p.input)]

def reportJson (r : RenderReport) : Json :=
  .object
    [("sql", .text r.sql), ("params", .array (r.params.map paramJson)),
     ("dialect", .text r.dialect), ("interpolated", .bool r.interpolated),
     ("warnings", .array (r.warnings.map Json.text)), ("sql_valid", .bool r.isValid)]

namespace Outcome

def status : Outcome → Nat
  | tooLarge => 413
  | notFound => 404
  | methodNotAllowed => 405
  | moved => 307
  | unreadable => 400
  | invalid _ => 422
  | unknownDialect _ => 400
  | unfetched _ => 500
  | broken _ => 500
  | failed _ => 422
  | health => 200
  | documentation => 200
  | dialects .. => 200
  | rendered _ => 200

/-- All requests are timed but those that are refused for their size or come to no answer. -/
def isTimed : Outcome → Bool
  | tooLarge => false
  | unfetched _ => false
  | broken _ => false
  | _ => true

/-- What is answered, null where that is no JSON. -/
def body : Outcome → Json
  | tooLarge => detail s!"Request body too large (max {bodyLimit} bytes)"
  | notFound => detail "Not Found"
  | methodNotAllowed => detail "Method Not Allowed"
  | moved => .null
  | documentation => .null
  | unreadable => detail "There was an error parsing the body"
  | invalid problems => .object [("detail", .array (problems.map problemJson))]
  | unknownDialect e => detail e.message
  | unfetched _ => .null
  | broken _ => .null
  | failed e => .object [("error", .text (e.code?.getD "error")), ("message", .text e.message)]
  | health => .object [("status", .text "ok"), ("version", .text version)]
  | dialects default found =>
    .object
      [("default", .text default),
       ("dialects", .array (found.map fun (name, d) ↦ dialectJson name d))]
  | rendered r => reportJson r

end Outcome

/-- Not every outcome can be written. -/
inductive Response where
  | written (o : Outcome)
  /-- JSON has no number that is infinite or NaN. -/
  | notFinite (o : Outcome)
  /-- A surrogate without a partner has no form in bytes. -/
  | loneSurrogate (o : Outcome)

/-- Two characters that mean nothing to the service, so that an answer in which they make a
difference holds what they stand for. -/
def standIns : Char × Char := ('\ue000', '\ue001')

def respond (tools : Sql.Tools) (settings : Settings) (registry : Registry) (r : HttpRequest) :
    Response :=
  let first := outcome tools settings registry r standIns.1
  let second := outcome tools settings registry r standIns.2
  if !first.body.isFinite then .notFinite first
  else if first.body.texts ≠ second.body.texts then .loneSurrogate first
  else .written first

end SqlRender.Api
