import SqlRender.Schema.Coercion
import SqlRender.Text.LowerCase

namespace SqlRender

/-- Defaults of rendering, and where the service listens. -/
structure Settings where
  logLevel : String := "INFO"
  dialect : String := "mysql"
  /-- Unless set, the dialect decides. -/
  interpolate : Option Bool := none
  validate : Bool := false
  pretty : Bool := false
  apiHost : String := "localhost"
  apiPort : Int := 8000
  /-- The port that a hosting platform assigns. -/
  port : Option Int := none
  deriving DecidableEq

namespace Settings

/-- An assigned port is preferred to the configured one. -/
def effectivePort (s : Settings) : Int := s.port.getD s.apiPort

def ofMembers (members : List (String × Json)) : Schema.Checked Settings :=
  Settings.mk
    <$> Schema.defaulted members "log_level" "INFO" Schema.text
    <*> Schema.defaulted members "sql_dialect" "mysql" Schema.text
    <*> Schema.defaulted members "sql_interpolate" none (Schema.nullable Schema.bool)
    <*> Schema.defaulted members "sql_validate" false Schema.bool
    <*> Schema.defaulted members "sql_pretty" false Schema.bool
    <*> Schema.defaulted members "api_server_host" "localhost" Schema.text
    <*> Schema.defaulted members "api_server_port" 8000 Schema.int
    <*> Schema.defaulted members "port" none (Schema.nullable Schema.int)

/-- Given values win over variables of the environment, whose names are compared in small letters
and of which the last one counts. -/
def ofSources (given : List (String × Json)) (environment : List (String × String)) :
    Schema.Checked Settings :=
  let assigned := environment.reverse.map fun (n, v) ↦ (Text.lower n, Json.text v)
  ofMembers (given ++ assigned)

end Settings

end SqlRender
