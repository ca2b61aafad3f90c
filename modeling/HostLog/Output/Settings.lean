import HostLog.Environment
import HostLog.Json.Record
import HostLog.Json.Strings

/-!
# Settings of the process log

Which diagnostics are printed and in which layout. The layout can be chosen by an environment
variable.
-/

namespace HostLog.Output

structure Settings where
  /-- The filter that is used unless the environment has one. -/
  logLevel : String := "info"
  /-- Whether each diagnostic is printed as a JSON object. -/
  jsonLogs : Bool := false
  deriving DecidableEq, Repr

namespace Settings

/-- Whether two texts are equal but for the case of ASCII letters. -/
def sameButCase (a b : String) : Bool := a.toList.map Char.toLower == b.toList.map Char.toLower

/-- The variable that chooses the layout. -/
def layoutVariable : String := "FRAMEWORK_EVENTS_LOG_FORMAT"

/-- The settings of an environment: all as by default, but for the layout. -/
def ofEnvironment (env : Environment) : Settings :=
  { jsonLogs := ((env.get? layoutVariable).map (sameButCase · "json")).getD false }

/-- Settings of which only some fields have been read. -/
structure Draft where
  logLevel : Option String := none
  jsonLogs : Option Bool := none

def Draft.finish (d : Draft) : Except Json.Cause Settings :=
  match d.logLevel, d.jsonLogs with
  | none, _ => .error (.missingField "log_level")
  | some _, none => .error (.missingField "json_logs")
  | some logLevel, some jsonLogs => .ok { logLevel, jsonLogs }

def shape : Json.Shape Draft Settings where
  name := "ObservabilityConfig"
  fields :=
    [.of "log_level" true .text Draft.logLevel fun v d => { d with logLevel := some v },
      .of "json_logs" true .truth Draft.jsonLogs fun v d => { d with jsonLogs := some v }]
  start := {}
  finish := Draft.finish

/-- Reads settings from a document. -/
def reader : Json.Reader Settings := shape.reader

/-- Settings as they stand in a document. -/
def toJson (s : Settings) : String :=
  Json.writeObject
    [("log_level", Json.writeString s.logLevel), ("json_logs", Json.writeTruth s.jsonLogs)]

end Settings

end HostLog.Output
