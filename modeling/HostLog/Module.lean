import HostLog.Json.Record
import HostLog.Json.Strings

/-!
# Modules of the host

The identity of a module in the host: its number, its symbolic name and perhaps a version. In a
document a version that is absent is left out.
-/

namespace HostLog

structure Module where
  id : UInt64
  symbolicName : String
  version : Option String := none
  deriving DecidableEq, Repr

namespace Module

/-- How a module is shown: its name and its number, without the version. -/
def describe (m : Module) : String := m.symbolicName ++ " [" ++ toString m.id ++ "]"

/-- A module of which only some fields have been read. -/
structure Draft where
  id : Option UInt64 := none
  symbolicName : Option String := none
  version : Option (Option String) := none

namespace Draft

def finish (d : Draft) : Except Json.Cause Module :=
  match d.id, d.symbolicName with
  | none, _ => .error (.missingField "id")
  | some _, none => .error (.missingField "symbolic_name")
  | some id, some symbolicName => .ok { id, symbolicName, version := d.version.join }

end Draft

def shape : Json.Shape Draft Module where
  name := "ModuleRef"
  fields :=
    [.of "id" true .natural Draft.id fun v d => { d with id := some v },
      .of "symbolic_name" true .text Draft.symbolicName fun v d =>
        { d with symbolicName := some v },
      .of "version" false (.optional .text) Draft.version fun v d => { d with version := some v }]
  start := {}
  finish := Draft.finish

/-- Reads a module from a document. -/
def reader : Json.Reader Module := shape.reader

/-- A module as it stands in a document. -/
def toJson (m : Module) : String :=
  Json.writeObject
    ([("id", Json.writeNatural m.id), ("symbolic_name", Json.writeString m.symbolicName)] ++
      match m.version with
      | some v => [("version", Json.writeString v)]
      | none => [])

end Module

end HostLog
