import HostLog.Module

/-!
# Services of the host

A registered service: its number, the classes it is offered under, and the module that registered
it, if that is still known.
-/

namespace HostLog

structure Service where
  id : UInt64
  classes : List String
  module : Option Module := none
  deriving DecidableEq, Repr

namespace Service

/-- How a service is shown: its classes and its number. -/
def describe (s : Service) : String :=
  "[" ++ String.intercalate ", " s.classes ++ "] (service.id=" ++ toString s.id ++ ")"

/-- A service of which only some fields have been read. -/
structure Draft where
  id : Option UInt64 := none
  classes : Option (List String) := none
  module : Option (Option Module) := none

namespace Draft

def finish (d : Draft) : Except Json.Cause Service :=
  match d.id, d.classes with
  | none, _ => .error (.missingField "service_id")
  | some _, none => .error (.missingField "object_classes")
  | some id, some classes => .ok { id, classes, module := d.module.join }

end Draft

def shape : Json.Shape Draft Service where
  name := "ServiceReference"
  fields :=
    [.of "service_id" true .natural Draft.id fun v d => { d with id := some v },
      .of "object_classes" true (.list .text) Draft.classes fun v d => { d with classes := some v },
      .of "module" false (.optional Module.reader) Draft.module fun v d =>
        { d with module := some v }]
  start := {}
  finish := Draft.finish

/-- Reads a service from a document. -/
def reader : Json.Reader Service := shape.reader

/-- A service as it stands in a document. -/
def toJson (s : Service) : String :=
  Json.writeObject
    [("service_id", Json.writeNatural s.id),
      ("object_classes", Json.writeList (s.classes.map Json.writeString)),
      ("module", (s.module.map Module.toJson).getD "null")]

end Service

end HostLog
