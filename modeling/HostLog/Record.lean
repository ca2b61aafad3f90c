import HostLog.Event
import HostLog.Severity

/-!
# Log records

What an event becomes in the log: a severity, a category, a message, the module on whose behalf it
is logged, and perhaps a payload. `Event.classify` makes the record. Every code gives one: a code
without a meaning stands in the message as a number and has the severity that is usual for its
source.
-/

namespace HostLog

/-- The source that a record comes from. -/
inductive Category where
  | module
  | framework
  | service
  deriving DecidableEq, Repr

namespace Category

def all : List Category := [module, framework, service]

def name : Category → String
  | module => "Events.Module"
  | framework => "Events.Framework"
  | service => "Events.Service"

/-- A category as it stands in a document. -/
def toJson (c : Category) : String := Json.writeString c.name

end Category

/-- What goes with a message. -/
inductive Payload where
  | error (e : ErrorHandle)
  | service (s : Service)
  deriving BEq, Repr

/-- How a payload is shown: an error with all its causes, or the service. -/
def Payload.describe : Payload → String
  | error e => e.incident.chain
  | service s => s.describe

structure Record where
  severity : Severity
  category : Category
  message : String
  module : Option Module
  payload : Option Payload
  deriving BEq, Repr

/-- A module event is logged at `info`, whatever has happened. -/
def ModuleEvent.classify (e : ModuleEvent) : Record where
  severity := .info
  category := .module
  message := "BundleEvent " ++
    match e.kind? with
    | some kind => kind.symbol
    | none => "[unknown: " ++ toString e.code ++ "]"
  module := e.module
  payload := none

/-- The severity of a report of the framework. -/
def FrameworkChange.severity : FrameworkChange → Severity
  | error => .error
  | warning => .warn
  | started | packagesRefreshed | startLevelChanged | info => .info

/-- A framework event has its error as the payload. -/
def FrameworkEvent.classify (e : FrameworkEvent) : Record where
  severity := (e.kind?.map FrameworkChange.severity).getD .info
  category := .framework
  message := "FrameworkEvent " ++
    match e.kind? with
    | some kind => kind.symbol
    | none => "[unknown:" ++ toString e.code ++ "]"
  module := e.module
  payload := e.error.map .error

/-- The severity of a change of a registration: a mere modification is of less interest. -/
def ServiceChange.severity : ServiceChange → Severity
  | modified => .debug
  | registered | unregistering => .info

/-- A service event has the service at the end of its message and as the payload. -/
def ServiceEvent.classify (e : ServiceEvent) : Record where
  severity := (e.kind?.map ServiceChange.severity).getD .info
  category := .service
  message := "ServiceEvent " ++
    (match e.kind? with
    | some kind => kind.symbol
    | none => "[unknown:" ++ toString e.code ++ "]") ++ " - " ++ e.service.describe
  module := e.service.module
  payload := some (.service e.service)

/-- The record that an event becomes. -/
def Event.classify : Event → Record
  | module e => e.classify
  | framework e => e.classify
  | service e => e.classify

end HostLog
