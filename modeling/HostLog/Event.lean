import HostLog.Event.Kind
import HostLog.Incident
import HostLog.Service

/-!
# Events of the host

What the host tells about its modules, about itself and about its services. An event keeps the code
that the host sent, whether it has a meaning or not.
-/

namespace HostLog

/-- A module has changed. -/
structure ModuleEvent where
  code : Int32
  module : Option Module
  deriving BEq, Repr

/-- The framework reports a change, a warning or an error. -/
structure FrameworkEvent where
  code : Int32
  module : Option Module
  error : Option ErrorHandle := none
  deriving BEq, Repr

/-- The registration of a service has changed. -/
structure ServiceEvent where
  code : Int32
  service : Service
  deriving BEq, Repr

namespace ModuleEvent

/-- The event of a change of a module. -/
def ofKind (kind : ModuleChange) (module : Module) : ModuleEvent := ⟨kind.code, some module⟩

def kind? (e : ModuleEvent) : Option ModuleChange := ModuleChange.ofCode? e.code

end ModuleEvent

namespace FrameworkEvent

/-- The event of a report of the framework. -/
def ofKind (kind : FrameworkChange) (module : Option Module) : FrameworkEvent :=
  { code := kind.code, module }

/-- The event with an error attached. -/
def withError (e : FrameworkEvent) (error : ErrorHandle) : FrameworkEvent :=
  { e with error := some error }

def kind? (e : FrameworkEvent) : Option FrameworkChange := FrameworkChange.ofCode? e.code

end FrameworkEvent

namespace ServiceEvent

/-- The event of a change of a registration. -/
def ofKind (kind : ServiceChange) (service : Service) : ServiceEvent := ⟨kind.code, service⟩

def kind? (e : ServiceEvent) : Option ServiceChange := ServiceChange.ofCode? e.code

end ServiceEvent

/-- Any event of the host. -/
inductive Event where
  | module (e : ModuleEvent)
  | framework (e : FrameworkEvent)
  | service (e : ServiceEvent)
  deriving BEq, Repr

namespace Event

/-- The symbol of the event's kind, if its code has a meaning. -/
def symbol? : Event → Option String
  | module e => e.kind?.map ModuleChange.symbol
  | framework e => e.kind?.map FrameworkChange.symbol
  | service e => e.kind?.map ServiceChange.symbol

end Event

end HostLog
