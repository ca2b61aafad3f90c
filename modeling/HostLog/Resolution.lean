import HostLog.Diagnostic
import HostLog.Source
import HostLog.Threshold

/-!
# The configured threshold

`resolve` finds the threshold that is configured under a key: the context's value if it has one that
is not empty, else the system's. The first value found decides, whether it can be understood or not,
and exactly one diagnostic tells what came of it.
-/

namespace HostLog

/-- A threshold, and the diagnostic that says why it is this one. -/
structure Resolution where
  threshold : Threshold
  diagnostic : Diagnostic
  deriving DecidableEq, Repr

/-- The key under which the threshold of event reporting is configured. -/
def thresholdKey : String := "org.ops4j.pax.logging.service.frameworkEventsLogLevel"

namespace Resolution

/-- The value that decides: the first one that is not empty. -/
def value? (context : Option Source) (system : Source) (key : String) : Option String :=
  (context.bind fun source => source.value? key).or (system.value? key)

def diagnose (level : DiagnosticLevel) (key rest : String) : Diagnostic :=
  .ofMessage level Diagnostic.thresholdTarget ("event threshold: key=" ++ key ++ " " ++ rest)

/-- The threshold for the value found under `key`, if any. -/
def ofValue (key : String) : Option String → Resolution
  | none =>
    ⟨.default, diagnose .debug key ("unset, using " ++ Threshold.default.name)⟩
  | some value =>
    match Threshold.parse value with
    | .ok t => ⟨t, diagnose .debug key ("value=" ++ value ++ " -> " ++ t.name)⟩
    | .error e =>
      ⟨.default, diagnose .warn key (e.message ++ ", using " ++ Threshold.default.name)⟩

end Resolution

/-- The threshold configured under `key`. -/
def resolve (context : Option Source) (system : Source) (key : String) : Resolution :=
  .ofValue key (Resolution.value? context system key)

end HostLog
