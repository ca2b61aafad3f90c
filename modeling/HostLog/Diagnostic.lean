import HostLog.Severity

/-!
# Diagnostics

What the library says in the log of the process it runs in: about its own doings, and, where the
process log is the sink, the records themselves.
-/

namespace HostLog

/-- The levels of the process log, least serious first. It has none for audit. -/
inductive DiagnosticLevel where
  | trace
  | debug
  | info
  | warn
  | error
  deriving DecidableEq, Repr

namespace DiagnosticLevel

def all : List DiagnosticLevel := [trace, debug, info, warn, error]

def rank : DiagnosticLevel → Nat
  | trace => 0
  | debug => 1
  | info => 2
  | warn => 3
  | error => 4

def name : DiagnosticLevel → String
  | trace => "TRACE"
  | debug => "DEBUG"
  | info => "INFO"
  | warn => "WARN"
  | error => "ERROR"

/-- The level at which a severity is logged; audit goes with the errors. -/
def ofSeverity : Severity → DiagnosticLevel
  | .trace => trace
  | .debug => debug
  | .info => info
  | .warn => warn
  | .error => error
  | .audit => error

end DiagnosticLevel

/-- What a field of a diagnostic holds. -/
inductive FieldValue where
  | text (s : String)
  | truth (b : Bool)
  deriving DecidableEq, Repr

/-- One event of the process log, from the part of the program that `target` names. -/
structure Diagnostic where
  level : DiagnosticLevel
  target : String
  /-- The fields it has, in order. One may be without a value: it is not shown, but a filter can
  ask for it. -/
  fields : List (String × Option FieldValue)
  deriving DecidableEq, Repr

namespace Diagnostic

/-- A diagnostic that is only a message. -/
def ofMessage (level : DiagnosticLevel) (target message : String) : Diagnostic :=
  ⟨level, target, [("message", some (.text message))]⟩

/-- The fields that have a value. -/
def shown (d : Diagnostic) : List (String × FieldValue) :=
  d.fields.filterMap fun (name, value) => value.map (name, ·)

/-- Where diagnostics about the configured threshold come from. -/
def thresholdTarget : String := "framework_events::threshold"

/-- Where diagnostics about the logger come from. -/
def loggerTarget : String := "framework_events::handler"

/-- Where records come from that are logged as diagnostics. -/
def sinkTarget : String := "framework_events::sink"

end Diagnostic

end HostLog
