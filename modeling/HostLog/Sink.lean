import HostLog.Diagnostic
import HostLog.Record

/-!
# Sinks

A sink takes records. It has one entry point for each severity, and what an entry point does to the
sink is a change of its state. `Sink.recording` keeps all it gets; `Sink.diagnostic` says it in the
process log.
-/

namespace HostLog

/-- The entry points of a sink whose state is a `σ`. -/
structure Sink (σ : Type) where
  audit : Record → σ → σ
  error : Record → σ → σ
  warn : Record → σ → σ
  info : Record → σ → σ
  debug : Record → σ → σ
  trace : Record → σ → σ

namespace Sink

variable {σ : Type}

/-- The entry point for a severity. -/
def enter (sink : Sink σ) : Severity → Record → σ → σ
  | .audit => sink.audit
  | .error => sink.error
  | .warn => sink.warn
  | .info => sink.info
  | .debug => sink.debug
  | .trace => sink.trace

/-- A shared handle to a sink passes each call on. -/
def shared (sink : Sink σ) : Sink σ where
  audit r s := sink.audit r s
  error r s := sink.error r s
  warn r s := sink.warn r s
  info r s := sink.info r s
  debug r s := sink.debug r s
  trace r s := sink.trace r s

@[simp]
theorem enter_shared (sink : Sink σ) (level : Severity) :
    sink.shared.enter level = sink.enter level := by
  cases level <;> rfl

end Sink

/-- A record as it reached a recording sink, with the entry point it came through. -/
structure Entry where
  level : Severity
  record : Record
  deriving BEq, Repr

namespace Sink

/-- Adds a record to those received. -/
def push (level : Severity) (record : Record) (entries : List Entry) : List Entry :=
  entries ++ [⟨level, record⟩]

/-- Keeps every record, in order of arrival. -/
def recording : Sink (List Entry) where
  audit := push .audit
  error := push .error
  warn := push .warn
  info := push .info
  debug := push .debug
  trace := push .trace

@[simp]
theorem enter_recording (level : Severity) (record : Record) (entries : List Entry) :
    recording.enter level record entries = entries ++ [⟨level, record⟩] := by
  cases level <;> rfl

/-- What a record says in the process log: its message and category, and its module and payload,
without a value if it has none. Only what came through the `audit` entry point is marked as such. -/
def render (level : DiagnosticLevel) (audit : Bool) (record : Record) : Diagnostic where
  level := level
  target := Diagnostic.sinkTarget
  fields :=
    [("message", some (.text record.message))] ++
    (if audit then [("audit", some (.truth true))] else []) ++
    [("category", some (.text record.category.name)),
      ("module", record.module.map fun m => .text m.describe),
      ("payload", record.payload.map fun p => .text p.describe)]

/-- Says one record. -/
def emit (level : DiagnosticLevel) (audit : Bool) (record : Record) (said : List Diagnostic) :
    List Diagnostic :=
  said ++ [render level audit record]

/-- Says every record in the process log. -/
def diagnostic : Sink (List Diagnostic) where
  audit := emit .error true
  error := emit .error false
  warn := emit .warn false
  info := emit .info false
  debug := emit .debug false
  trace := emit .trace false

@[simp]
theorem enter_diagnostic (level : Severity) (record : Record) (said : List Diagnostic) :
    diagnostic.enter level record said =
      said ++ [render (.ofSeverity level) (level = .audit) record] := by
  cases level <;> rfl

end Sink

end HostLog
