import HostLog.Resolution
import HostLog.Sink

/-!
# Loggers

A logger classifies the host's events and passes on to its sink what its threshold admits. The
threshold is fixed when the logger is made.
-/

namespace HostLog

variable {σ : Type}

/-- Passes a record on through the entry point of its severity, if the threshold admits it; tells
whether it did. -/
def dispatch (record : Record) (threshold : Threshold) (sink : Sink σ) (state : σ) : σ × Bool :=
  if threshold.admits record.severity then (sink.enter record.severity record state, true)
  else (state, false)

/-- A threshold, a sink, and the sink's state. -/
structure Logger (σ : Type) where
  threshold : Threshold
  sink : Sink σ
  state : σ

namespace Logger

/-- Dispatches a record under the logger's threshold. -/
def log (l : Logger σ) (record : Record) : Logger σ :=
  { l with state := (dispatch record l.threshold l.sink l.state).1 }

def moduleChanged (l : Logger σ) (e : ModuleEvent) : Logger σ := l.log e.classify

def frameworkReported (l : Logger σ) (e : FrameworkEvent) : Logger σ := l.log e.classify

def serviceChanged (l : Logger σ) (e : ServiceEvent) : Logger σ := l.log e.classify

/-- Hands an event to the callback for its source. -/
def onEvent (l : Logger σ) : Event → Logger σ
  | .module e => l.moduleChanged e
  | .framework e => l.frameworkReported e
  | .service e => l.serviceChanged e

end Logger

/-- A new logger, and what was said in making it. -/
structure Creation (σ : Type) where
  logger : Logger σ
  diagnostics : List Diagnostic

namespace Logger

/-- A logger whose threshold is the configured one. -/
def create (context : Option Source) (system : Source) (sink : Sink σ) (state : σ) : Creation σ :=
  let r := resolve context system thresholdKey
  { logger := ⟨r.threshold, sink, state⟩
    diagnostics :=
      [r.diagnostic,
        .ofMessage .debug Diagnostic.loggerTarget
          ("event logger created: threshold=" ++ r.threshold.name)] }

/-- A logger whose threshold is given. Nothing is said in making it. -/
def withThreshold (threshold : Threshold) (sink : Sink σ) (state : σ) : Creation σ :=
  ⟨⟨threshold, sink, state⟩, []⟩

end Logger

end HostLog
