import HostLog.Logger

/-!
# Sessions

What a host and others may do with one logger, step by step. An `Action` makes sense for every sink;
a `Step` also looks at, or empties, a sink that records.
-/

namespace HostLog

/-- Something done with a logger and its sink. -/
inductive Action where
  /-- An event of any source. -/
  | event (e : Event)
  /-- An event handed directly to the callback for its source. -/
  | moduleChanged (e : ModuleEvent)
  | frameworkReported (e : FrameworkEvent)
  | serviceChanged (e : ServiceEvent)
  /-- A record dispatched to the logger's sink under a threshold of its own. -/
  | dispatch (record : Record) (threshold : Threshold)
  /-- A record handed directly to an entry point of the sink. -/
  | enter (level : Severity) (record : Record)
  /-- The question for the logger's threshold. -/
  | threshold

/-- What a step gives back. -/
inductive Answer where
  | done
  | truth (b : Bool)
  | count (n : Nat)
  | threshold (t : Threshold)
  | entries (es : List Entry)

/-- A step with a logger over a recording sink. -/
inductive Step where
  | act (a : Action)
  | entries
  | count
  | isEmpty
  /-- Takes everything received so far. -/
  | drain

namespace Logger

variable {σ : Type}

/-- Performs an action. -/
def perform (l : Logger σ) : Action → Logger σ × Answer
  | .event e => (l.onEvent e, .done)
  | .moduleChanged e => (l.moduleChanged e, .done)
  | .frameworkReported e => (l.frameworkReported e, .done)
  | .serviceChanged e => (l.serviceChanged e, .done)
  | .dispatch record threshold =>
    let (state, sent) := HostLog.dispatch record threshold l.sink l.state
    ({ l with state }, .truth sent)
  | .enter level record => ({ l with state := l.sink.enter level record l.state }, .done)
  | .threshold => (l, .threshold l.threshold)

/-- What a run of actions leaves, and their answers in order. -/
def performAll (l : Logger σ) : List Action → Logger σ × List Answer
  | [] => (l, [])
  | a :: as =>
    let (l, answer) := l.perform a
    let (l, answers) := performAll l as
    (l, answer :: answers)

/-- Performs a step of a logger that records. -/
def step (l : Logger (List Entry)) : Step → Logger (List Entry) × Answer
  | .act a => l.perform a
  | .entries => (l, .entries l.state)
  | .count => (l, .count l.state.length)
  | .isEmpty => (l, .truth l.state.isEmpty)
  | .drain => ({ l with state := [] }, .entries l.state)

/-- What a run of steps leaves, and their answers in order. -/
def run (l : Logger (List Entry)) : List Step → Logger (List Entry) × List Answer
  | [] => (l, [])
  | s :: ss =>
    let (l, a) := l.step s
    let (l, as) := run l ss
    (l, a :: as)

end Logger

end HostLog
