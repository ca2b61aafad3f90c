import HostLog.Session
import Mathlib.Logic.Function.Iterate

/-!
# What a session calls

A logger touches its sink only through the sink's entry points. `Action.calls` lists the calls that
an action makes, each as the entry it leaves in a sink that records, from the threshold and the
record alone; `Action.answer` is what the action gives back. `performAll_eq`: for every sink, a run
of actions is its calls, in order, and nothing else.
-/

namespace HostLog

/-- What a record becomes under a threshold: an entry at its own severity, or nothing. -/
def Record.admitted (r : Record) (t : Threshold) : List Entry :=
  if t.admits r.severity then [⟨r.severity, r⟩] else []

namespace Action

/-- The entry points that an action calls under the logger's threshold `t`, and with which record. -/
def calls (t : Threshold) : Action → List Entry
  | event e => e.classify.admitted t
  | moduleChanged e => e.classify.admitted t
  | frameworkReported e => e.classify.admitted t
  | serviceChanged e => e.classify.admitted t
  | dispatch r u => r.admitted u
  | enter level r => [⟨level, r⟩]
  | threshold => []

/-- What an action gives back: a dispatch, whether its own threshold admitted the record. -/
def answer (t : Threshold) : Action → Answer
  | event _ | moduleChanged _ | frameworkReported _ | serviceChanged _ | enter _ _ => .done
  | dispatch r u => .truth (u.admits r.severity)
  | threshold => .threshold t

end Action

variable {σ : Type}

namespace Sink

/-- Calls the entry points that `calls` names, in order. -/
def receive (sink : Sink σ) (s : σ) (calls : List Entry) : σ :=
  calls.foldl (fun s c => sink.enter c.level c.record s) s

variable {sink : Sink σ} {s : σ}

theorem receive_append (cs ds : List Entry) :
    sink.receive s (cs ++ ds) = sink.receive (sink.receive s cs) ds :=
  List.foldl_append

theorem receive_shared (n : Nat) : (shared^[n] sink).receive = sink.receive := by
  -- the innermost handle goes first, so that the sink it stands for stays arbitrary
  induction n generalizing sink with
  | zero => rfl
  | succ n ih =>
    rw [Function.iterate_succ_apply, ih]
    funext s cs
    simp only [receive, enter_shared]

theorem receive_eq_append {τ : Type} {sink : Sink (List τ)} {g : Entry → τ}
    (h : ∀ (c : Entry) s, sink.enter c.level c.record s = s ++ [g c]) (s : List τ)
    (cs : List Entry) : sink.receive s cs = s ++ cs.map g := by
  induction cs generalizing s with
  | nil => exact (List.append_nil s).symm
  | cons c cs ih =>
    rw [receive, List.foldl_cons, h, ← receive, ih, List.append_assoc]
    rfl

theorem receive_recording (es cs : List Entry) : recording.receive es cs = es ++ cs := by
  rw [receive_eq_append (g := id) fun c s => enter_recording c.level c.record s, List.map_id]

end Sink

theorem dispatch_eq (r : Record) (t : Threshold) (sink : Sink σ) (s : σ) :
    dispatch r t sink s = (sink.receive s (r.admitted t), t.admits r.severity) := by
  unfold dispatch Record.admitted
  cases t.admits r.severity <;> rfl

namespace Logger

variable (l : Logger σ)

theorem log_eq (r : Record) :
    l.log r = { l with state := l.sink.receive l.state (r.admitted l.threshold) } := by
  rw [log, dispatch_eq]

theorem onEvent_eq_log (e : Event) : l.onEvent e = l.log e.classify := by
  cases e <;> rfl

theorem perform_eq (a : Action) :
    l.perform a =
      ({ l with state := l.sink.receive l.state (a.calls l.threshold) }, a.answer l.threshold) := by
  cases a with
  | event e => rw [perform, onEvent_eq_log, log_eq]; rfl
  | moduleChanged e | frameworkReported e | serviceChanged e =>
    exact congrArg (·, Answer.done) (l.log_eq e.classify)
  | dispatch r u => simp only [perform, dispatch_eq]; rfl
  | enter level r => rfl
  | threshold => rfl

/-- A run of actions: only the state moves, by the calls of the actions. -/
theorem performAll_eq (as : List Action) :
    l.performAll as =
      ({ l with state := l.sink.receive l.state (as.flatMap (Action.calls l.threshold)) },
        as.map (Action.answer l.threshold)) := by
  induction as generalizing l with
  | nil => rfl
  | cons a as ih =>
    simp only [performAll, perform_eq, ih, List.flatMap_cons, List.map_cons, Sink.receive_append]

theorem performAll_recording (t : Threshold) (es : List Entry) (as : List Action) :
    performAll ⟨t, .recording, es⟩ as =
      (⟨t, .recording, es ++ as.flatMap (Action.calls t)⟩, as.map (Action.answer t)) := by
  rw [performAll_eq, Sink.receive_recording]

end Logger

end HostLog
