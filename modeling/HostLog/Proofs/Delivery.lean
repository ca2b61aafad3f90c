import HostLog.Proofs.Calls

/-!
# Ways of delivery

An event reaches a sink through a logger, by its source's callback or by the one that finds the
source, or past the logger, classified and dispatched by the caller; and each time the sink may
stand behind any number of shared handles. `deliverAll_eq`: to the sink it is all the same, whatever
its six entry points do. An event that the threshold admits is one call, of the entry point that its
severity names, and an event that it does not admit is none.
-/

namespace HostLog

/-- A way for an event to reach a sink. -/
inductive Route where
  /-- Through the logger, which finds the source. -/
  | tagged
  /-- Through the logger's callback for the source. -/
  | callback
  /-- Past the logger, through a handle of the caller's own behind `layers` others. -/
  | dispatched (layers : Nat)

/-- What the caller is told: only who dispatches learns whether the record passed. -/
def Route.answer (admitted : Bool) : Route → Answer
  | tagged | callback => .done
  | dispatched _ => .truth admitted

variable {σ : Type}

namespace Sink

/-- The sink with these six entry points. -/
def ofEntryPoints (f : Severity → Record → σ → σ) : Sink σ where
  audit := f .audit
  error := f .error
  warn := f .warn
  info := f .info
  debug := f .debug
  trace := f .trace

@[simp]
theorem enter_ofEntryPoints (f : Severity → Record → σ → σ) (level : Severity) :
    (ofEntryPoints f).enter level = f level := by
  cases level <;> rfl

theorem receive_admitted (sink : Sink σ) (s : σ) (r : Record) (t : Threshold) :
    sink.receive s (r.admitted t) =
      if t.admits r.severity then sink.enter r.severity r s else s := by
  unfold Record.admitted
  split <;> rfl

end Sink

namespace Logger

/-- Delivers an event. The caller holds the bare `sink` besides, and the logger's threshold. -/
def deliver (l : Logger σ) (sink : Sink σ) : Route → Event → Logger σ × Answer
  | .tagged, e => (l.onEvent e, .done)
  | .callback, .module e => (l.moduleChanged e, .done)
  | .callback, .framework e => (l.frameworkReported e, .done)
  | .callback, .service e => (l.serviceChanged e, .done)
  | .dispatched layers, e =>
    let (state, sent) := dispatch e.classify l.threshold (Sink.shared^[layers] sink) l.state
    ({ l with state }, .truth sent)

/-- Delivers events one after the other, each on a route of its own. -/
def deliverAll (l : Logger σ) (sink : Sink σ) : List (Route × Event) → Logger σ × List Answer
  | [] => (l, [])
  | (route, e) :: ds =>
    let (l, answer) := l.deliver sink route e
    let (l, answers) := l.deliverAll sink ds
    (l, answer :: answers)

theorem deliver_eq (sink : Sink σ) (t : Threshold) (n : Nat) (s : σ) (route : Route) (e : Event) :
    deliver ⟨t, Sink.shared^[n] sink, s⟩ sink route e =
      (⟨t, Sink.shared^[n] sink,
          if t.admits e.classify.severity then sink.enter e.classify.severity e.classify s else s⟩,
        route.answer (t.admits e.classify.severity)) := by
  have hlog : log ⟨t, Sink.shared^[n] sink, s⟩ e.classify =
      ⟨t, Sink.shared^[n] sink,
        if t.admits e.classify.severity then sink.enter e.classify.severity e.classify s else s⟩ := by
    rw [log_eq, Sink.receive_shared, Sink.receive_admitted]
  cases route with
  | tagged => rw [deliver, onEvent_eq_log, hlog]; rfl
  | callback => cases e <;> exact congrArg (·, Answer.done) hlog
  | dispatched layers =>
    rw [deliver, dispatch_eq, Sink.receive_shared, Sink.receive_admitted]
    rfl

/-- For every sink, given by its six entry points `f`, and however many handles it stands behind: a
run of deliveries ends as if each event in turn had called the entry point that its severity names,
with its record, or none if the threshold does not admit it. The routes only decide who is told. -/
theorem deliverAll_eq (f : Severity → Record → σ → σ) (t : Threshold) (n : Nat) (s : σ)
    (ds : List (Route × Event)) :
    deliverAll ⟨t, Sink.shared^[n] (.ofEntryPoints f), s⟩ (.ofEntryPoints f) ds =
      (⟨t, Sink.shared^[n] (.ofEntryPoints f),
          (ds.map Prod.snd).foldl (fun s e =>
            if t.admits e.classify.severity then f e.classify.severity e.classify s else s) s⟩,
        ds.map fun (route, e) => route.answer (t.admits e.classify.severity)) := by
  induction ds generalizing s with
  | nil => rfl
  | cons d ds ih =>
    obtain ⟨route, e⟩ := d
    simp only [deliverAll, deliver_eq, Sink.enter_ofEntryPoints, ih, List.map_cons, List.foldl_cons]

end Logger

end HostLog
