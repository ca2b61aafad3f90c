import HostLog.Proofs.Calls

/-!
# The log of a session

A session mixes actions that write with questions and drains. No entry is lost, made up, reordered
or changed on the way: what the drains gave back, followed by what is left in the sink, is what the
steps contributed (`Step.contribution`), in order. A step keeps this balance
(`Step.taken_append_left`), so a run does, and so does every part of a run, which is what the
answers are told from.
-/

namespace HostLog

namespace Step

/-- The entries that a step adds to the log of a logger with threshold `t`. -/
def contribution (t : Threshold) : Step → List Entry
  | act a => a.calls t
  | entries | count | isEmpty | drain => []

/-- What a step gives back when the sink holds `held`. -/
def answer (t : Threshold) (held : List Entry) : Step → Answer
  | act a => a.answer t
  | entries | drain => .entries held
  | count => .count held.length
  | isEmpty => .truth held.isEmpty

/-- What the sink holds after a step. -/
def left (t : Threshold) (held : List Entry) : Step → List Entry
  | drain => []
  | s => held ++ s.contribution t

/-- What a step takes out of the sink: a drain all that it answers, every other step nothing. -/
def taken : Step → Answer → List Entry
  | drain, .entries es => es
  | _, _ => []

theorem taken_append_left (t : Threshold) (held : List Entry) (s : Step) :
    s.taken (s.answer t held) ++ s.left t held = held ++ s.contribution t := by
  cases s with
  | drain => rfl
  | act | entries | count | isEmpty => exact List.nil_append _

end Step

/-- The entries that the drains among `steps` gave back, in order. -/
def drained (steps : List Step) (answers : List Answer) : List Entry :=
  (List.zipWith Step.taken steps answers).flatten

theorem drained_cons (s : Step) (ss : List Step) (a : Answer) (as : List Answer) :
    drained (s :: ss) (a :: as) = s.taken a ++ drained ss as := rfl

namespace Logger

variable (t : Threshold) (es : List Entry)

theorem step_recording (s : Step) :
    step ⟨t, .recording, es⟩ s = (⟨t, .recording, s.left t es⟩, s.answer t es) := by
  cases s with
  | act a =>
    rw [step, perform_eq, Sink.receive_recording]
    rfl
  | entries | count | isEmpty =>
    exact Prod.ext (congrArg (Logger.mk t .recording) (List.append_nil es).symm) rfl
  | drain => rfl

theorem run_recording_cons (s : Step) (ss : List Step) :
    run ⟨t, .recording, es⟩ (s :: ss) =
      ((run ⟨t, .recording, s.left t es⟩ ss).1,
        s.answer t es :: (run ⟨t, .recording, s.left t es⟩ ss).2) := by
  rw [run, step_recording]

theorem length_answers (steps : List Step) :
    (run ⟨t, .recording, es⟩ steps).2.length = steps.length := by
  induction steps generalizing es with
  | nil => rfl
  | cons s ss ih => rw [run_recording_cons, List.length_cons, List.length_cons, ih]

theorem balance_cons {s : Step} {ss : List Step} {as : List Answer} {held : List Entry}
    (h : drained ss as ++ held = s.left t es ++ ss.flatMap (Step.contribution t)) :
    drained (s :: ss) (s.answer t es :: as) ++ held =
      es ++ (s :: ss).flatMap (Step.contribution t) := by
  rw [drained_cons, List.append_assoc, h, ← List.append_assoc, Step.taken_append_left,
    List.flatMap_cons, List.append_assoc]

theorem balance_run (steps : List Step) :
    drained steps (run ⟨t, .recording, es⟩ steps).2 ++ (run ⟨t, .recording, es⟩ steps).1.state =
      es ++ steps.flatMap (Step.contribution t) := by
  induction steps generalizing es with
  | nil => exact (List.append_nil es).symm
  | cons s ss ih =>
    rw [run_recording_cons]
    exact balance_cons t es (ih _)

/-- The answer to a step is told from what the steps before it have left. -/
theorem getElem?_answers (steps : List Step) (i : Nat) (hi : i < steps.length) :
    ∃ held, drained (steps.take i) (run ⟨t, .recording, es⟩ steps).2 ++ held =
        es ++ (steps.take i).flatMap (Step.contribution t) ∧
      (run ⟨t, .recording, es⟩ steps).2[i]? = some (steps[i].answer t held) := by
  induction steps generalizing es i with
  | nil => cases hi
  | cons s ss ih =>
    rw [run_recording_cons]
    cases i with
    | zero => exact ⟨es, (List.append_nil es).symm, rfl⟩
    | succ i =>
      obtain ⟨held, hheld, ha⟩ := ih (s.left t es) i (Nat.lt_of_succ_lt_succ hi)
      exact ⟨held, balance_cons t es hheld, ha⟩

/-- The log of a session with a logger that has threshold `t`, over a sink that records and holds
`es` at first. What the drains gave back, followed by what is left, is `es` and then what the steps
contributed: a listener step its event's record if `t` admits it, a dispatch its record if its own
threshold does, a direct call always its record at the level of the entry point, all others nothing.
Every step is answered, and from what is held at that point: a dispatch tells whether its record
passed, a question tells of the entries not yet drained, a drain gives all of them back. -/
theorem drained_append_state (steps : List Step) :
    let out := run ⟨t, .recording, es⟩ steps
    drained steps out.2 ++ out.1.state = es ++ steps.flatMap (Step.contribution t) ∧
      out.2.length = steps.length ∧
      ∀ i : Fin steps.length, ∃ held,
        drained (steps.take i) out.2 ++ held = es ++ (steps.take i).flatMap (Step.contribution t) ∧
          out.2[i]? = some (steps[i].answer t held) :=
  ⟨balance_run t es steps, length_answers t es steps,
    fun i => getElem?_answers t es steps i i.isLt⟩

end Logger

end HostLog
