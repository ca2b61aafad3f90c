import HostLog.Proofs.Delivery
import HostLog.Proofs.Precedence

/-!
# The threshold is fixed when the logger is made

A logger made from configuration against one that is given the threshold which the configuration
resolves to. What a host sees of either is a `Report` for each thing that happens: the answer, what
the sink then holds, and what was said meanwhile in the process log, in which the sink itself may
speak (`Behaviour`). `create_fixes_threshold`: the two cannot be told apart by reports, not even if
the sources change as the host pleases. They differ in what is said in making them, and of that
nothing is said later.
-/

namespace HostLog

variable {τ : Type}

/-- What each entry point makes of a record and of what the sink holds, and what it says. -/
def Behaviour (τ : Type) := Severity → Record → τ → τ × List Diagnostic

namespace Behaviour

def recording : Behaviour (List Entry) := fun level r es => (es ++ [⟨level, r⟩], [])

def diagnostic : Behaviour Unit := fun level r _ =>
  ((), [Sink.render (.ofSeverity level) (level = .audit) r])

/-- What a run of calls comes to. -/
def take (f : Behaviour τ) (x : τ) : List Entry → τ × List Diagnostic
  | [] => (x, [])
  | c :: cs =>
    let (y, said) := f c.level c.record x
    let (z, later) := f.take y cs
    (z, said ++ later)

/-- The sink leaves it to others to speak about thresholds and loggers. -/
def Foreign (f : Behaviour τ) : Prop := ∀ level r x, ∀ d ∈ (f level r x).2,
  d.target ≠ Diagnostic.thresholdTarget ∧ d.target ≠ Diagnostic.loggerTarget

end Behaviour

namespace Sink

/-- A sink that holds a `τ` and speaks in the process log. -/
def speaking (f : Behaviour τ) : Sink (τ × List Diagnostic) :=
  .ofEntryPoints fun level r s => ((f level r s.1).1, s.2 ++ (f level r s.1).2)

theorem enter_speaking_recording (level : Severity) (r : Record) (es : List Entry)
    (said : List Diagnostic) :
    (speaking .recording).enter level r (es, said) = (recording.enter level r es, said) := by
  simp [speaking, Behaviour.recording]

theorem enter_speaking_diagnostic (level : Severity) (r : Record) (said : List Diagnostic) :
    (speaking .diagnostic).enter level r ((), said) = ((), diagnostic.enter level r said) := by
  simp [speaking, Behaviour.diagnostic]

theorem receive_speaking (f : Behaviour τ) (x : τ) (said : List Diagnostic) (cs : List Entry) :
    (speaking f).receive (x, said) cs = ((f.take x cs).1, said ++ (f.take x cs).2) := by
  induction cs generalizing x said with
  | nil => exact congrArg (x, ·) (List.append_nil said).symm
  | cons c cs ih =>
    rw [receive, List.foldl_cons, speaking, enter_ofEntryPoints, ← speaking, ← receive, ih,
      List.append_assoc]
    rfl

end Sink

/-- What may happen while there is a logger. -/
inductive Happening (τ : Type) where
  /-- The sources of configuration come to answer otherwise. -/
  | reconfigure (context : Option Source) (system : Source)
  | act (a : Action)
  /-- Something else is done to the sink, which answers and says nothing: it is looked at, or
  drained. -/
  | use (g : τ → τ × Answer)

structure Report (τ : Type) where
  answer : Answer
  held : τ
  said : List Diagnostic

/-- A logger, and the sources of configuration as they are at present. -/
structure Scene (τ : Type) where
  context : Option Source
  system : Source
  logger : Logger (τ × List Diagnostic)

namespace Scene

def step (sc : Scene τ) : Happening τ → Scene τ × Report τ
  | .reconfigure context system =>
    ({ sc with context, system }, ⟨.done, sc.logger.state.1, []⟩)
  | .act a =>
    let (logger, answer) := { sc.logger with state := (sc.logger.state.1, []) }.perform a
    ({ sc with logger }, ⟨answer, logger.state.1, logger.state.2⟩)
  | .use g =>
    let (x, answer) := g sc.logger.state.1
    ({ sc with logger := { sc.logger with state := (x, []) } }, ⟨answer, x, []⟩)

def watch (sc : Scene τ) : List (Happening τ) → List (Report τ)
  | [] => []
  | h :: hs =>
    let (sc, report) := sc.step h
    report :: sc.watch hs

/-- The reports as they are due from the threshold alone. -/
def due (f : Behaviour τ) (t : Threshold) (x : τ) : List (Happening τ) → List (Report τ)
  | [] => []
  | .reconfigure _ _ :: hs => ⟨.done, x, []⟩ :: due f t x hs
  | .act a :: hs =>
    let (y, said) := f.take x (a.calls t)
    ⟨a.answer t, y, said⟩ :: due f t y hs
  | .use g :: hs =>
    let (y, answer) := g x
    ⟨answer, y, []⟩ :: due f t y hs

variable (f : Behaviour τ) (t : Threshold) (n : Nat)

theorem watch_eq_due (context : Option Source) (system : Source) (x : τ) (said : List Diagnostic)
    (hs : List (Happening τ)) :
    watch ⟨context, system, ⟨t, Sink.shared^[n] (.speaking f), (x, said)⟩⟩ hs = due f t x hs := by
  induction hs generalizing context system x said with
  | nil => rfl
  | cons h hs ih =>
    cases h with
    | reconfigure context system => exact congrArg (_ :: ·) (ih context system x said)
    | act a =>
      simp only [watch, step, Logger.perform_eq, Sink.receive_shared, Sink.receive_speaking,
        List.nil_append, ih, due]
    | use g => exact congrArg (_ :: ·) (ih context system (g x).1 [])

end Scene

theorem Behaviour.exists_of_mem_take (f : Behaviour τ) {x : τ} {cs : List Entry} {d : Diagnostic}
    (h : d ∈ (f.take x cs).2) : ∃ level r y, d ∈ (f level r y).2 := by
  induction cs generalizing x with
  | nil => cases h
  | cons c cs ih =>
    rcases List.mem_append.1 h with h | h
    · exact ⟨c.level, c.record, x, h⟩
    · exact ih h

/-- Only the sink's own entry points speak. -/
theorem Scene.exists_of_mem_said (f : Behaviour τ) {t : Threshold} {x : τ}
    {hs : List (Happening τ)} {report : Report τ} {d : Diagnostic} (hr : report ∈ due f t x hs)
    (hd : d ∈ report.said) : ∃ level r y, d ∈ (f level r y).2 := by
  induction hs generalizing x with
  | nil => cases hr
  | cons h hs ih =>
    cases h with
    | reconfigure context system | use g =>
      rcases List.mem_cons.1 hr with rfl | hr
      · cases hd
      · exact ih hr
    | act a =>
      rcases List.mem_cons.1 hr with rfl | hr
      · exact f.exists_of_mem_take hd
      · exact ih hr

theorem Behaviour.foreign_recording : recording.Foreign := by
  intro level r es d hd
  cases hd

theorem Behaviour.foreign_diagnostic : diagnostic.Foreign := by
  intro level r _ d hd
  obtain rfl := List.mem_singleton.1 hd
  have htarget : Diagnostic.sinkTarget ≠ Diagnostic.thresholdTarget ∧
      Diagnostic.sinkTarget ≠ Diagnostic.loggerTarget := by decide
  exact htarget

theorem Threshold.name_inj {t u : Threshold} : t.name = u.name ↔ t = u := by
  refine ⟨fun h => ?_, congrArg name⟩
  rcases t with _ | a <;> rcases u with _ | b
  · rfl
  · exact absurd h (by cases b <;> decide)
  · exact absurd h (by cases a <;> decide)
  · exact congrArg atLeast (Severity.name_inj.1 h)

theorem Resolution.Outcome.target_eq {key : String} {v : Option String} {r : Resolution}
    (h : Outcome key v r) : r.diagnostic.target = Diagnostic.thresholdTarget := by
  cases h <;> rfl

namespace Logger

/-- What is said last in making a logger from configuration. -/
def createdNotice (t : Threshold) : Diagnostic :=
  .ofMessage .debug Diagnostic.loggerTarget ("event logger created: threshold=" ++ t.name)

theorem createdNotice_inj {t u : Threshold} : createdNotice t = createdNotice u ↔ t = u := by
  refine ⟨fun h => ?_, congrArg createdNotice⟩
  simp only [createdNotice, Diagnostic.ofMessage, Diagnostic.mk.injEq, List.cons.injEq,
    Prod.mk.injEq, Option.some.injEq, FieldValue.text.injEq, String.append_right_inj] at h
  exact Threshold.name_inj.1 h.2.2.1.2

open Resolution in
/-- A logger made from configuration, over any sink that may itself speak in the process log, behind
any number of handles. In making it no entry point is called, and two diagnostics are said: what
came of resolving the threshold, and a notice that names it. Whatever happens then, and however the
sources change, it is reported what is due from that threshold alone, as with a logger that was
given it, in making which nothing is said. What is said later the sink says, so nothing more about
thresholds and loggers, unless by a sink that speaks about them; the sinks of this library do not. -/
theorem create_fixes_threshold (f : Behaviour τ) (n : Nat) (x : τ) (context : Option Source)
    (system : Source) :
    let r := resolve context system thresholdKey
    let sink := Sink.shared^[n] (.speaking f)
    let created := create context system sink (x, [])
    let given := withThreshold r.threshold sink (x, [])
    (∃ v, Decides context system thresholdKey v ∧ Outcome thresholdKey v r) ∧
      created.logger.state = (x, []) ∧
      created.diagnostics = [r.diagnostic, createdNotice r.threshold] ∧
      r.diagnostic.target = Diagnostic.thresholdTarget ∧
      (∀ t, createdNotice t = createdNotice r.threshold ↔ t = r.threshold) ∧
      given.logger.state = (x, []) ∧ given.diagnostics = [] ∧
      (∀ hs context' system',
        Scene.watch ⟨context, system, created.logger⟩ hs = Scene.due f r.threshold x hs ∧
        Scene.watch ⟨context', system', given.logger⟩ hs = Scene.due f r.threshold x hs ∧
        ∀ report ∈ Scene.watch ⟨context, system, created.logger⟩ hs, ∀ d ∈ report.said,
          (∃ level record y, d ∈ (f level record y).2) ∧
          (f.Foreign → d.target ≠ Diagnostic.thresholdTarget ∧
            d.target ≠ Diagnostic.loggerTarget)) ∧
      (Behaviour.recording.Foreign ∧ ∀ level record es said,
        (Sink.speaking .recording).enter level record (es, said) =
          (Sink.recording.enter level record es, said)) ∧
      Behaviour.diagnostic.Foreign ∧ ∀ level record said,
        (Sink.speaking .diagnostic).enter level record ((), said) =
          ((), Sink.diagnostic.enter level record said) := by
  intro r sink created given
  obtain ⟨v, hv⟩ : ∃ v, Decides context system thresholdKey v := ⟨_, decides_iff.2 rfl⟩
  have hout := outcome_of_decides hv
  refine ⟨⟨v, hv, hout⟩, rfl, rfl, hout.target_eq, fun _ => createdNotice_inj, rfl, rfl,
    fun hs context' system' => ?_,
    ⟨Behaviour.foreign_recording, Sink.enter_speaking_recording⟩,
    Behaviour.foreign_diagnostic, Sink.enter_speaking_diagnostic⟩
  have hdue := Scene.watch_eq_due f r.threshold n context system x [] hs
  refine ⟨hdue, Scene.watch_eq_due f r.threshold n context' system' x [] hs,
    fun report hr d hd => ?_⟩
  obtain ⟨level, record, y, hsaid⟩ := Scene.exists_of_mem_said f (hdue ▸ hr) hd
  exact ⟨⟨level, record, y, hsaid⟩, fun hforeign => hforeign level record y d hsaid⟩

/-- `warn` is configured when the logger is made. That it is `TRACE` soon after lets no change of a
module through, and all that is said is an error, by the sink. -/
theorem create_fixes_threshold_warn :
    let system := Source.ofProperties (Properties.empty.insert thresholdKey "warn")
    let later := Source.ofProperties (Properties.empty.insert thresholdKey "TRACE")
    let failed : FrameworkEvent := { code := 0x02, module := none }
    let created := create none system (Sink.shared^[1] (.speaking .diagnostic)) ((), [])
    let reports := Scene.watch ⟨none, system, created.logger⟩
      [.reconfigure (some later) later, .act (.moduleChanged ⟨0x02, none⟩), .act .threshold,
        .act (.frameworkReported failed)]
    created.diagnostics.map Diagnostic.target =
        [Diagnostic.thresholdTarget, Diagnostic.loggerTarget] ∧
      reports.map Report.said = [[], [], [], [Sink.render .error false failed.classify]] ∧
      Behaviour.diagnostic.Foreign ∧ ∀ report ∈ reports, ∀ d ∈ report.said,
        d.target ≠ Diagnostic.thresholdTarget ∧ d.target ≠ Diagnostic.loggerTarget := by
  intro system later failed created reports
  have ht : (resolve none system thresholdKey).threshold = .atLeast .warn := by decide +kernel
  obtain ⟨-, -, hsaid, htarget, -, -, -, hreports, -, hforeign, -⟩ :=
    create_fixes_threshold Behaviour.diagnostic 1 () none system
  obtain ⟨hdue, -, hlater⟩ := hreports
    [.reconfigure (some later) later, .act (.moduleChanged ⟨0x02, none⟩), .act .threshold,
      .act (.frameworkReported failed)] none later
  refine ⟨?_, ?_, hforeign, fun report hr d hd => (hlater report hr d hd).2 hforeign⟩
  · rw [hsaid, List.map_cons, htarget]
    rfl
  · exact (congrArg (List.map Report.said) hdue).trans (by rw [ht]; rfl)

end Logger

end HostLog
