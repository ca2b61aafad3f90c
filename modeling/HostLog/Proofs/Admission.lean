import HostLog.Proofs.Calls
import HostLog.Proofs.CodeTable
import Mathlib.Tactic.SplitIfs

/-!
# What a threshold lets through

The severity of an event hangs on its source and its code alone (`Category.severityOf`); its module,
error and service do not count, and a code means something else in each source. So a threshold picks
events by source and code (`Threshold.passes`). `recorded_eq_passed`: what a logger records of a run
of events is those that pass, classified, in order. No event is as low as `trace` or as high as
`audit`, so a threshold of `audit` is as good as none and one of `debug` lets everything through.
-/

namespace HostLog

namespace Event

/-- The source of the event. -/
def category : Event → Category
  | module _ => .module
  | framework _ => .framework
  | service _ => .service

/-- The code that the host sent. -/
def code : Event → Int32
  | module e => e.code
  | framework e => e.code
  | service e => e.code

/-- The entry that the event leaves in a sink that records. -/
def entry (e : Event) : Entry := ⟨e.classify.severity, e.classify⟩

end Event

/-- The severity of the events of a source that have this code. -/
def Category.severityOf : Category → Int32 → Severity
  | module, _ => .info
  | framework, code => if code = 0x02 then .error else if code = 0x10 then .warn else .info
  | service, code => if code = 0x02 then .debug else .info

/-- Whether a threshold lets the events of a source through that have this code. -/
def Threshold.passes : Threshold → Category → Int32 → Bool
  | off, _, _ | atLeast .audit, _, _ => false
  | atLeast .error, c, code => c = .framework ∧ code = 0x02
  | atLeast .warn, c, code => c = .framework ∧ (code = 0x02 ∨ code = 0x10)
  | atLeast .info, c, code => ¬(c = .service ∧ code = 0x02)
  | atLeast .debug, _, _ | atLeast .trace, _, _ => true

/-! ### Severities by code -/

theorem CodeTable.ne_code {κ : Type} (T : CodeTable κ) {c : Int32} (h : T.ofCode? c = none)
    (k : κ) : c ≠ T.code k := fun hc => by
  rw [T.ofCode?_eq_some_iff.2 hc] at h
  cases h

theorem FrameworkEvent.severity_classify (e : FrameworkEvent) :
    e.classify.severity = Category.framework.severityOf e.code := by
  show ((FrameworkChange.ofCode? e.code).map FrameworkChange.severity).getD .info =
    if e.code = 0x02 then .error else if e.code = 0x10 then .warn else .info
  rcases hk : FrameworkChange.ofCode? e.code with _ | k
  · -- a code without a meaning is neither of the two exceptions
    have herror : e.code ≠ 0x02 := FrameworkChange.table.ne_code hk .error
    have hwarning : e.code ≠ 0x10 := FrameworkChange.table.ne_code hk .warning
    rw [if_neg herror, if_neg hwarning]
    rfl
  · rw [FrameworkChange.ofCode?_eq_some_iff.1 hk]
    cases k <;> rfl

theorem ServiceEvent.severity_classify (e : ServiceEvent) :
    e.classify.severity = Category.service.severityOf e.code := by
  show ((ServiceChange.ofCode? e.code).map ServiceChange.severity).getD .info =
    if e.code = 0x02 then .debug else .info
  rcases hk : ServiceChange.ofCode? e.code with _ | k
  · have hmodified : e.code ≠ 0x02 := ServiceChange.table.ne_code hk .modified
    rw [if_neg hmodified]
    rfl
  · rw [ServiceChange.ofCode?_eq_some_iff.1 hk]
    cases k <;> rfl

theorem Event.severity_classify (e : Event) :
    e.classify.severity = e.category.severityOf e.code := by
  cases e with
  | module e => rfl
  | framework e => exact e.severity_classify
  | service e => exact e.severity_classify

theorem Category.severityOf_ne (c : Category) (code : Int32) :
    c.severityOf code ≠ .trace ∧ c.severityOf code ≠ .audit := by
  cases c with
  | module => exact ⟨nofun, nofun⟩
  | framework | service => simp only [severityOf]; split_ifs <;> exact ⟨nofun, nofun⟩

theorem Threshold.admits_severityOf (t : Threshold) (c : Category) (code : Int32) :
    t.admits (c.severityOf code) = t.passes c code := by
  rcases t with _ | minimum
  · rfl
  cases c with
  | module => cases minimum <;> rfl
  | framework =>
    simp only [Category.severityOf]
    -- an error, a warning, or any other code; each against the six minima
    split_ifs with herror hwarning <;> cases minimum <;>
      simp [admits, passes, Severity.le_def, Severity.rank, *]
  | service =>
    simp only [Category.severityOf]
    split_ifs with hmodified <;> cases minimum <;>
      simp [admits, passes, Severity.le_def, Severity.rank, *]

/-! ### Runs of events -/

theorem Event.admits_classify (e : Event) (t : Threshold) :
    t.admits e.classify.severity = t.passes e.category e.code := by
  rw [e.severity_classify, t.admits_severityOf]

namespace Logger

/-- What a logger with threshold `t` over a sink that records, empty at first, has recorded after a
run of events. -/
def recorded (t : Threshold) (es : List Event) : List Entry :=
  (performAll ⟨t, .recording, []⟩ (es.map Action.event)).1.state

theorem recorded_eq_flatMap (t : Threshold) (es : List Event) :
    recorded t es = es.flatMap fun e => e.classify.admitted t := by
  rw [recorded, performAll_recording, List.flatMap_map]
  rfl

theorem recorded_eq_filter (t : Threshold) (es : List Event) :
    recorded t es = (es.filter fun e => t.admits e.classify.severity).map Event.entry := by
  rw [recorded_eq_flatMap]
  induction es with
  | nil => rfl
  | cons e es ih =>
    rw [List.flatMap_cons, ih, List.filter_cons, Record.admitted]
    split <;> rfl

theorem level_of_mem_recorded {t : Threshold} {es : List Event} {c : Entry}
    (h : c ∈ recorded t es) : c.level ≠ .trace ∧ c.level ≠ .audit := by
  rw [recorded_eq_filter] at h
  obtain ⟨e, -, rfl⟩ := List.mem_map.1 h
  show e.classify.severity ≠ .trace ∧ e.classify.severity ≠ .audit
  rw [e.severity_classify]
  exact Category.severityOf_ne _ _

theorem recorded_eq_filter_passes (t : Threshold) (es : List Event) :
    recorded t es = (es.filter fun e => t.passes e.category e.code).map Event.entry := by
  rw [recorded_eq_filter]
  simp only [Event.admits_classify]

theorem recorded_congr (t u : Threshold) (h : ∀ c code, t.passes c code = u.passes c code)
    (es : List Event) : recorded t es = recorded u es := by
  rw [recorded_eq_filter_passes, recorded_eq_filter_passes]
  simp only [h]

/-- A logger with threshold `t` records of a run of events exactly those that pass, classified, in
order and each at its own severity. Passing and severity are a matter of source and code alone.
Nothing is recorded at `trace` or `audit`, so that `off` cannot be told from a threshold of `audit`,
nor `debug` from `trace`. -/
theorem recorded_eq_passed (t : Threshold) (es : List Event) :
    recorded t es = ((es.filter fun e => t.passes e.category e.code).map fun e =>
        ⟨e.category.severityOf e.code, e.classify⟩) ∧
      (∀ e : Event, e.classify.severity = e.category.severityOf e.code) ∧
      .trace ∉ (recorded t es).map Entry.level ∧ .audit ∉ (recorded t es).map Entry.level ∧
      recorded .off es = recorded (.atLeast .audit) es ∧
      recorded (.atLeast .debug) es = recorded (.atLeast .trace) es := by
  refine ⟨?_, Event.severity_classify, fun h => ?_, fun h => ?_,
    recorded_congr .off (.atLeast .audit) (fun _ _ => rfl) es,
    recorded_congr (.atLeast .debug) (.atLeast .trace) (fun _ _ => rfl) es⟩
  · rw [recorded_eq_filter_passes]
    exact List.map_congr_left fun e _ => congrArg (Entry.mk · e.classify) e.severity_classify
  · obtain ⟨c, hc, hlevel⟩ := List.mem_map.1 h
    exact (level_of_mem_recorded hc).1 hlevel
  · obtain ⟨c, hc, hlevel⟩ := List.mem_map.1 h
    exact (level_of_mem_recorded hc).2 hlevel

end Logger

end HostLog
