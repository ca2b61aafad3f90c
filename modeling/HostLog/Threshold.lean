import HostLog.Severity

/-!
# Thresholds

A threshold decides which severities are reported: none, or those at or above a minimum.
-/

namespace HostLog

inductive Threshold where
  /-- Nothing is reported. -/
  | off
  /-- Severities from `minimum` upwards are reported. -/
  | atLeast (minimum : Severity)
  deriving DecidableEq, Repr

namespace Threshold

/-- The threshold where none, or none that can be understood, is configured. -/
def default : Threshold := .atLeast .error

instance : Inhabited Threshold := ⟨default⟩

def admits : Threshold → Severity → Bool
  | off, _ => false
  | atLeast minimum, s => minimum ≤ s

/-- The name of a threshold: that of its severity, or `OFF`. -/
def name : Threshold → String
  | off => "OFF"
  | atLeast s => s.name

/-- The words that switch reporting off. -/
def offNames : List String := ["OFF", "NONE", "DISABLED"]

/-- The threshold that a configured text names. -/
def parse (text : String) : Except Error Threshold :=
  if levelKey text ∈ offNames then .ok off else (Severity.parse text).map .atLeast

end Threshold

end HostLog
