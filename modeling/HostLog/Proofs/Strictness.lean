import HostLog.Proofs.Admission
import Mathlib.Order.MinMax

/-!
# Stricter and laxer thresholds

Thresholds are ordered by how much they ask for: by the rank of the minimum, and `off` above all. A
threshold is stricter than another exactly if it admits less (`le_iff_admits`), and two filters in a
row admit what the stricter one does (`admits_max`). So it is for whole runs: to dispatch again what
one logger has recorded comes to having recorded at the stricter threshold, and what is recorded at
a stricter threshold is found, in order, among what is recorded at a laxer one.
-/

namespace HostLog

theorem Severity.rank_inj {a b : Severity} : a.rank = b.rank ↔ a = b := by
  cases a <;> cases b <;> simp [rank]

theorem Severity.rank_le_audit (s : Severity) : s.rank ≤ Severity.audit.rank := by
  cases s <;> decide

namespace Threshold

variable {t u : Threshold} {s : Severity}

/-- The least rank that the threshold admits; no severity has that of `off`. -/
def rank : Threshold → Nat
  | off => Severity.audit.rank + 1
  | atLeast minimum => minimum.rank

theorem rank_le_off (t : Threshold) : t.rank ≤ off.rank := by
  rcases t with _ | minimum
  · exact Nat.le_refl _
  · exact Nat.le_succ_of_le minimum.rank_le_audit

theorem rank_injective : Function.Injective rank := by
  intro t u h
  rcases t with _ | a <;> rcases u with _ | b
  · rfl
  · exact absurd (h.le.trans b.rank_le_audit) (Nat.not_succ_le_self _)
  · exact absurd (h.ge.trans a.rank_le_audit) (Nat.not_succ_le_self _)
  · exact congrArg atLeast (Severity.rank_inj.1 h)

/-- The greater of two thresholds is the stricter one. -/
instance : LinearOrder Threshold := LinearOrder.lift' rank rank_injective

theorem le_def : t ≤ u ↔ t.rank ≤ u.rank := Iff.rfl

theorem rank_max (t u : Threshold) : (max t u).rank = max t.rank u.rank :=
  Monotone.map_max fun _ _ h => h

theorem admits_iff : t.admits s ↔ t.rank ≤ s.rank := by
  cases t with
  | off => exact ⟨nofun, fun h => absurd (h.trans s.rank_le_audit) (Nat.not_succ_le_self _)⟩
  | atLeast minimum => exact decide_eq_true_iff

theorem le_iff_admits : t ≤ u ↔ ∀ s, u.admits s → t.admits s := by
  constructor
  · intro h s hs
    exact admits_iff.2 (le_trans (le_def.1 h) (admits_iff.1 hs))
  · intro h
    cases u with
    | off => exact t.rank_le_off
    | atLeast minimum => exact admits_iff.1 (h minimum (admits_iff.2 (le_refl minimum.rank)))

theorem admits_max (t u : Threshold) (s : Severity) :
    (max t u).admits s = (t.admits s && u.admits s) := by
  rw [Bool.eq_iff_iff, Bool.and_eq_true, admits_iff, admits_iff, admits_iff, rank_max]
  exact max_le_iff

end Threshold

def Answer.isTrue : Answer → Bool
  | truth b => b
  | _ => false

namespace Logger

variable (t u : Threshold) (es : List Event)

theorem recorded_filter_admits :
    recorded u (es.filter fun e => t.admits e.classify.severity) = recorded (max t u) es := by
  rw [recorded_eq_filter, recorded_eq_filter, List.filter_filter]
  simp only [Threshold.admits_max, Bool.and_comm]

theorem recorded_max :
    recorded (max t u) es = (recorded t es).filter fun c => u.admits c.record.severity := by
  rw [← recorded_filter_admits, recorded_eq_filter, recorded_eq_filter t, List.filter_map]
  rfl

variable {t u} in
/-- The stricter threshold picks its entries out of what the laxer one has recorded. -/
theorem recorded_eq_filter_of_le (h : t ≤ u) :
    recorded u es = (recorded t es).filter fun c => u.admits c.record.severity := by
  rw [← recorded_max, max_eq_right h]

/-- The calls of dispatching again: as if the events that passed first were recorded once more. -/
theorem flatMap_calls_dispatch (v : Threshold) :
    ((recorded t es).map fun c => Action.dispatch c.record u).flatMap (Action.calls v) =
      recorded (max t u) es := by
  rw [← recorded_filter_admits, recorded_eq_flatMap u, recorded_eq_filter t, List.map_map,
    List.flatMap_map]
  rfl

/-- A logger with threshold `t` records a run of events, and then all that it has recorded is
dispatched at `u` into a second sink: what arrives there is what one logger with the stricter
threshold records of the run, and as many dispatches tell that they passed. At the stricter of two
thresholds the same is recorded, in the same order, as at the laxer one, but for the entries whose
severity it does not admit. Stricter means to admit no severity that the other does not. What a
logger records are the entries of those events whose severity its threshold admits. -/
theorem performAll_dispatch_recorded (v : Threshold) :
    let again := performAll ⟨v, .recording, []⟩
      ((recorded t es).map fun c => .dispatch c.record u)
    let strict := recorded (max t u) es
    let lax := recorded (min t u) es
    again.1.state = strict ∧
      again.2 = ((recorded t es).map fun c => .truth (u.admits c.record.severity)) ∧
      again.2.countP Answer.isTrue = strict.length ∧
      strict = (lax.filter fun c => (max t u).admits c.record.severity) ∧ strict.Sublist lax ∧
      (∀ a b : Threshold, a ≤ b ↔ ∀ s, b.admits s → a.admits s) ∧
      ∀ w, recorded w es = (es.filter fun e => w.admits e.classify.severity).map Event.entry := by
  have hlax : recorded (max t u) es =
      (recorded (min t u) es).filter fun c => (max t u).admits c.record.severity :=
    recorded_eq_filter_of_le es min_le_max
  have hanswers : ((recorded t es).map fun c => Action.dispatch c.record u).map (Action.answer v) =
      (recorded t es).map fun c => .truth (u.admits c.record.severity) :=
    List.map_map
  simp only [performAll_recording, flatMap_calls_dispatch, hanswers]
  refine ⟨List.nil_append _, trivial, ?_, hlax, ?_, fun _ _ => Threshold.le_iff_admits,
    fun w => recorded_eq_filter w es⟩
  · rw [recorded_max, ← List.countP_eq_length_filter, List.countP_map]
    rfl
  · rw [hlax]
    exact List.filter_sublist

end Logger

end HostLog
