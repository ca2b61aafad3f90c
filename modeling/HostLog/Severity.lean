import HostLog.Error
import HostLog.Json.Record
import HostLog.Json.Strings
import HostLog.Text.Basic

/-!
# Severities

The six severities of a log record, in order of rank. A configured severity is read leniently
(`Severity.parse`): blanks around it, the case of ASCII letters and the spelling `WARNING` do not
matter. In a document only the exact name counts (`Severity.reader`).
-/

namespace HostLog

/-- How serious a record is, least serious first. `audit` is above every other. -/
inductive Severity where
  | trace
  | debug
  | info
  | warn
  | error
  | audit
  deriving DecidableEq, Repr

namespace Severity

/-- All severities, lowest rank first. -/
def all : List Severity := [trace, debug, info, warn, error, audit]

def rank : Severity → Nat
  | trace => 0
  | debug => 1
  | info => 2
  | warn => 3
  | error => 4
  | audit => 5

instance : LE Severity := ⟨fun a b => a.rank ≤ b.rank⟩

instance : LT Severity := ⟨fun a b => a.rank < b.rank⟩

instance (a b : Severity) : Decidable (a ≤ b) := inferInstanceAs (Decidable (a.rank ≤ b.rank))

instance (a b : Severity) : Decidable (a < b) := inferInstanceAs (Decidable (a.rank < b.rank))

theorem le_def {a b : Severity} : a ≤ b ↔ a.rank ≤ b.rank := Iff.rfl

/-- The severity's name, in upper case. -/
def name : Severity → String
  | trace => "TRACE"
  | debug => "DEBUG"
  | info => "INFO"
  | warn => "WARN"
  | error => "ERROR"
  | audit => "AUDIT"

theorem name_inj {a b : Severity} : a.name = b.name ↔ a = b := by
  cases a <;> cases b <;> simp [name]

/-- The severity of exactly this name. -/
def ofName? (name : String) : Option Severity := all.find? fun s => s.name == name

theorem ofName?_eq_some_iff {t : String} {s : Severity} : ofName? t = some s ↔ t = s.name := by
  constructor
  · intro h
    have := List.find?_some h
    simpa using (beq_iff_eq.mp this).symm
  · rintro rfl
    cases s <;> rfl

end Severity

/-- What a configured level is compared by: the text without blanks at its ends and with ASCII
letters in upper case. Letters outside ASCII stay as they are. -/
def levelKey (text : String) : String :=
  String.ofList ((Text.trim text.toList).map Char.toUpper)

namespace Severity

/-- The severity that a configured text names. -/
def parse (text : String) : Except Error Severity :=
  match ofName? (levelKey text) with
  | some s => .ok s
  | none => if levelKey text = "WARNING" then .ok warn else .error (.invalidLevel text)

/-- The lowest severity of a list, the first of them if there are several. -/
def minimum? : List Severity → Option Severity
  | [] => none
  | s :: ss => some (ss.foldl (fun a b => if b < a then b else a) s)

/-- The highest severity of a list. -/
def maximum? : List Severity → Option Severity
  | [] => none
  | s :: ss => some (ss.foldl (fun a b => if a ≤ b then b else a) s)

/-- The list in order of rank. -/
def sort (ss : List Severity) : List Severity := ss.mergeSort (· ≤ ·)

/-- Reads a severity from a document, by its exact name. -/
def reader : Json.Reader Severity := .variant (all.map fun s => (s.name, s))

/-- A severity as it stands in a document. -/
def toJson (s : Severity) : String := Json.writeString s.name

end Severity

end HostLog
