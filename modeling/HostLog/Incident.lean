import HostLog.Text.Printable

/-!
# Reported errors

An incident is an error as the host reports it: a text, and perhaps the incident that caused it. A
handle is what an event carries of it: two handles are equal if they are clones of one handle,
whatever the incidents say.
-/

namespace HostLog

inductive Incident where
  | root (text : String)
  | causedBy (text : String) (cause : Incident)
  deriving DecidableEq, Repr

namespace Incident

/-- What the incident itself says, without its causes. -/
def text : Incident → String
  | root t => t
  | causedBy t _ => t

/-- The texts of the incident and of its causes, outermost first. -/
def texts : Incident → List String
  | root t => [t]
  | causedBy t cause => t :: cause.texts

/-- The texts of the incident and of its causes, outermost first, with `: ` between them. -/
def chain : Incident → String
  | root t => t
  | causedBy t cause => t ++ ": " ++ cause.chain

/-- The incident whose own text is `t` and whose causes say `ts`. -/
def ofTexts (t : String) : List String → Incident
  | [] => root t
  | u :: us => causedBy t (ofTexts u us)

end Incident

/-- A handle to an incident. Clones share the number, and no other handle has it. -/
structure ErrorHandle where
  number : Nat
  incident : Incident
  deriving Repr

namespace ErrorHandle

instance : BEq ErrorHandle := ⟨fun a b => a.number == b.number⟩

/-- How a handle is shown where a text must not break the line: without causes, and quoted. -/
def debugText (h : ErrorHandle) : String := "EventError(" ++ Text.quote h.incident.text ++ ")"

end ErrorHandle

end HostLog
