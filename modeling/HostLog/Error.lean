import HostLog.Incident
import HostLog.Json.Fault

/-!
# Errors

What can go wrong on the way to a configuration: a text names no level, a document cannot be
decoded, a file cannot be read. Reporting events never fails. A host may report one of these errors
like any other, as an incident (`Incident.ofError`).
-/

namespace HostLog

/-- Why a file has no text. -/
inductive FileError where
  | notFound
  | isDirectory
  | nulInPath
  | notUtf8
  /-- Any other error, as whoever reads the file reports it. -/
  | other (incident : Incident)
  deriving DecidableEq, Repr

inductive Error where
  /-- The text, as it was given, names no severity and no threshold. -/
  | invalidLevel (text : String)
  | serialization (failure : Json.Failure)
  | io (e : FileError)
  deriving DecidableEq, Repr

namespace FileError

/-- The error of a file as an incident. -/
def incident : FileError → Incident
  | notFound => .root "No such file or directory (os error 2)"
  | isDirectory => .root "Is a directory (os error 21)"
  | nulInPath => .root "file name contained an unexpected NUL byte"
  | notUtf8 => .root "stream did not contain valid UTF-8"
  | other incident => incident

def message (e : FileError) : String := e.incident.text

end FileError

namespace Error

/-- The wording of an error. A text that names no level is quoted, so that the message stays on one
line and tells the text exactly. -/
def message : Error → String
  | invalidLevel text => "invalid log level: " ++ Text.quote text
  | serialization failure => "serialization error: " ++ failure.message
  | io e => "io error: " ++ e.message

/-- The incident behind an error: what was wrong with a document or a file is part of the error's
message, and told again as its cause. -/
def cause? : Error → Option Incident
  | invalidLevel _ => none
  | serialization failure => some (.root failure.message)
  | io e => some e.incident

end Error

/-- An error of this library as an incident. -/
def Incident.ofError (e : Error) : Incident :=
  match e.cause? with
  | none => root e.message
  | some cause => causedBy e.message cause

end HostLog
