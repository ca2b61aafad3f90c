import HostLog.Output.Filter
import HostLog.Output.Layout
import HostLog.Output.Settings

/-!
# The console of a process

A process has at most one log, set up once. The first call that comes to its end sets it up, or
fails with a notice if something else has taken the log before; no later call has an effect. A
filter of which a part would begin or end inside a character breaks the call off before that: the
log is still to be set up, and the process has come to its end unless the call is guarded.
-/

namespace HostLog.Output

/-- What becomes of the diagnostics of a process. -/
inductive Log where
  | print (filter : Filter) (layout : Layout)
  /-- Something else takes them and prints nothing. -/
  | discard
  deriving DecidableEq, Repr

/-- What a process has on its console, and what decides about it. -/
structure Console where
  env : Environment
  /-- The log in force; without one diagnostics go nowhere. -/
  log : Option Log := none
  /-- Whether a call to set up the log has come to its end, with or without success. -/
  started : Bool := false
  /-- Whether the process has come to an end in setting up the log. -/
  aborted : Bool := false
  /-- Notices on standard error. -/
  notices : List String := []

/-- A call to set the log of a process up. -/
structure Call where
  settings : Option Settings
  /-- Whether the process goes on if the call is broken off. -/
  guarded : Bool := false

namespace Call

/-- The settings of a call; without any of its own those of the environment. -/
def settingsIn (k : Call) (env : Environment) : Settings := k.settings.getD (.ofEnvironment env)

end Call

namespace Console

/-- The variable whose filter takes precedence over the settings'. -/
def filterVariable : String := "RUST_LOG"

/-- What is said if there is a log already. -/
def skippedNotice : String :=
  "tracing init skipped: a global default trace dispatcher has already been set"

/-- The filter in force: the environment's if it has one that can be understood. It fails if a part
of a filter splits a character. -/
def filter (env : Environment) (settings : Settings) : Option Filter :=
  match (env.get? filterVariable).map Filter.parse with
  | some (.ok f) => some f
  | some (.error .splitCharacter) => none
  | some (.error .malformed) | none => Filter.ofText settings.logLevel

/-- The console of a process that begins; its log is `taken` if something else has set one up. -/
def start (env : Environment) (taken : Bool) : Console :=
  { env, log := if taken then some .discard else none }

/-- Sets the log up by the settings, or by those of the environment if none are given. A filter of
which a part splits a character ends the process instead, and nothing happens after that. -/
def setUp (c : Console) (settings : Option Settings) : Console :=
  if c.started || c.aborted then c
  else
    let s := settings.getD (.ofEnvironment c.env)
    match filter c.env s, c.log with
    | none, _ => { c with aborted := true }
    | some _, some _ => { c with started := true, notices := c.notices ++ [skippedNotice] }
    | some filter, none =>
      let layout := if s.jsonLogs then Layout.json else .text
      { c with started := true, log := some (.print filter layout) }

/-- Makes a call to set the log up. A guarded one that is broken off has changed nothing. -/
def call (c : Console) (k : Call) : Console :=
  let c' := c.setUp k.settings
  if k.guarded then { c' with aborted := c.aborted } else c'

/-- What is printed of a diagnostic. -/
def print? (c : Console) (d : Diagnostic) : Option String :=
  match c.log with
  | some (.print filter layout) => if filter.admits d then some (layout.print d) else none
  | _ => none

/-- What is printed of diagnostics, in order. -/
def printed (c : Console) (ds : List Diagnostic) : List String := ds.filterMap c.print?

end Console

end HostLog.Output
