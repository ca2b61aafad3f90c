/-!
# Kinds of events

The host tells by a code what has happened. For each of the three sources of events there is a table
of the codes that have a meaning; the host may send others.
-/

namespace HostLog

/-- What can happen to a module. -/
inductive ModuleChange where
  | installed
  | started
  | stopped
  | updated
  | uninstalled
  | resolved
  | unresolved
  | starting
  | stopping
  deriving DecidableEq, Repr

namespace ModuleChange

def all : List ModuleChange :=
  [installed, started, stopped, updated, uninstalled, resolved, unresolved, starting, stopping]

def code : ModuleChange → Int32
  | installed => 0x1
  | started => 0x2
  | stopped => 0x4
  | updated => 0x8
  | uninstalled => 0x10
  | resolved => 0x20
  | unresolved => 0x40
  | starting => 0x80
  | stopping => 0x100

def symbol : ModuleChange → String
  | installed => "INSTALLED"
  | started => "STARTED"
  | stopped => "STOPPED"
  | updated => "UPDATED"
  | uninstalled => "UNINSTALLED"
  | resolved => "RESOLVED"
  | unresolved => "UNRESOLVED"
  | starting => "STARTING"
  | stopping => "STOPPING"

/-- The change that a code stands for. -/
def ofCode? (code : Int32) : Option ModuleChange := all.find? fun k => k.code == code

/-- The code of a lazy activation, which has no meaning of its own here. -/
def lazyActivationCode : Int32 := 0x200

theorem ofCode?_eq_some_iff {c : Int32} {k : ModuleChange} : ofCode? c = some k ↔ c = k.code := by
  constructor
  · intro h
    have := List.find?_some h
    simpa using (beq_iff_eq.mp this).symm
  · rintro rfl
    cases k <;> rfl

end ModuleChange

/-- What the framework itself can report. -/
inductive FrameworkChange where
  | started
  | error
  | packagesRefreshed
  | startLevelChanged
  | warning
  | info
  deriving DecidableEq, Repr

namespace FrameworkChange

def all : List FrameworkChange :=
  [started, error, packagesRefreshed, startLevelChanged, warning, info]

def code : FrameworkChange → Int32
  | started => 0x1
  | error => 0x2
  | packagesRefreshed => 0x4
  | startLevelChanged => 0x8
  | warning => 0x10
  | info => 0x20

def symbol : FrameworkChange → String
  | started => "STARTED"
  | error => "ERROR"
  | packagesRefreshed => "PACKAGES REFRESHED"
  | startLevelChanged => "STARTLEVEL CHANGED"
  | warning => "WARNING"
  | info => "INFO"

/-- The report that a code stands for. -/
def ofCode? (code : Int32) : Option FrameworkChange := all.find? fun k => k.code == code

theorem ofCode?_eq_some_iff {c : Int32} {k : FrameworkChange} :
    ofCode? c = some k ↔ c = k.code := by
  constructor
  · intro h
    have := List.find?_some h
    simpa using (beq_iff_eq.mp this).symm
  · rintro rfl
    cases k <;> rfl

end FrameworkChange

/-- What can happen to the registration of a service. -/
inductive ServiceChange where
  | registered
  | modified
  | unregistering
  deriving DecidableEq, Repr

namespace ServiceChange

def all : List ServiceChange := [registered, modified, unregistering]

def code : ServiceChange → Int32
  | registered => 0x1
  | modified => 0x2
  | unregistering => 0x4

def symbol : ServiceChange → String
  | registered => "REGISTERED"
  | modified => "MODIFIED"
  | unregistering => "UNREGISTERING"

/-- The change that a code stands for. -/
def ofCode? (code : Int32) : Option ServiceChange := all.find? fun k => k.code == code

theorem ofCode?_eq_some_iff {c : Int32} {k : ServiceChange} :
    ofCode? c = some k ↔ c = k.code := by
  constructor
  · intro h
    have := List.find?_some h
    simpa using (beq_iff_eq.mp this).symm
  · rintro rfl
    cases k <;> rfl

end ServiceChange

end HostLog
