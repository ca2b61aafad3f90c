import HostLog.Environment
import HostLog.Properties
import Std.Data.HashMap
import Std.Data.TreeMap

/-!
# Sources of configuration

Anything that can be asked for the value of a key: a property set, another map of texts, or the
environment.
-/

namespace HostLog

/-- The value of each key that has one. -/
structure Source where
  property : String → Option String

namespace Source

def ofProperties (p : Properties) : Source := ⟨p.get?⟩

def ofHashMap (m : Std.HashMap String String) : Source := ⟨fun key => m[key]?⟩

def ofTreeMap (m : Std.TreeMap String String) : Source := ⟨fun key => m[key]?⟩

/-- The variables of an environment, each under the names of the properties it stands for. -/
def ofEnvironment (env : Environment) : Source :=
  ⟨fun key => env.get? (Environment.variableName key)⟩

/-- A reference to a source, which can be asked in its place. -/
def reference (source : Source) : Source := ⟨fun key => source.property key⟩

/-- The value of a key, if it is not empty. White space counts as a value. -/
def value? (source : Source) (key : String) : Option String :=
  (source.property key).filter fun v => !v.isEmpty

end Source

end HostLog
