/-!
# Environments

The variables of a process. A value is any bytes; it can be read only if they are UTF-8, and a
variable whose value cannot be read counts as unset.
-/

namespace HostLog

/-- The variables in the order in which they were set; a later setting of a name overrides an
earlier one. -/
structure Environment where
  settings : List (String × ByteArray)

namespace Environment

def empty : Environment := ⟨[]⟩

instance : Inhabited Environment := ⟨empty⟩

/-- The environment after setting one more variable. -/
def set (env : Environment) (name : String) (value : ByteArray) : Environment :=
  ⟨env.settings ++ [(name, value)]⟩

/-- A name that a variable can have. -/
def isName (name : String) : Bool :=
  !name.isEmpty && name.toList.all fun c => c != '=' && c != '\x00'

/-- The value of a variable, if it is set and readable. -/
def get? (env : Environment) (name : String) : Option String :=
  if isName name then (env.settings.reverse.lookup name).bind String.fromUTF8? else none

/-- The variable that stands for a property: dots and dashes become underscores and ASCII letters
upper case. -/
def variableName (key : String) : String :=
  String.ofList (key.toList.map fun c => if c = '.' ∨ c = '-' then '_' else c.toUpper)

end Environment

end HostLog
