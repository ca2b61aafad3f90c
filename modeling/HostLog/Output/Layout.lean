import HostLog.Diagnostic
import HostLog.Json.Strings

/-!
# Layouts of the process log

How one diagnostic is printed, without the time: as a line of text, or as a JSON object.
-/

namespace HostLog.FieldValue

def toText : FieldValue → String
  | text s => s
  | truth b => if b then "true" else "false"

/-- A field's value as it stands in a document. -/
def toJson : FieldValue → String
  | text s => Json.writeString s
  | truth b => Json.writeTruth b

end HostLog.FieldValue

namespace HostLog.Output

inductive Layout where
  | text
  | json
  deriving DecidableEq, Repr

/-- How a character of a message is printed: one that can steer a terminal stands as an escape. -/
def terminalSafe (c : Char) : List Char :=
  if c = '\x1b' then ['\\', 'x', '1', 'b']
  else if c = '\x07' then ['\\', 'x', '0', '7']
  else if c = '\x08' then ['\\', 'x', '0', '8']
  else if c = '\x0c' then ['\\', 'x', '0', 'c']
  else if c = '\x7f' then ['\\', 'x', '7', 'f']
  else if 0x80 ≤ c.toNat ∧ c.toNat ≤ 0x9f then
    '\\' :: 'u' :: '\x7b' :: (Nat.toDigits 16 c.toNat ++ ['\x7d'])
  else [c]

/-- A field in the text layout. The message stands alone, any other field after its name. -/
def fieldText (field : String × FieldValue) : String :=
  if field.1 = "message" then
    String.ofList (field.2.toText.toList.flatMap terminalSafe)
  else field.1 ++ "=" ++ field.2.toText

/-- A level's name, right-aligned to five columns. -/
def levelText (level : DiagnosticLevel) : String :=
  "".pushn ' ' (5 - level.name.length) ++ level.name

namespace Layout

/-- How a diagnostic is printed. -/
def print : Layout → Diagnostic → String
  | text, d =>
    levelText d.level ++ " " ++ d.target ++ ": " ++ String.intercalate " " (d.shown.map fieldText)
  | json, d =>
    Json.writeObject
      [("level", Json.writeString d.level.name),
        ("fields", Json.writeObject (d.shown.map fun (k, v) => (k, v.toJson))),
        ("target", Json.writeString d.target)]

end Layout

end HostLog.Output
