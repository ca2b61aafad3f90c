import HostLog.Decimal.Shortest
import HostLog.Text.Basic
import HostLog.Text.Printable

/-!
# What can be wrong with a JSON document

A reader works on the characters not yet read. Where it has to give up it leaves a `Fault`: the
cause, and how many bytes of UTF-8 were then still unread. `Fault.locate` turns that count into a
line and a column of the document, so readers never keep track of a position themselves.
-/

namespace HostLog.Json

/-- What stands in a document where something else is wanted. -/
inductive Found where
  | null
  | truth (b : Bool)
  | integer (n : Int)
  /-- A number with a fraction, an exponent, or a value outside the 64-bit integers. -/
  | real (negative : Bool) (magnitude : Decimal.Binary64)
  | text (s : String)
  | sequence
  | map
  deriving DecidableEq, Repr

/-- Why a document is refused. -/
inductive Cause where
  | endInValue
  | endInList
  | endInObject
  | endInString
  | wantColon
  | wantCommaOrBracket
  | wantCommaOrBrace
  | wantValue
  /-- A misspelt `null`, `true` or `false`. -/
  | wantName
  | keyNotString
  | trailingComma
  | trailingCharacters
  | badNumber
  | numberOutOfRange
  | badEscape
  | loneSurrogate
  | surrogateNotFollowed
  | rawControl
  | wrongType (found : Found) (wanted : String)
  | wrongValue (n : Int) (wanted : String)
  | wrongLength (n : Nat) (wanted : String)
  | missingField (name : String)
  | duplicateField (name : String)
  | unknownVariant (name : String) (known : List String)
  deriving DecidableEq, Repr

namespace Found

/-- How a message names what was found. -/
def describe : Found → String
  | null => "null"
  | truth b => "boolean `" ++ (if b then "true" else "false") ++ "`"
  | integer n => "integer `" ++ toString n ++ "`"
  | real negative x => "floating point `" ++ Decimal.render negative x ++ "`"
  | text s => "string " ++ Text.quote s
  | sequence => "sequence"
  | map => "map"

end Found

namespace Cause

/-- The wording of a cause, without its place. -/
def message : Cause → String
  | endInValue => "EOF while parsing a value"
  | endInList => "EOF while parsing a list"
  | endInObject => "EOF while parsing an object"
  | endInString => "EOF while parsing a string"
  | wantColon => "expected `:`"
  | wantCommaOrBracket => "expected `,` or `]`"
  | wantCommaOrBrace => "expected `,` or `\x7d`"
  | wantValue => "expected value"
  | wantName => "expected ident"
  | keyNotString => "key must be a string"
  | trailingComma => "trailing comma"
  | trailingCharacters => "trailing characters"
  | badNumber => "invalid number"
  | numberOutOfRange => "number out of range"
  | badEscape => "invalid escape"
  | loneSurrogate => "lone leading surrogate in hex escape"
  | surrogateNotFollowed => "unexpected end of hex escape"
  | rawControl => "control character (\\u0000-\\u001F) found while parsing a string"
  | wrongType found wanted => "invalid type: " ++ found.describe ++ ", expected " ++ wanted
  | wrongValue n wanted => "invalid value: integer `" ++ toString n ++ "`, expected " ++ wanted
  | wrongLength n wanted => "invalid length " ++ toString n ++ ", expected " ++ wanted
  | missingField name => "missing field `" ++ name ++ "`"
  | duplicateField name => "duplicate field `" ++ name ++ "`"
  | unknownVariant name known =>
    "unknown variant `" ++ name ++ "`, expected one of " ++
      String.intercalate ", " (known.map fun k => "`" ++ k ++ "`")

end Cause

/-- A place in a text: `1 +` the line breaks before it, and the bytes since the last of them. -/
structure Position where
  line : Nat
  column : Nat
  deriving DecidableEq, Repr

/-- The place reached after `bytes`. -/
def Position.after (bytes : List UInt8) : Position :=
  { line := 1 + bytes.count 10
    column := (bytes.reverse.takeWhile (· != 10)).length }

/-- A cause, and the number of bytes unread when it arose. -/
structure Fault where
  cause : Cause
  unread : Nat
  deriving DecidableEq, Repr

/-- A cause at its place. -/
structure Failure where
  cause : Cause
  position : Position
  deriving DecidableEq, Repr

/-- The fault that arises with `rest` unread. -/
def Fault.before (cause : Cause) (rest : List Char) : Fault := ⟨cause, Text.byteCount rest⟩

/-- The fault that arises at the first byte of `rest`, which then counts as read; at the end of the
document there is no such byte. -/
def Fault.at (cause : Cause) (rest : List Char) : Fault := ⟨cause, Text.byteCount rest - 1⟩

/-- The place of a fault in the document it arose in. -/
def Fault.locate (document : String) (f : Fault) : Failure :=
  let bytes := document.toUTF8.toList
  ⟨f.cause, .after (bytes.take (bytes.length - f.unread))⟩

/-- The cause and its place, in words. -/
def Failure.message (f : Failure) : String :=
  f.cause.message ++ " at line " ++ toString f.position.line ++ " column " ++
    toString f.position.column

/-! ### Steps of a reader that succeed -/

theorem exists_of_map_eq_ok {ε α β : Type} {f : α → β} {x : Except ε α} {b : β}
    (h : x.map f = .ok b) : ∃ a, x = .ok a ∧ f a = b := by
  cases x with
  | error e => cases h
  | ok a => cases h; exact ⟨a, rfl, rfl⟩

theorem exists_of_bind_eq_ok {ε α β : Type} {x : Except ε α} {f : α → Except ε β} {b : β}
    (h : x >>= f = .ok b) : ∃ a, x = .ok a ∧ f a = .ok b := by
  cases x with
  | error e => cases h
  | ok a => exact ⟨a, rfl, h⟩

end HostLog.Json
