import HostLog.Diagnostic
import HostLog.Output.Pattern
import HostLog.Text.Basic

/-!
# Directives of a filter

A directive tells from which level on diagnostics are let through, and for which of them it is:
those whose target begins in a certain way, or that have a certain field. `Directive.parse` reads
one from the form `target[span{field=pattern}]=level`, of which most parts may be left out; a level
may also stand alone. Where the parts end is found in the text without the white space at its ends,
but they are cut at the same offsets out of the text as it was given: white space in front shifts
them.
-/

namespace HostLog.Output

/-- Asks for a field, and perhaps for a value that the pattern matches. -/
structure FieldCondition where
  name : List Char
  pattern : Option (List Char)
  deriving DecidableEq, Repr

/-- Lets through what is at least as serious as `level`; `none` lets nothing through. -/
structure Directive where
  /-- The beginning of the targets the directive is for; all of them if empty. -/
  target : List Char := []
  /-- The name of the span that the directive is for. -/
  span : Option (List Char) := none
  field : Option FieldCondition := none
  level : Option DiagnosticLevel := some .trace
  deriving DecidableEq, Repr

/-- Why a text is not a directive. -/
inductive Defect where
  | malformed
  /-- A part of it would begin or end inside a character. -/
  | splitCharacter
  deriving DecidableEq, Repr

/-- A level by its number, `0` for none. -/
def levelOfNumber? : Nat → Option (Option DiagnosticLevel)
  | 0 => some none
  | 1 => some (some .error)
  | 2 => some (some .warn)
  | 3 => some (some .info)
  | 4 => some (some .debug)
  | 5 => some (some .trace)
  | _ => none

/-- The number that decimal digits write, after a plus sign or none. -/
def levelNumber? (s : List Char) : Option Nat :=
  let ds := if s.head? = some '+' then s.tail else s
  if ds.isEmpty || !ds.all Char.isDigit then none
  else some (ds.foldl (fun n d => 10 * n + (d.toNat - '0'.toNat)) 0)

/-- The level that a text names: `off`, a level in any case, or its number. -/
def level? (s : List Char) : Option (Option DiagnosticLevel) :=
  match (levelNumber? s).bind levelOfNumber? with
  | some l => some l
  | none =>
    let t := s.map Char.toUpper
    if t = "OFF".toList then some none
    else (DiagnosticLevel.all.find? fun l => l.name.toList = t).map some

namespace FieldCondition

/-- A name, or a name with a pattern after an equals sign. What follows a second equals sign does
not count. -/
def parse (s : List Char) : Except Defect FieldCondition :=
  let name := s.takeWhile (· != '=')
  match s.dropWhile (· != '=') with
  | [] => if s.isEmpty then .error .malformed else .ok ⟨name, none⟩
  | _ :: r =>
    let pattern := r.takeWhile (· != '=')
    if Pattern.isValid pattern then .ok ⟨name, some pattern⟩ else .error .malformed

end FieldCondition

namespace Directive

/-- A directive that does not begin with a bracket begins with a letter or number of any script or
one of three signs. -/
def canBegin (c : Char) : Bool :=
  Text.isAlphanumeric c || c == '-' || c == ':' || c == '_'

/-- What stands in `text` between two byte offsets. -/
def cut (text : List Char) (a b : Nat) : Except Defect (List Char) :=
  match Text.cut? text a b with
  | some s => .ok s
  | none => .error .splitCharacter

/-- A level, or else a target for which all levels are let through. -/
def ofWord (text : List Char) : Directive :=
  match level? text with
  | some level => { level }
  | none => { target := text }

/-- The directive `d` with the level that begins at offset `p`; it stays as it is if none does. -/
def parseLevel (d : Directive) (text : List Char) (p : Nat) : Except Defect Directive := do
  let s ← cut text p (Text.byteCount text)
  if s.isEmpty then .ok d
  else
    match level? s with
    | some level => .ok { d with level }
    | none => .error .malformed

/-- The directive `d` with what follows its brackets from offset `p` on: nothing, or a level. -/
def parseEnd (d : Directive) (text : List Char) (p : Nat) : List Char → Except Defect Directive
  | [] => .ok d
  | '=' :: _ => d.parseLevel text (p + 1)
  | _ => .error .malformed

/-- The directive `d` with the field in braces of which the opening one has been passed; `s` is what
is left of the trimmed text from offset `p` on. -/
def parseField (d : Directive) (text : List Char) (p : Nat) (s : List Char) :
    Except Defect Directive :=
  let q := p + Text.byteCount (s.takeWhile (· != '\x7d'))
  match s.dropWhile (· != '\x7d') with
  | [] => .error .malformed
  | _ :: r => do
    let field ← FieldCondition.parse (← cut text p q)
    match r with
    | ']' :: r => parseEnd { d with field := some field } text (q + 2) r
    | _ => .error .malformed

/-- The directive `d` with the span and field in brackets of which the opening one has been passed.
A span without a name does not count before a field. -/
def parseSpan (d : Directive) (text : List Char) (p : Nat) (s : List Char) :
    Except Defect Directive :=
  let inName := fun c => c != ']' && c != '\x7b'
  let q := p + Text.byteCount (s.takeWhile inName)
  match s.dropWhile inName with
  | [] => .error .malformed
  | c :: r => do
    let name ← cut text p q
    if c = ']' then parseEnd { d with span := some name } text (q + 1) r
    else parseField { d with span := if name.isEmpty then none else some name } text (q + 1) r

/-- The directive that a text without commas describes. -/
def parse (text : List Char) : Except Defect Directive :=
  let inTarget := fun c => c != '=' && c != '['
  let s := Text.trim text
  let p := Text.byteCount (s.takeWhile inTarget)
  match s, s.dropWhile inTarget with
  | '[' :: r, _ => parseSpan {} text 1 r
  | c :: _, rest =>
    if !canBegin c then .error .malformed
    else
      match rest with
      | [] => .ok (ofWord text)
      | e :: r => do
        let target ← cut text 0 p
        if e = '=' then parseLevel { target } text (p + 1) else parseSpan { target } text (p + 1) r
  | [], _ => .error .malformed

/-- Whether diagnostics are subject to the directive at all, and not only spans: it names no span
and asks for no value. -/
def isForDiagnostics (d : Directive) : Bool :=
  d.span.isNone && (d.field.bind FieldCondition.pattern).isNone

/-- Whether the directive is for a diagnostic. A field without a value counts as well. -/
def isFor (d : Directive) (e : Diagnostic) : Bool :=
  d.isForDiagnostics && d.target.isPrefixOf e.target.toList &&
    match d.field with
    | none => true
    | some f => e.fields.any fun (name, _) => name.toList == f.name

/-- Whether `a` yields to `b` where both are for a diagnostic: if the target of `b` is longer, or as
long and the name of its field is not less; without a field it is least. -/
def yieldsTo (a b : Directive) : Bool :=
  let name (d : Directive) : String := String.ofList ((d.field.map FieldCondition.name).getD [])
  a.target.length < b.target.length ||
    a.target.length == b.target.length && name a ≤ name b

def admits (d : Directive) (level : DiagnosticLevel) : Bool :=
  match d.level with
  | none => false
  | some least => least.rank ≤ level.rank

end Directive

end HostLog.Output
