import HostLog.Output.Directive

/-!
# Filters of the process log

A filter is a list of directives. Of those that are for a diagnostic one decides: the one with the
longest target, of these one that asks for a field, and of equal ones the last. Where none is for it
the diagnostic is dropped.
-/

namespace HostLog.Output

abbrev Filter := List Directive

namespace Filter

/-- The texts between the commas, but for empty ones. -/
def parts (text : String) : List (List Char) :=
  (text.toList.splitOn ',').filter fun s => !s.isEmpty

/-- The filter that a text describes, or the first defect of its parts. -/
def parse (text : String) : Except Defect Filter := (parts text).mapM Directive.parse

/-- The directives among `parts`, malformed ones left out; it fails if one splits a character. -/
def wellFormed : List (List Char) → Option Filter
  | [] => some []
  | s :: parts =>
    match Directive.parse s with
    | .ok d => (wellFormed parts).map (d :: ·)
    | .error .malformed => wellFormed parts
    | .error .splitCharacter => none

/-- The filter of those parts of a text that are directives; only errors pass if there is none. -/
def ofText (text : String) : Option Filter :=
  (wellFormed (parts text)).map fun ds => if ds.isEmpty then [{ level := some .error }] else ds

/-- The directive that decides about a diagnostic. -/
def deciding? (f : Filter) (e : Diagnostic) : Option Directive :=
  (f.filter fun d => d.isFor e).foldl
    (fun best d =>
      match best with
      | some b => if b.yieldsTo d then some d else some b
      | none => some d)
    none

/-- Whether a diagnostic passes. -/
def admits (f : Filter) (e : Diagnostic) : Bool :=
  match f.deciding? e with
  | some d => d.admits e.level
  | none => false

end Filter

end HostLog.Output
