import HostLog.Output.Pattern.Bracket
import HostLog.Text.Alphanumeric

/-!
# Groups of a pattern

A group stands in parentheses and has branches, one of which is to be found; the whole pattern is
read as one too. It may begin with a name or with flags. Flags without a group change how the rest
of the group around them is read.
-/

namespace HostLog.Output.Pattern

/-- An open group. -/
structure Group where
  /-- How what follows is read, up to the end of the group. -/
  mode : Mode
  /-- The heights of the items of the current branch, the last one first. -/
  items : List Nat := []
  /-- Whether there is a last item that can be repeated. -/
  isRepeatable : Bool := false
  /-- The heights of the branches before the current one. -/
  branches : List Nat := []

namespace Group

def add (g : Group) (height : Nat) : Group :=
  { g with items := height :: g.items, isRepeatable := true }

/-- Flags are an item that cannot be repeated. -/
def setMode (g : Group) (m : Mode) : Group :=
  { g with mode := m, items := 0 :: g.items, isRepeatable := false }

/-- Begins another branch. -/
def branch (g : Group) : Group :=
  { g with items := [], isRepeatable := false, branches := joinedHeight g.items :: g.branches }

/-- Repeats the last item. -/
def repeatLast? (g : Group) : Option Group :=
  match g.items with
  | h :: hs => if g.isRepeatable then some { g with items := (h + 1) :: hs } else none
  | [] => none

def height (g : Group) : Nat := joinedHeight (joinedHeight g.items :: g.branches)

/-- What stands at the beginning of parentheses. -/
inductive Start where
  | group (mode : Mode) (name : Option (List Char))
  /-- Flags in parentheses of their own. -/
  | flags (mode : Mode)
  deriving DecidableEq, Repr

/-- The name of a group begins with a letter; digits and a few signs may follow. -/
def isName : List Char → Bool
  | [] => false
  | c :: cs =>
    (c == '_' || Text.isAlphabetic c) &&
      cs.all fun d => "_.[]".toList.contains d || Text.isAlphanumeric d

/-- The name at the beginning of `s`, which an angle bracket ends. -/
def readName (m : Mode) (s : List Char) : Option (Start × List Char) :=
  let name := s.takeWhile (· != '>')
  match s.dropWhile (· != '>') with
  | [] => none
  | _ :: r => if isName name then some (.group m (some name), r) else none

/-- The flags at the beginning of `s`, which either are all of the parentheses or are for the group
in them, which a colon begins. -/
def readFlags (m : Mode) (s : List Char) : Option (Start × List Char) :=
  let isFlag := fun c => c != ':' && c != ')'
  let flags := s.takeWhile isFlag
  match m.set? flags, s.dropWhile isFlag with
  | some m, ':' :: r => some (.group m none, r)
  | some m, ')' :: r => if flags.isEmpty then none else some (.flags m, r)
  | _, _ => none

/-- What follows an opening parenthesis. -/
def readStart (m : Mode) : List Char → Option (Start × List Char)
  | '?' :: 'P' :: '<' :: s | '?' :: '<' :: s => readName m s
  | '?' :: s => readFlags m s
  | s => some (.group m none, s)

theorem length_of_readStart {m : Mode} {s r : List Char} {t : Start}
    (h : readStart m s = some (t, r)) : r.length ≤ s.length := by
  have name {s : List Char} (h : readName m s = some (t, r)) : r.length ≤ s.length := by
    have := (List.dropWhile_sublist (· != '>') (l := s)).length_le
    unfold readName at h
    grind
  have flags {s : List Char} (h : readFlags m s = some (t, r)) : r.length ≤ s.length := by
    have := (List.dropWhile_sublist (fun c => c != ':' && c != ')') (l := s)).length_le
    unfold readFlags at h
    grind
  unfold readStart at h
  grind

end Group

end HostLog.Output.Pattern
