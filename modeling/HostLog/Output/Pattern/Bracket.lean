import HostLog.Output.Pattern.Escape

/-!
# Classes in brackets

A bracketed class lists characters, ranges and other classes, and may join such lists by operators.
`Bracket.read` passes over one and tells how deep its parts are nested, its height: a class is
higher by one than its lists, an operator than the higher of its sides, and a list of several items
than the highest of them.
-/

namespace HostLog.Output.Pattern

/-- The height of parts that follow each other. A single part stands for itself. -/
def joinedHeight : List Nat → Nat
  | [] => 0
  | [h] => h
  | hs => hs.foldl max 0 + 1

/-- An open class. -/
structure Bracket where
  /-- The heights of the items since the last operator. -/
  items : List Nat := []
  /-- The height of what the last operator has on its left. -/
  left : Option Nat := none
  /-- Whether only dashes have been read: further ones then stand for themselves. -/
  atStart : Bool := true

namespace Bracket

def add (b : Bracket) (height : Nat) : Bracket :=
  { b with items := height :: b.items, atStart := false }

/-- The height of what has been read. -/
def height (b : Bracket) : Nat :=
  match b.left with
  | none => joinedHeight b.items
  | some l => max l (joinedHeight b.items) + 1

/-- The names of classes, as they stand between `[:` and `:]`. -/
def classNames : List String :=
  ["alnum", "alpha", "ascii", "blank", "cntrl", "digit", "graph", "lower", "print", "punct",
    "space", "upper", "word", "xdigit"]

/-- What follows the name of a class, if `s` begins with one. -/
def afterName? (s : List Char) : Option (List Char) :=
  match s.dropWhile (· != ':') with
  | ':' :: ']' :: r =>
    if String.ofList (s.takeWhile (· != ':')) ∈ classNames then some r else none
  | _ => none

/-- Whether a class is named after its opening bracket: whether it is the complement of the one
named, and what follows it. -/
def named? : List Char → Option (Bool × List Char)
  | ':' :: '^' :: s => (afterName? s).map (true, ·)
  | ':' :: s => (afterName? s).map (false, ·)
  | _ => none

/-- A single character of a class, or one of a set of them. -/
def readItem (m : Mode) : List Char → Option (Option Nat × List Char)
  | [] => none
  | '\\' :: s =>
    match Escape.read m s with
    | some (.literal code, r) | some (.byte code, r) =>
      if m.hasMember code then some (some code, r) else none
    | some (.oneOf, r) => if m.unicode then none else some (none, r)
    | _ => none
  | c :: s => if m.hasMember c.toNat then some (some c.toNat, s) else none

/-- Whether the dash before `s` makes a range of the item before it: the class does not end after
it, nor is there another dash. Of a comment only the sign is passed over. -/
def isRange (m : Mode) (s : List Char) : Bool :=
  let next :=
    if m.spaced then
      match s.dropWhile Text.isBlank with
      | '#' :: r => r.dropWhile Text.isBlank
      | r => r
    else s
  next.head? != some ']' && next.head? != some '-'

/-- What follows an item, or a range of two. -/
def readRange (m : Mode) (s : List Char) : Option (List Char) :=
  match readItem m s with
  | none => none
  | some (low, r) =>
    match m.skip r with
    | '-' :: t =>
      if isRange m t then
        match low, readItem m (m.skip t) with
        | some low, some (some high, u) => if low ≤ high then some u else none
        | _, _ => none
      else some ('-' :: t)
    | t => some t

/-- A part of a class. -/
inductive Part where
  | item
  /-- A dash before all other items, which begins neither a range nor an operator. -/
  | leadingDash
  | opening
  | closing
  | operator
  deriving DecidableEq, Repr

/-- What follows the opening bracket of a class and its hat. -/
def readOpening (m : Mode) (s : List Char) : Option (List Char) :=
  match m.skip s with
  | '^' :: r => if m.unicode then some r else none
  | r => some r

/-- The next part of the class `b`. A closing bracket before all items is one of them. -/
def readPart (m : Mode) (b : Bracket) (s : List Char) : Option (Part × List Char) :=
  match s, b.atStart with
  | '-' :: r, true => if m.hasLiterals then some (.leadingDash, r) else none
  | ']' :: r, true =>
    if !b.items.isEmpty then some (.closing, r)
    else if m.hasLiterals then some (.item, r)
    else none
  | ']' :: r, false => some (.closing, r)
  | '&' :: '&' :: r, _ | '-' :: '-' :: r, _ | '~' :: '~' :: r, _ => some (.operator, r)
  | '[' :: r, _ =>
    match named? r with
    | some (negated, t) =>
      if m.hasLiterals && (m.unicode || !negated) then some (.item, t) else none
    | none =>
      match readOpening m r with
      | some t => some (.opening, t)
      | none => none
  | s, _ =>
    match readRange m s with
    | some t => some (.item, t)
    | none => none

theorem length_of_afterName? {s r : List Char} (h : afterName? s = some r) :
    r.length < s.length := by
  have := (List.dropWhile_sublist (· != ':') (l := s)).length_le
  unfold afterName? at h
  grind

theorem length_of_named? {s r : List Char} {negated : Bool} (h : named? s = some (negated, r)) :
    r.length < s.length := by
  have := @length_of_afterName?
  unfold named? at h
  split at h
  · simp only [Option.map_eq_some_iff] at h
    grind
  · simp only [Option.map_eq_some_iff] at h
    grind
  · cases h

theorem length_of_readItem {m : Mode} {s r : List Char} {code : Option Nat}
    (h : readItem m s = some (code, r)) : r.length < s.length := by
  unfold readItem at h
  have := @Escape.length_of_read m
  grind

theorem length_of_readRange {m : Mode} {s r : List Char} (h : readRange m s = some r) :
    r.length < s.length := by
  have := @length_of_readItem m
  have := m.length_skip_le
  unfold readRange at h
  grind

theorem length_of_readOpening {m : Mode} {s r : List Char} (h : readOpening m s = some r) :
    r.length ≤ s.length := by
  have := m.length_skip_le s
  unfold readOpening at h
  grind

theorem length_of_readPart {m : Mode} {b : Bracket} {s r : List Char} {p : Part}
    (h : readPart m b s = some (p, r)) : r.length < s.length := by
  have := @length_of_named?
  have := @length_of_readRange m
  have := @length_of_readOpening m
  unfold readPart at h
  grind

/-- What is left of `s` after the class `b` and those in `outer`, which are open around it, and the
height of the outermost. -/
def read (m : Mode) (outer : List Bracket) (b : Bracket) (s : List Char) :
    Option (Nat × List Char) :=
  match _h : readPart m b (m.skip s) with
  | none => none
  | some (.item, r) => read m outer (b.add 0) r
  | some (.leadingDash, r) => read m outer { b with items := 0 :: b.items } r
  | some (.operator, r) => read m outer { left := some b.height, atStart := false } r
  | some (.opening, r) => read m (b :: outer) {} r
  | some (.closing, r) =>
    match outer with
    | [] => some (b.height + 1, r)
    | o :: outer => read m outer (o.add (b.height + 1)) r
termination_by s.length
decreasing_by all_goals exact Nat.lt_of_lt_of_le (length_of_readPart _h) (m.length_skip_le s)

theorem length_of_read {m : Mode} {outer : List Bracket} {b : Bracket} {s r : List Char} {n : Nat}
    (h : read m outer b s = some (n, r)) : r.length < s.length := by
  have part {b : Bracket} {s r : List Char} {p : Part} (h : readPart m b (m.skip s) = some (p, r)) :
      r.length < s.length := Nat.lt_of_lt_of_le (length_of_readPart h) (m.length_skip_le s)
  fun_induction read m outer b s <;> grind

end Bracket

end HostLog.Output.Pattern
