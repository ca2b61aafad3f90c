import HostLog.Output.Pattern.Group

/-!
# Patterns of field values

What a directive may ask of a field's value: a number, or a regular expression. Diagnostics are
never matched against one, so only the question which texts are patterns is settled here
(`Pattern.isValid`): those that can be searched for and are not nested too deeply. A pattern stands
between braces and cannot hold a closing one, so an opening brace begins nothing that could be
completed.
-/

namespace HostLog.Output.Pattern

/-- A part of a regular expression. -/
inductive Part where
  | item (height : Nat)
  | start (s : Group.Start)
  /-- The end of a group. -/
  | closing
  /-- The beginning of another branch. -/
  | bar
  | repetition
  deriving DecidableEq, Repr

/-- The part that begins with `c`, if it can be searched for, and what is left of `s`. -/
def readPart (m : Mode) (c : Char) (s : List Char) : Option (Part × List Char) :=
  match c with
  | '(' =>
    match Group.readStart m (m.skip s) with
    | some (t, r) => some (.start t, r)
    | none => none
  | ')' => some (.closing, s)
  | '|' => some (.bar, s)
  | '[' =>
    match Bracket.readOpening m s with
    | none => none
    | some t =>
      match Bracket.read m [] {} t with
      | some (h, r) => some (.item h, r)
      | none => none
  | '\\' =>
    match Escape.read m s with
    | some (e, r) => if e.isSearchable m then some (.item 0, r) else none
    | none => none
  | '*' | '+' | '?' => some (.repetition, if s.head? = some '?' then s.tail else s)
  | '.' => if m.unicode then some (.item 0, s) else none
  | '^' | '$' => some (.item 0, s)
  | '\x7b' => none
  | _ => if m.hasLiterals then some (.item 0, s) else none

theorem length_of_readPart {m : Mode} {c : Char} {s r : List Char} {p : Part}
    (h : readPart m c s = some (p, r)) : r.length ≤ s.length := by
  have := m.length_skip_le s
  have := @Group.length_of_readStart m
  have := @Bracket.length_of_readOpening m
  have := @Bracket.length_of_read m
  have := @Escape.length_of_read m
  unfold readPart at h
  grind

/-- The greatest height of a regular expression. -/
def maxHeight : Nat := 250

/-- Whether `s` completes a regular expression of which the group `g` and those in `outer` around it
are open, and `names` are taken. -/
def completes (names : List (List Char)) (outer : List Group) (g : Group) (s : List Char) : Bool :=
  match _hs : g.mode.skip s with
  | [] => outer.isEmpty && g.height ≤ maxHeight
  | c :: t =>
    match _hp : readPart g.mode c t with
    | none => false
    | some (.item h, r) => completes names outer (g.add h) r
    | some (.start (.flags m), r) => completes names outer (g.setMode m) r
    | some (.start (.group m none), r) => completes names (g :: outer) { mode := m } r
    | some (.start (.group m (some name)), r) =>
      !names.contains name && completes (name :: names) (g :: outer) { mode := m } r
    | some (.closing, r) =>
      match outer with
      | [] => false
      | o :: outer => completes names outer (o.add (g.height + 1)) r
    | some (.bar, r) => completes names outer g.branch r
    | some (.repetition, r) =>
      match g.repeatLast? with
      | some g' => completes names outer g' r
      | none => false
termination_by s.length
decreasing_by
  all_goals
    have := g.mode.length_skip_le s
    have := congrArg List.length _hs
    have := length_of_readPart _hp
    grind

/-- The end of a number: an exponent or nothing. -/
def isExponent : List Char → Bool
  | [] => true
  | 'e' :: s | 'E' :: s =>
    let ds := if s.head? = some '+' ∨ s.head? = some '-' then s.tail else s
    !ds.isEmpty && ds.all Char.isDigit
  | _ => false

/-- A number without its sign. -/
def isNumber (s : List Char) : Bool :=
  let whole := s.takeWhile Char.isDigit
  let rest := s.dropWhile Char.isDigit
  let fraction := if rest.head? = some '.' then rest.tail.takeWhile Char.isDigit else []
  let rest := if rest.head? = some '.' then rest.tail.dropWhile Char.isDigit else rest
  String.ofList (s.map Char.toLower) ∈ ["inf", "infinity", "nan"] ||
    !(whole ++ fraction).isEmpty && isExponent rest

/-- Whether a text without closing braces is a pattern. Of numbers only those with a plus sign are
not regular expressions too. -/
def isValid (s : List Char) : Bool :=
  completes [] [] { mode := {} } s || s.head? == some '+' && isNumber s.tail

end HostLog.Output.Pattern
