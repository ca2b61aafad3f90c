import HostLog.Text.Basic

/-!
# Modes of a pattern

The flags in a pattern say how what follows them is read. Three of them bear on whether it can be
searched for: `u`, `i` and `x`. The search has no tables of characters: which of them are digits or
letters, and which differ in case only, it knows of bytes alone.
-/

namespace HostLog.Output.Pattern

/-- How a part of a pattern is read. -/
structure Mode where
  /-- The flag `u`: the pattern speaks of characters, else of bytes. -/
  unicode : Bool := true
  /-- The flag `i`: letters stand for both of their cases. -/
  anyCase : Bool := false
  /-- The flag `x`: white space and comments may stand between the parts. -/
  spaced : Bool := false
  deriving DecidableEq, Repr

/-- `s` without the white space and the comments at its beginning. A comment begins with a number
sign and ends with the line. -/
def skipSpace (inComment : Bool) : List Char → List Char
  | [] => []
  | c :: s =>
    if inComment then skipSpace (c != '\n') s
    else if c = '#' then skipSpace true s
    else if Text.isBlank c then skipSpace false s
    else c :: s

theorem length_skipSpace_le (inComment : Bool) (s : List Char) :
    (skipSpace inComment s).length ≤ s.length := by
  induction s generalizing inComment with
  | nil => exact Nat.le_refl _
  | cons c s ih =>
    rw [skipSpace]
    split
    · exact Nat.le_succ_of_le (ih _)
    · split
      · exact Nat.le_succ_of_le (ih _)
      · split
        · exact Nat.le_succ_of_le (ih _)
        · exact Nat.le_refl _

namespace Mode

/-- `s` from its next part on. -/
def skip (m : Mode) (s : List Char) : List Char :=
  if m.spaced then skipSpace false s else s

theorem length_skip_le (m : Mode) (s : List Char) : (m.skip s).length ≤ s.length := by
  unfold skip
  split
  · exact length_skipSpace_le _ _
  · exact Nat.le_refl _

/-- The mode after the flags `fs`: each at most once, and behind a dash those that are taken
back. -/
def set? (m : Mode) (fs : List Char) : Option Mode :=
  let on := fs.takeWhile (· != '-')
  let isSet (flag : Char) (before : Bool) : Bool :=
    if fs.contains flag then on.contains flag else before
  if fs.all "imsUuRx-".toList.contains && fs.Nodup && fs.getLast? != some '-' then
    some ⟨isSet 'u' m.unicode, isSet 'i' m.anyCase, isSet 'x' m.spaced⟩
  else none

/-- Whether a single character can be searched for: in any case it can only among the bytes. -/
def hasLiterals (m : Mode) : Bool := !(m.unicode && m.anyCase)

/-- Whether the character of this code point can be searched for as one of a set: a set of bytes
holds no parts of characters. -/
def hasMember (m : Mode) (code : Nat) : Bool :=
  if m.unicode then !m.anyCase else code < 0x80

end Mode

end HostLog.Output.Pattern
