import HostLog.Json.Strings
import HostLog.Output.Pattern.Mode

/-!
# Escapes of a pattern

A backslash takes the meaning from a sign and gives one to a letter. `Escape.read` refuses also the
letters for what can never be searched for: properties of characters, which take tables, and the
complements of classes, which take them too or else break up characters.
-/

namespace HostLog.Output.Pattern

/-- What a backslash and the characters after it stand for. -/
inductive Escape where
  /-- The character of this code point. -/
  | literal (code : Nat)
  /-- A character again, or a byte where the pattern speaks of bytes. -/
  | byte (code : Nat)
  /-- A digit, a blank or a character of a word. -/
  | oneOf
  /-- The beginning or the end of the text. -/
  | anchor
  /-- The edge of a word, or a place that is none. -/
  | wordEdge
  deriving DecidableEq, Repr

/-- The number that `n` hexadecimal digits write after others with the value `v`. -/
def readHex (m : Mode) : (n v : Nat) → List Char → Option (Nat × List Char)
  | 0, v, s => some (v, s)
  | n + 1, v, s =>
    match m.skip s with
    | [] => none
    | c :: r =>
      match Json.hexDigit? c with
      | none => none
      | some d => readHex m n (16 * v + d) r

theorem length_of_readHex {m : Mode} {n v w : Nat} {s r : List Char}
    (h : readHex m n v s = some (w, r)) : r.length ≤ s.length := by
  induction n generalizing v s with
  | zero => grind [readHex]
  | succ n ih =>
    have := m.length_skip_le s
    grind [readHex]

namespace Escape

/-- The escape for the character that `n` hexadecimal digits write. -/
def readCode (m : Mode) (n : Nat) (f : Nat → Escape) (s : List Char) :
    Option (Escape × List Char) :=
  match readHex m n 0 s with
  | none => none
  | some (code, r) => if code.isValidChar then some (f code, r) else none

/-- What stands after a backslash. -/
def read (m : Mode) : List Char → Option (Escape × List Char)
  | [] => none
  | 'x' :: s => readCode m 2 .byte s
  | 'u' :: s => readCode m 4 .literal s
  | 'U' :: s => readCode m 8 .literal s
  | 'a' :: s => some (.literal 7, s)
  | 't' :: s => some (.literal 9, s)
  | 'n' :: s => some (.literal 10, s)
  | 'v' :: s => some (.literal 11, s)
  | 'f' :: s => some (.literal 12, s)
  | 'r' :: s => some (.literal 13, s)
  | c :: s =>
    if "dsw".toList.contains c then some (.oneOf, s)
    else if "Az".toList.contains c then some (.anchor, s)
    else if "bB<>".toList.contains c then some (.wordEdge, s)
    else if c.toNat < 0x80 && !c.isAlphanum then some (.literal c.toNat, s)
    else none

theorem length_of_read {m : Mode} {s r : List Char} {e : Escape}
    (h : read m s = some (e, r)) : r.length < s.length := by
  have code {n : Nat} {f : Nat → Escape} {t : List Char} (h : readCode m n f t = some (e, r)) :
      r.length ≤ t.length := by
    unfold readCode at h
    split at h
    · cases h
    · rename_i hr
      have := length_of_readHex hr
      grind
  unfold read at h
  grind

/-- Whether the escape can be searched for by itself. The edges of words are not found among
characters, and a byte that is no character is not found at all. -/
def isSearchable (m : Mode) : Escape → Bool
  | literal _ => m.hasLiterals
  | byte code => m.hasLiterals && (m.unicode || code < 0x80)
  | oneOf | wordEdge => !m.unicode
  | anchor => true

end Escape

end HostLog.Output.Pattern
