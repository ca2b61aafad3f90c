import HostLog.Json.Numbers
import HostLog.Json.Space
import HostLog.Json.Strings

/-!
# Passing over values

`skip s` passes over one value of any kind and any depth, and refuses what is not a value. The
brackets still open are kept in a list, innermost first.
-/

namespace HostLog.Json

/-- A kind of bracket. -/
inductive Bracket where
  | list
  | object
  deriving DecidableEq, Repr

namespace Bracket

def close : Bracket → Char
  | list => ']'
  | object => '\x7d'

/-- Why reading stops where an item has ended and neither another one nor the closing bracket
follows. -/
def wantCommaOrClose : Bracket → Cause
  | list => .wantCommaOrBracket
  | object => .wantCommaOrBrace

/-- Why reading stops where the document ends before the closing bracket. -/
def endInside : Bracket → Cause
  | list => .endInList
  | object => .endInObject

end Bracket

/-- Passes over a value without brackets. -/
def skipScalar : List Char → Except Fault (List Char)
  | [] => .error (.before .endInValue [])
  | 'n' :: s => readName ['u', 'l', 'l'] s
  | 't' :: s => readName ['r', 'u', 'e'] s
  | 'f' :: s => readName ['a', 'l', 's', 'e'] s
  | '"' :: s => skipString s
  | '-' :: s => skipNumber s
  | c :: s => if c.isDigit then skipNumber (c :: s) else .error (.at .wantValue (c :: s))

/-- Passes over a key and its colon. -/
def skipKey (s : List Char) : Except Fault (List Char) :=
  match skipSpace s with
  | '"' :: r => do
    let r ← skipString r
    readColon r
  | [] => .error (.before .endInObject [])
  | r => .error (.at .keyNotString r)

theorem length_of_skipScalar {s rest : List Char} (h : skipScalar s = .ok rest) :
    rest.length < s.length := by
  unfold skipScalar at h
  split at h
  · cases h
  · have := length_of_readName h; simp only [List.length_cons]; omega
  · have := length_of_readName h; simp only [List.length_cons]; omega
  · have := length_of_readName h; simp only [List.length_cons]; omega
  · have := length_of_skipString h; simp only [List.length_cons]; omega
  · have := length_of_skipNumber h; simp only [List.length_cons]; omega
  · split at h
    · exact length_of_skipNumber h
    · cases h

theorem length_of_skipKey {s rest : List Char} (h : skipKey s = .ok rest) :
    rest.length < s.length := by
  unfold skipKey at h
  split at h
  · next r hr =>
    cases hk : skipString r with
    | error f => rw [hk] at h; cases h
    | ok r' =>
      rw [hk] at h
      have h1 := length_of_skipSpace hr
      have h2 := length_of_skipString hk
      have h3 := length_of_readColon (s := r') h
      omega
  · cases h
  · cases h

/-- Passes over a scalar, an empty list or an empty object; of any other list or object it passes
over what stands before the first value in it, and tells the bracket. -/
def openValue (s : List Char) : Except Fault (Option Bracket × List Char) :=
  match skipSpace s with
  | '[' :: r =>
    match skipSpace r with
    | [] => .error (.before .endInList [])
    | ']' :: rest => .ok (none, rest)
    | c :: rest => .ok (some .list, c :: rest)
  | '\x7b' :: r =>
    match skipSpace r with
    | [] => .error (.before .endInObject [])
    | '\x7d' :: rest => .ok (none, rest)
    | c :: rest => (skipKey (c :: rest)).map fun rest => (some .object, rest)
  | r => (skipScalar r).map fun rest => (none, rest)

/-- Passes over what stands between an item in bracket `b` and the next value in it, if there is
one; else over the closing bracket, with `false`. -/
def nextValue (b : Bracket) (s : List Char) : Except Fault (Bool × List Char) :=
  match skipSpace s with
  | [] => .error (.before b.endInside [])
  | c :: r =>
    if c = ',' then
      match b with
      | .list => .ok (true, r)
      | .object => (skipKey r).map fun rest => (true, rest)
    else if c = b.close then .ok (false, r)
    else .error (.at b.wantCommaOrClose (c :: r))

theorem length_of_openValue {s rest : List Char} {b : Option Bracket}
    (h : openValue s = .ok (b, rest)) : rest.length < s.length := by
  unfold openValue at h
  split at h
  · next r hr =>
    have h1 := length_of_skipSpace hr
    have h2 := length_skipSpace r
    split at h
    · cases h
    · next hr' => cases h; rw [hr', List.length_cons] at h2; omega
    · next hr' => cases h; rw [hr'] at h2; omega
  · next r hr =>
    have h1 := length_of_skipSpace hr
    have h2 := length_skipSpace r
    split at h
    · cases h
    · next hr' => cases h; rw [hr', List.length_cons] at h2; omega
    · next c r' _ hr' =>
      rw [hr'] at h2
      cases hk : skipKey (c :: r') with
      | error f => rw [hk] at h; cases h
      | ok r'' =>
        rw [hk] at h; cases h
        have h3 := length_of_skipKey hk
        omega
  · have h1 := length_skipSpace s
    cases hk : skipScalar (skipSpace s) with
    | error f => rw [hk] at h; cases h
    | ok r' =>
      rw [hk] at h; cases h
      have h2 := length_of_skipScalar hk
      omega

theorem length_of_nextValue {b : Bracket} {s rest : List Char} {more : Bool}
    (h : nextValue b s = .ok (more, rest)) : rest.length < s.length := by
  unfold nextValue at h
  split at h
  · cases h
  · next c r hr =>
    have h1 := length_of_skipSpace hr
    split at h
    · split at h
      · cases h; exact h1
      · cases hk : skipKey r with
        | error f => rw [hk] at h; cases h
        | ok r' =>
          rw [hk] at h; cases h
          have h2 := length_of_skipKey hk
          omega
    · split at h <;> cases h; exact h1

mutual

/-- Passes over a value inside the brackets `stack`, and over what follows it up to the end of the
outermost of them. -/
def skipValue (stack : List Bracket) (s : List Char) : Except Fault (List Char) :=
  match h : openValue s with
  | .error f => .error f
  | .ok (none, rest) =>
    have := length_of_openValue h
    skipRest stack rest
  | .ok (some b, rest) =>
    have := length_of_openValue h
    skipValue (b :: stack) rest
termination_by s.length

/-- Passes over what follows an item inside the brackets `stack`, up to the end of the outermost of
them. -/
def skipRest (stack : List Bracket) (s : List Char) : Except Fault (List Char) :=
  match stack with
  | [] => .ok s
  | b :: outer =>
    match h : nextValue b s with
    | .error f => .error f
    | .ok (true, rest) =>
      have := length_of_nextValue h
      skipValue (b :: outer) rest
    | .ok (false, rest) =>
      have := length_of_nextValue h
      skipRest outer rest
termination_by s.length

end

/-- Passes over one value. -/
def skip (s : List Char) : Except Fault (List Char) := skipValue [] s

theorem length_of_skipValue_skipRest (n : Nat) (stack : List Bracket) (s rest : List Char)
    (hn : s.length ≤ n) :
    (skipValue stack s = .ok rest → rest.length < s.length) ∧
      (skipRest stack s = .ok rest → rest.length ≤ s.length) := by
  induction n generalizing stack s with
  | zero =>
    refine ⟨fun h => ?_, fun h => ?_⟩
    · rw [skipValue] at h
      split at h
      · cases h
      · next ho => have := length_of_openValue ho; omega
      · next ho => have := length_of_openValue ho; omega
    · rw [skipRest.eq_def] at h
      split at h
      · cases h; exact Nat.le_refl _
      · split at h
        · cases h
        · next hv => have := length_of_nextValue hv; omega
        · next hv => have := length_of_nextValue hv; omega
  | succ n ih =>
    refine ⟨fun h => ?_, fun h => ?_⟩
    · rw [skipValue] at h
      split at h
      · cases h
      · next ho =>
        have h1 := length_of_openValue ho
        have h2 := (ih _ _ (by omega)).2 h
        omega
      · next ho =>
        have h1 := length_of_openValue ho
        have h2 := (ih _ _ (by omega)).1 h
        omega
    · rw [skipRest.eq_def] at h
      split at h
      · cases h; exact Nat.le_refl _
      · split at h
        · cases h
        · next hv =>
          have h1 := length_of_nextValue hv
          have h2 := (ih _ _ (by omega)).1 h
          omega
        · next hv =>
          have h1 := length_of_nextValue hv
          have h2 := (ih _ _ (by omega)).2 h
          omega

theorem length_of_skip {s rest : List Char} (h : skip s = .ok rest) : rest.length < s.length :=
  (length_of_skipValue_skipRest s.length [] s rest (Nat.le_refl _)).1 h

end HostLog.Json
