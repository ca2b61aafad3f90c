import HostLog.Json.Fault

/-!
# Space, names and separators of a JSON document

The small parts between the values: `skipSpace` passes over white space, `readName` over the rest of
`null`, `true` or `false`, `readColon` over the colon of a member; `nextElement` and `nextKey` come
to the next item of a list or object and tell whether there is one.
-/

namespace HostLog.Json

/-- The four characters that may stand between tokens. -/
def isSpace (c : Char) : Bool := c == ' ' || c == '\n' || c == '\t' || c == '\r'

def skipSpace (s : List Char) : List Char := s.dropWhile isSpace

/-- Passes over the letters `name`. -/
def readName : List Char → List Char → Except Fault (List Char)
  | [], s => .ok s
  | _ :: _, [] => .error (.before .endInValue [])
  | c :: cs, x :: s => if x = c then readName cs s else .error (.at .wantName (x :: s))

/-- Passes over the colon between a key and its value. -/
def readColon (s : List Char) : Except Fault (List Char) :=
  match skipSpace s with
  | ':' :: rest => .ok rest
  | [] => .error (.before .endInObject [])
  | rest => .error (.at .wantColon rest)

/-- Comes to the next element of a list, given whether it would be the first one. With `false` there
is none, and the closing bracket is next. -/
def nextElement (first : Bool) (s : List Char) : Except Fault (Bool × List Char) :=
  match skipSpace s with
  | [] => .error (.before .endInList [])
  | ']' :: rest => .ok (false, ']' :: rest)
  | c :: rest =>
    if first then .ok (true, c :: rest)
    else if c = ',' then
      match skipSpace rest with
      | [] => .error (.before .endInValue [])
      | ']' :: r => .error (.at .trailingComma (']' :: r))
      | r => .ok (true, r)
    else .error (.at .wantCommaOrBracket (c :: rest))

/-- Comes to the next key of an object, given whether it would be the first one, and past its
opening quote. With `false` there is none, and the closing brace is next. -/
def nextKey (first : Bool) (s : List Char) : Except Fault (Bool × List Char) :=
  match skipSpace s with
  | [] => .error (.before .endInObject [])
  | '\x7d' :: rest => .ok (false, '\x7d' :: rest)
  | c :: rest =>
    if first then
      if c = '"' then .ok (true, rest) else .error (.at .keyNotString (c :: rest))
    else if c = ',' then
      match skipSpace rest with
      | [] => .error (.before .endInValue [])
      | '"' :: r => .ok (true, r)
      | '\x7d' :: r => .error (.at .trailingComma ('\x7d' :: r))
      | r => .error (.at .keyNotString r)
    else .error (.at .wantCommaOrBrace (c :: rest))

/-- Passes over the end of a list in which no further element is wanted. -/
def endList (s : List Char) : Except Fault (List Char) :=
  match skipSpace s with
  | ']' :: rest => .ok rest
  | [] => .error (.before .endInList [])
  | ',' :: rest =>
    match skipSpace rest with
    | ']' :: r => .error (.at .trailingComma (']' :: r))
    | r => .error (.at .trailingCharacters r)
  | rest => .error (.at .trailingCharacters rest)

/-- Where an object is left of which no more is read: after its closing brace if that is next. -/
def leaveObject (s : List Char) : List Char :=
  match skipSpace s with
  | '\x7d' :: rest => rest
  | rest => rest

theorem length_skipSpace (s : List Char) : (skipSpace s).length ≤ s.length :=
  (List.dropWhile_suffix isSpace).length_le

theorem length_of_skipSpace {s r : List Char} {c : Char} (h : skipSpace s = c :: r) :
    r.length < s.length := by
  have := length_skipSpace s
  rw [h] at this
  simp only [List.length_cons] at this
  omega

theorem length_of_readName {name s rest : List Char} (h : readName name s = .ok rest) :
    rest.length ≤ s.length := by
  induction name generalizing s with
  | nil => cases h; exact Nat.le_refl _
  | cons c cs ih =>
    cases s with
    | nil => cases h
    | cons x s =>
      unfold readName at h
      split at h
      · have := ih h; simp only [List.length_cons]; omega
      · cases h

theorem length_of_readColon {s rest : List Char} (h : readColon s = .ok rest) :
    rest.length < s.length := by
  unfold readColon at h
  split at h
  · next hs => cases h; exact length_of_skipSpace hs
  · cases h
  · cases h

theorem length_of_nextElement {first b : Bool} {s rest : List Char}
    (h : nextElement first s = .ok (b, rest)) : rest.length ≤ s.length := by
  have hs := length_skipSpace s
  unfold nextElement at h
  split at h
  · cases h
  · next r hr => cases h; rw [hr] at hs; exact hs
  · next c r hne hr =>
    rw [hr] at hs
    have hr' := length_skipSpace r
    simp only [List.length_cons] at hs
    split at h
    · cases h; exact hs
    · split at h
      · split at h <;> cases h; omega
      · cases h

theorem length_of_nextKey {first b : Bool} {s rest : List Char}
    (h : nextKey first s = .ok (b, rest)) :
    (b = true → rest.length < s.length) ∧ rest.length ≤ s.length := by
  have hs := length_skipSpace s
  unfold nextKey at h
  split at h
  · cases h
  · next r hr => cases h; rw [hr] at hs; exact ⟨nofun, hs⟩
  · next c r hne hr =>
    rw [hr] at hs
    have hr' := length_skipSpace r
    simp only [List.length_cons] at hs
    split at h
    · split at h
      · cases h; exact ⟨fun _ => by omega, by omega⟩
      · cases h
    · split at h
      · split at h
        · cases h
        · next q hq =>
          rw [hq] at hr'
          simp only [List.length_cons] at hr'
          cases h; exact ⟨fun _ => by omega, by omega⟩
        · cases h
        · cases h
      · cases h

theorem length_of_endList {s rest : List Char} (h : endList s = .ok rest) :
    rest.length < s.length := by
  unfold endList at h
  split at h
  · next hs => cases h; exact length_of_skipSpace hs
  · cases h
  · split at h <;> cases h
  · cases h

end HostLog.Json
