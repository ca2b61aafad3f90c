import HostLog.Json.Fault

/-!
# Strings of a JSON document, and written documents

`writeString` puts a text between quotes; `readString` is the way back and starts after the opening
quote. Reading also understands the escapes that writing never uses: `\/`, and `\u` with four
hexadecimal digits for any character, two of them in a row for one beyond U+FFFF. `skipString`
passes over a string without asking whether its surrogates are in pairs. Lists, objects and other
scalars are written with no space anywhere, and members in the order given.
-/

namespace HostLog.Json

/-- The character that the escape `\e` stands for, `\u` apart. -/
def shortEscape? (e : Char) : Option Char :=
  match e with
  | '"' => some '"'
  | '\\' => some '\\'
  | '/' => some '/'
  | 'b' => some '\x08'
  | 'f' => some '\x0c'
  | 'n' => some '\n'
  | 'r' => some '\r'
  | 't' => some '\t'
  | _ => none

/-- The value of a hexadecimal digit of either case. -/
def hexDigit? (c : Char) : Option Nat :=
  if '0' ≤ c ∧ c ≤ '9' then some (c.toNat - '0'.toNat)
  else if 'a' ≤ c ∧ c ≤ 'f' then some (c.toNat - 'a'.toNat + 10)
  else if 'A' ≤ c ∧ c ≤ 'F' then some (c.toNat - 'A'.toNat + 10)
  else none

/-- Four hexadecimal digits, as the number they write. -/
def hexUnit? : List Char → Option (Nat × List Char)
  | a :: b :: c :: d :: rest => do
    let a ← hexDigit? a
    let b ← hexDigit? b
    let c ← hexDigit? c
    let d ← hexDigit? d
    some (((a * 16 + b) * 16 + c) * 16 + d, rest)
  | _ => none

/-- Reads what follows `\u`. Four bytes are looked at whatever they are. -/
def readUnit (s : List Char) : Except Fault (Nat × List Char) :=
  match hexUnit? s with
  | some r => .ok r
  | none =>
    if Text.byteCount s < 4 then .error (.before .endInString [])
    else .error ⟨.badEscape, Text.byteCount s - 4⟩

def isLeadSurrogate (n : Nat) : Bool := 0xD800 ≤ n && n ≤ 0xDBFF

def isTrailSurrogate (n : Nat) : Bool := 0xDC00 ≤ n && n ≤ 0xDFFF

/-- The character of a pair of surrogates. -/
def ofSurrogates (lead trail : Nat) : Char :=
  Char.ofNat (0x10000 + (lead - 0xD800) * 0x400 + (trail - 0xDC00))

/-- Reads the second escape of a pair after the surrogate `lead`. -/
def readTrail (lead : Nat) : List Char → Except Fault (Char × List Char)
  | '\\' :: 'u' :: s => do
    let (n, rest) ← readUnit s
    if isTrailSurrogate n then .ok (ofSurrogates lead n, rest)
    else .error (.before .loneSurrogate rest)
  | [] | ['\\'] => .error (.before .endInString [])
  | '\\' :: s | s => .error (.at .surrogateNotFollowed s)

/-- Reads what follows a backslash, as the character it stands for. -/
def readEscape : List Char → Except Fault (Char × List Char)
  | [] => .error (.before .endInString [])
  | 'u' :: s => do
    let (n, rest) ← readUnit s
    if isTrailSurrogate n then .error (.before .loneSurrogate rest)
    else if isLeadSurrogate n then readTrail n rest
    else .ok (Char.ofNat n, rest)
  | e :: s =>
    match shortEscape? e with
    | some c => .ok (c, s)
    | none => .error (.at .badEscape (e :: s))

/-- Passes over what follows a backslash. -/
def skipEscape : List Char → Except Fault (List Char)
  | [] => .error (.before .endInString [])
  | 'u' :: s => (readUnit s).map Prod.snd
  | e :: s => if (shortEscape? e).isSome then .ok s else .error (.at .badEscape (e :: s))

theorem length_of_hexUnit? {s rest : List Char} {n : Nat} (h : hexUnit? s = some (n, rest)) :
    rest.length < s.length := by
  unfold hexUnit? at h
  split at h
  · simp only [Option.bind_eq_bind, Option.bind_eq_some_iff, Option.some.injEq, Prod.mk.injEq] at h
    obtain ⟨_, _, _, _, _, _, _, _, _, rfl⟩ := h
    simp only [List.length_cons]; omega
  · exact absurd h (by simp)

theorem length_of_readUnit {s rest : List Char} {n : Nat} (h : readUnit s = .ok (n, rest)) :
    rest.length < s.length := by
  unfold readUnit at h
  split at h
  · next r hr => cases h; exact length_of_hexUnit? hr
  · split at h <;> cases h

theorem length_of_readTrail {s rest : List Char} {lead : Nat} {c : Char}
    (h : readTrail lead s = .ok (c, rest)) : rest.length < s.length := by
  unfold readTrail at h
  split at h
  · next s =>
    cases hu : readUnit s with
    | error f => rw [hu] at h; cases h
    | ok p =>
      obtain ⟨n, r⟩ := p
      rw [hu] at h
      have hlt := length_of_readUnit hu
      cases ht : isTrailSurrogate n <;>
        simp [bind, Except.bind, ht] at h
      obtain ⟨-, rfl⟩ := h
      simp only [List.length_cons]; omega
  all_goals cases h

theorem length_of_readEscape {s rest : List Char} {c : Char} (h : readEscape s = .ok (c, rest)) :
    rest.length < s.length := by
  unfold readEscape at h
  split at h
  · cases h
  · next s =>
    cases hu : readUnit s with
    | error f => rw [hu] at h; cases h
    | ok p =>
      obtain ⟨n, r⟩ := p
      rw [hu] at h
      have hlt := length_of_readUnit hu
      cases ht : isTrailSurrogate n <;> cases hl : isLeadSurrogate n <;>
        simp [bind, Except.bind, ht, hl] at h
      · obtain ⟨-, rfl⟩ := h; simp only [List.length_cons]; omega
      · have := length_of_readTrail h; simp only [List.length_cons]; omega
  · split at h
    · cases h; simp
    · cases h

theorem length_of_skipEscape {s rest : List Char} (h : skipEscape s = .ok rest) :
    rest.length < s.length := by
  unfold skipEscape at h
  split at h
  · cases h
  · next s =>
    cases hu : readUnit s with
    | error f => rw [hu] at h; cases h
    | ok p =>
      obtain ⟨n, r⟩ := p
      rw [hu] at h
      cases h
      have := length_of_readUnit hu
      simp only [List.length_cons]; omega
  · split at h
    · cases h; simp
    · cases h

/-- Reads a string after its opening quote, up to and with the closing one. -/
def readString (s : List Char) : Except Fault (List Char × List Char) :=
  match s with
  | [] => .error (.before .endInString [])
  | '"' :: rest => .ok ([], rest)
  | '\\' :: r =>
    match h : readEscape r with
    | .error f => .error f
    | .ok (c, r') =>
      have := length_of_readEscape h
      (readString r').map fun (cs, rest) => (c :: cs, rest)
  | c :: r =>
    if c < ' ' then .error (.at .rawControl (c :: r))
    else (readString r).map fun (cs, rest) => (c :: cs, rest)
termination_by s.length
decreasing_by all_goals (simp only [List.length_cons]; omega)

/-- Passes over a string after its opening quote. A control character in it is where reading
stops, and is not counted as read. -/
def skipString (s : List Char) : Except Fault (List Char) :=
  match s with
  | [] => .error (.before .endInString [])
  | '"' :: rest => .ok rest
  | '\\' :: r =>
    match h : skipEscape r with
    | .error f => .error f
    | .ok r' =>
      have := length_of_skipEscape h
      skipString r'
  | c :: r => if c < ' ' then .error (.before .rawControl (c :: r)) else skipString r
termination_by s.length
decreasing_by all_goals (simp only [List.length_cons]; omega)

theorem length_of_readString {s cs rest : List Char} (h : readString s = .ok (cs, rest)) :
    rest.length < s.length := by
  fun_induction readString s generalizing cs rest with
  | case1 => cases h
  | case2 r => cases h; simp
  | case3 r f hf => cases h
  | case4 r c r' he hlt ih =>
    cases hr : readString r' with
    | error f => rw [hr] at h; cases h
    | ok p =>
      obtain ⟨cs', rest'⟩ := p
      rw [hr] at h; cases h
      have := ih hr
      simp only [List.length_cons]; omega
  | case5 => cases h
  | case6 c r h1 h2 h3 ih =>
    cases hr : readString r with
    | error f => rw [hr] at h; cases h
    | ok p =>
      obtain ⟨cs', rest'⟩ := p
      rw [hr] at h; cases h
      have := ih hr
      simp only [List.length_cons]; omega

theorem length_of_skipString {s rest : List Char} (h : skipString s = .ok rest) :
    rest.length < s.length := by
  fun_induction skipString s generalizing rest with
  | case1 => cases h
  | case2 r => cases h; simp
  | case3 r f hf => cases h
  | case4 r r' he hlt ih => have := ih h; simp only [List.length_cons]; omega
  | case5 => cases h
  | case6 c r h1 h2 h3 ih => have := ih h; simp only [List.length_cons]; omega

/-! ### Writing -/

/-- How a character stands in a written string: as itself, unless it is a quote, a backslash or a
control of ASCII below the space. -/
def escapeChar (c : Char) : List Char :=
  if c = '"' then ['\\', '"']
  else if c = '\\' then ['\\', '\\']
  else if c = '\x08' then ['\\', 'b']
  else if c = '\x0c' then ['\\', 'f']
  else if c = '\n' then ['\\', 'n']
  else if c = '\r' then ['\\', 'r']
  else if c = '\t' then ['\\', 't']
  else if c < ' ' then
    ['\\', 'u', '0', '0', Nat.digitChar (c.toNat / 16), Nat.digitChar (c.toNat % 16)]
  else [c]

/-- The string of `s` in a document. -/
def writeString (s : String) : String :=
  String.ofList ('"' :: (s.toList.flatMap escapeChar ++ ['"']))

def writeNatural (n : UInt64) : String := toString n

def writeTruth (b : Bool) : String := if b then "true" else "false"

/-- A list of values, each already written. -/
def writeList (values : List String) : String := "[" ++ String.intercalate "," values ++ "]"

/-- An object of keys and values, each value already written. -/
def writeObject (members : List (String × String)) : String :=
  "\x7b" ++ String.intercalate "," (members.map fun (k, v) => writeString k ++ ":" ++ v) ++ "\x7d"

end HostLog.Json
