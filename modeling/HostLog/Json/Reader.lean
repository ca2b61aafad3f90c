import HostLog.Json.Skip

/-!
# Readers of typed values

A `Reader α` takes one value of a document as an `α`, from left to right: the first problem it meets
is the one it reports. It always takes at least one character, which is what lets lists and records
be read by readers of their parts. `decode` reads a whole document.
-/

namespace HostLog.Json

/-- Reads one value and gives back what follows it. -/
structure Reader (α : Type) where
  read : List Char → Except Fault (α × List Char)
  /-- A value takes at least one character. -/
  shrinks : ∀ {s : List Char} {a : α} {rest : List Char},
    read s = .ok (a, rest) → rest.length < s.length

/-- The scalar at the beginning of `s`, read to its end, or the bracket there, not yet passed. -/
def identify : List Char → Except Fault (Found × List Char)
  | 'n' :: s => (readName ['u', 'l', 'l'] s).map fun rest => (.null, rest)
  | 't' :: s => (readName ['r', 'u', 'e'] s).map fun rest => (.truth true, rest)
  | 'f' :: s => (readName ['a', 'l', 's', 'e'] s).map fun rest => (.truth false, rest)
  | '"' :: s => (readString s).map fun (cs, rest) => (.text (String.ofList cs), rest)
  | '[' :: s => .ok (.sequence, '[' :: s)
  | '\x7b' :: s => .ok (.map, '\x7b' :: s)
  | '-' :: s => (readNumber true s).map fun (n, rest) => (ofNumber n, rest)
  | c :: s =>
    if c.isDigit then (readNumber false (c :: s)).map fun (n, rest) => (ofNumber n, rest)
    else .error (.at .wantValue (c :: s))
  | [] => .error (.before .wantValue [])
where
  /-- A number as something found. -/
  ofNumber : Number → Found
    | .integer n => .integer n
    | .real negative x => .real negative x

/-- Why the value at the beginning of `s` is refused where another kind is wanted. -/
def mismatch (wanted : String) (s : List Char) : Fault :=
  match identify s with
  | .error f => f
  | .ok (found, rest) => .before (.wrongType found wanted) rest

/-- Comes to a value that has to be there. -/
def startValue (s : List Char) : Except Fault (List Char) :=
  match skipSpace s with
  | [] => .error (.before .endInValue [])
  | r => .ok r

def readText (s : List Char) : Except Fault (String × List Char) := do
  match ← startValue s with
  | '"' :: r => (readString r).map fun (cs, rest) => (String.ofList cs, rest)
  | r => .error (mismatch "a string" r)

/-- The natural number below `2 ^ 64` that `n` is. -/
def natural (n : Number) (rest : List Char) : Except Fault (UInt64 × List Char) :=
  match n with
  | .integer n =>
    if 0 ≤ n then .ok (UInt64.ofNat n.toNat, rest) else .error (.before (.wrongValue n "u64") rest)
  | .real negative x => .error (.before (.wrongType (.real negative x) "u64") rest)

def readNatural (s : List Char) : Except Fault (UInt64 × List Char) := do
  match ← startValue s with
  | '-' :: r => do
    let (n, rest) ← readNumber true r
    natural n rest
  | c :: r =>
    if c.isDigit then do
      let (n, rest) ← readNumber false (c :: r)
      natural n rest
    else .error (mismatch "u64" (c :: r))
  | [] => .error (mismatch "u64" [])

def readTruth (s : List Char) : Except Fault (Bool × List Char) := do
  match ← startValue s with
  | 't' :: r => (readName ['r', 'u', 'e'] r).map fun rest => (true, rest)
  | 'f' :: r => (readName ['a', 'l', 's', 'e'] r).map fun rest => (false, rest)
  | r => .error (mismatch "a boolean" r)

def readNull (s : List Char) : Except Fault (Unit × List Char) := do
  match ← startValue s with
  | 'n' :: r => (readName ['u', 'l', 'l'] r).map fun rest => ((), rest)
  | r => .error (mismatch "unit" r)

theorem length_of_startValue {s r : List Char} (h : startValue s = .ok r) :
    r.length ≤ s.length := by
  unfold startValue at h
  split at h
  · cases h
  · cases h; exact length_skipSpace s

theorem length_of_readText {s rest : List Char} {a : String} (h : readText s = .ok (a, rest)) :
    rest.length < s.length := by
  obtain ⟨r, hr, h⟩ := exists_of_bind_eq_ok h
  have h1 := length_of_startValue hr
  split at h
  · obtain ⟨⟨cs, r'⟩, hp, h⟩ := exists_of_map_eq_ok h
    cases h
    have h2 := length_of_readString hp
    simp only [List.length_cons] at h1
    omega
  · cases h

theorem rest_of_natural {n : Number} {r rest : List Char} {a : UInt64}
    (h : natural n r = .ok (a, rest)) : rest = r := by
  unfold natural at h
  split at h
  · split at h <;> cases h; rfl
  · cases h

theorem length_of_readNatural {s rest : List Char} {a : UInt64}
    (h : readNatural s = .ok (a, rest)) : rest.length < s.length := by
  obtain ⟨r, hr, h⟩ := exists_of_bind_eq_ok h
  have h1 := length_of_startValue hr
  split at h
  · obtain ⟨⟨n, r'⟩, hp, h⟩ := exists_of_bind_eq_ok h
    have h2 := length_of_readNumber hp
    have h3 := congrArg List.length (rest_of_natural h)
    simp only [List.length_cons] at h1
    omega
  · split at h
    · obtain ⟨⟨n, r'⟩, hp, h⟩ := exists_of_bind_eq_ok h
      have h2 := length_of_readNumber hp
      have h3 := congrArg List.length (rest_of_natural h)
      omega
    · cases h
  · cases h

theorem length_of_readTruth {s rest : List Char} {a : Bool} (h : readTruth s = .ok (a, rest)) :
    rest.length < s.length := by
  obtain ⟨r, hr, h⟩ := exists_of_bind_eq_ok h
  have h1 := length_of_startValue hr
  split at h
  · obtain ⟨p, hp, h⟩ := exists_of_map_eq_ok h
    cases h
    have h2 := length_of_readName hp
    simp only [List.length_cons] at h1
    omega
  · obtain ⟨p, hp, h⟩ := exists_of_map_eq_ok h
    cases h
    have h2 := length_of_readName hp
    simp only [List.length_cons] at h1
    omega
  · cases h

theorem length_of_readNull {s rest : List Char} {a : Unit} (h : readNull s = .ok (a, rest)) :
    rest.length < s.length := by
  obtain ⟨r, hr, h⟩ := exists_of_bind_eq_ok h
  have h1 := length_of_startValue hr
  split at h
  · obtain ⟨p, hp, h⟩ := exists_of_map_eq_ok h
    cases h
    have h2 := length_of_readName hp
    simp only [List.length_cons] at h1
    omega
  · cases h

namespace Reader

/-- A string. -/
def text : Reader String := ⟨readText, length_of_readText⟩

/-- A natural number of 64 bits, written without fraction and exponent. -/
def natural : Reader UInt64 := ⟨readNatural, length_of_readNatural⟩

/-- `true` or `false`. -/
def truth : Reader Bool := ⟨readTruth, length_of_readTruth⟩

/-- Reads an `α` and makes a `β` of it. -/
def map {α β : Type} (f : α → β) (r : Reader α) : Reader β where
  read s := (r.read s).map fun (a, rest) => (f a, rest)
  shrinks h := by
    obtain ⟨⟨a, r'⟩, hp, h⟩ := exists_of_map_eq_ok h
    cases h
    exact r.shrinks hp

/-- What `r` reads, or none for `null`. -/
def optional {α : Type} (r : Reader α) : Reader (Option α) where
  read s :=
    match skipSpace s with
    | 'n' :: s => (readName ['u', 'l', 'l'] s).map fun rest => (none, rest)
    | s => (r.read s).map fun (a, rest) => (some a, rest)
  shrinks {s _ _} h := by
    have h1 := length_skipSpace s
    split at h
    · next hs =>
      obtain ⟨p, hp, h⟩ := exists_of_map_eq_ok h
      cases h
      have h2 := length_of_readName hp
      rw [hs, List.length_cons] at h1
      omega
    · obtain ⟨⟨a, r'⟩, hp, h⟩ := exists_of_map_eq_ok h
      cases h
      have h2 := r.shrinks hp
      omega

/-- The elements of a list from `s` on, and its closing bracket. -/
def readElements {α : Type} (element : Reader α) (first : Bool) (s : List Char) :
    Except Fault (List α × List Char) :=
  match h : nextElement first s with
  | .error f => .error f
  | .ok (false, rest) => .ok ([], rest.drop 1)
  | .ok (true, r) =>
    match h' : element.read r with
    | .error f => .error f
    | .ok (a, r') =>
      have := length_of_nextElement h
      have := element.shrinks h'
      (readElements element false r').map fun (as, rest) => (a :: as, rest)
termination_by s.length

theorem length_of_readElements {α : Type} {element : Reader α} {first : Bool} {s : List Char}
    {as : List α} {rest : List Char} (h : readElements element first s = .ok (as, rest)) :
    rest.length ≤ s.length := by
  fun_induction readElements element first s generalizing as rest with
  | case1 => cases h
  | case2 first s r hr =>
    cases h
    have := length_of_nextElement hr
    simp only [List.length_drop]; omega
  | case3 => cases h
  | case4 first s r hr a r' hr' h1 h2 ih =>
    obtain ⟨⟨bs, r'⟩, hp, h⟩ := exists_of_map_eq_ok h
    cases h
    have := ih hp
    omega

/-- A list of values that `element` reads. -/
def list {α : Type} (element : Reader α) : Reader (List α) where
  read s := do
    match ← startValue s with
    | '[' :: r => readElements element true r
    | r => .error (mismatch "a sequence" r)
  shrinks h := by
    obtain ⟨r, hr, h⟩ := exists_of_bind_eq_ok h
    have h1 := length_of_startValue hr
    split at h
    · have h2 := length_of_readElements h
      simp only [List.length_cons] at h1
      omega
    · cases h

/-- The members of an object from `s` on, in order, and its closing brace. -/
def readMembers {α : Type} (value : Reader α) (first : Bool) (s : List Char) :
    Except Fault (List (String × α) × List Char) :=
  match h : nextKey first s with
  | .error f => .error f
  | .ok (false, rest) => .ok ([], rest.drop 1)
  | .ok (true, r) =>
    match h' : readString r with
    | .error f => .error f
    | .ok (key, r') =>
      match h'' : readColon r' with
      | .error f => .error f
      | .ok r'' =>
        match h₃ : value.read r'' with
        | .error f => .error f
        | .ok (a, r₃) =>
          have := (length_of_nextKey h).2
          have := length_of_readString h'
          have := length_of_readColon h''
          have := value.shrinks h₃
          (readMembers value false r₃).map fun (ms, rest) => ((String.ofList key, a) :: ms, rest)
termination_by s.length

theorem length_of_readMembers {α : Type} {value : Reader α} {first : Bool} {s : List Char}
    {ms : List (String × α)} {rest : List Char}
    (h : readMembers value first s = .ok (ms, rest)) : rest.length ≤ s.length := by
  fun_induction readMembers value first s generalizing ms rest with
  | case1 => cases h
  | case2 first s r hr =>
    cases h
    have := (length_of_nextKey hr).2
    simp only [List.length_drop]; omega
  | case3 => cases h
  | case4 => cases h
  | case5 => cases h
  | case6 first s r hr key r' hr' r'' hr'' a r₃ hr₃ h1 h2 h3 h4 ih =>
    obtain ⟨⟨ns, r'⟩, hp, h⟩ := exists_of_map_eq_ok h
    cases h
    have := ih hp
    omega

/-- An object whose members' values `value` reads, as its members in order. -/
def members {α : Type} (value : Reader α) : Reader (List (String × α)) where
  read s := do
    match ← startValue s with
    | '\x7b' :: r => readMembers value true r
    | r => .error (mismatch "a map" r)
  shrinks h := by
    obtain ⟨r, hr, h⟩ := exists_of_bind_eq_ok h
    have h1 := length_of_startValue hr
    split at h
    · have h2 := length_of_readMembers h
      simp only [List.length_cons] at h1
      omega
    · cases h

/-- The value that the name `key` stands for in `names`; `rest` follows the name. -/
def named {α : Type} (names : List (String × α)) (key : List Char) (rest : List Char) :
    Except Fault α :=
  match names.lookup (String.ofList key) with
  | some a => .ok a
  | none => .error (.before (.unknownVariant (String.ofList key) (names.map Prod.fst)) rest)

/-- One of several values by its name: a string, or an object with the name as its only key and
`null` as the value. -/
def variant {α : Type} (names : List (String × α)) : Reader α where
  read s := do
    match ← startValue s with
    | '"' :: r => do
      let (key, r) ← readString r
      let a ← named names key r
      .ok (a, r)
    | '\x7b' :: r => do
      match ← nextKey true r with
      | (false, r) => .error (.at .wantValue r)
      | (true, r) => do
        let (key, r) ← readString r
        let a ← named names key r
        let r ← readColon r
        let (_, r) ← readNull r
        match skipSpace r with
        | '\x7d' :: rest => .ok (a, rest)
        | [] => .error (.before .endInObject [])
        | r => .error (.before .wantValue r)
    | r => .error (.at .wantValue r)
  shrinks h := by
    obtain ⟨r, hr, h⟩ := exists_of_bind_eq_ok h
    have h1 := length_of_startValue hr
    split at h
    · obtain ⟨⟨key, r'⟩, hp, h⟩ := exists_of_bind_eq_ok h
      obtain ⟨a, ha, h⟩ := exists_of_bind_eq_ok h
      cases h
      have h2 := length_of_readString hp
      simp only [List.length_cons] at h1
      omega
    · obtain ⟨⟨more, r₁⟩, hq, h⟩ := exists_of_bind_eq_ok h
      have h2 := (length_of_nextKey hq).2
      cases more with
      | false => cases h
      | true =>
        obtain ⟨⟨key, r₂⟩, hp, h⟩ := exists_of_bind_eq_ok h
        obtain ⟨a, ha, h⟩ := exists_of_bind_eq_ok h
        obtain ⟨r₃, hr₃, h⟩ := exists_of_bind_eq_ok h
        obtain ⟨⟨_, r₄⟩, hu, h⟩ := exists_of_bind_eq_ok h
        have h3 := length_of_readString hp
        have h4 := length_of_readColon hr₃
        have h5 := length_of_readNull hu
        simp only [List.length_cons] at h1
        dsimp only at h
        split at h
        · next hs =>
          cases h
          have h6 := length_of_skipSpace hs
          omega
        · cases h
        · cases h
    · cases h

/-- Reads a whole document, and refuses anything but space after the value. -/
def decode {α : Type} (r : Reader α) (document : String) : Except Failure α :=
  match r.read document.toList with
  | .error f => .error (f.locate document)
  | .ok (a, rest) =>
    match skipSpace rest with
    | [] => .ok a
    | rest => .error ((Fault.at .trailingCharacters rest).locate document)

end Reader

end HostLog.Json
