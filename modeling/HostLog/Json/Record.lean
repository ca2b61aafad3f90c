import HostLog.Json.Reader

/-!
# Readers of records

A record has named fields. It is read from an object with the fields as members in any order, or
from a list of the fields' values in their own order. Members of other names are passed over. What
has been read so far is a state `σ`; each field tells from it whether it has been set.
-/

namespace HostLog.Json

/-- One field of a record whose partly read form is a `σ`. -/
structure Field (σ : Type) where
  name : String
  /-- Whether the field has no value of its own when it is left out. -/
  required : Bool
  isSet : σ → Bool
  /-- Reads the field's value, as the change that it makes. -/
  value : Reader (σ → σ)

/-- A field that `r` reads, kept by `set` and looked up by `get?`. -/
def Field.of {σ α : Type} (name : String) (required : Bool) (r : Reader α) (get? : σ → Option α)
    (set : α → σ → σ) : Field σ :=
  { name, required, isSet := fun s => (get? s).isSome, value := r.map set }

/-- Why the members of an object are read no further: a fault at its place, or a cause that gets
its place only when the object has been left. -/
inductive Stop where
  | fault (f : Fault)
  | pending (cause : Cause) (rest : List Char)

/-- The fault that a stop amounts to. -/
def Stop.toFault : Stop → Fault
  | fault f => f
  | pending cause rest => .before cause (leaveObject rest)

variable {σ : Type}

/-- Reads the members from `s` on into `state`, up to the closing brace. -/
def readFields (fields : List (Field σ)) (first : Bool) (state : σ) (s : List Char) :
    Except Stop (σ × List Char) :=
  match h : nextKey first s with
  | .error f => .error (.fault f)
  | .ok (false, rest) => .ok (state, rest)
  | .ok (true, r) =>
    match h' : readString r with
    | .error f => .error (.fault f)
    | .ok (key, r') =>
      match fields.find? fun f => f.name == String.ofList key with
      | some field =>
        if field.isSet state then .error (.pending (.duplicateField field.name) r')
        else
          match h'' : readColon r' with
          | .error f => .error (.fault f)
          | .ok r'' =>
            match h₃ : field.value.read r'' with
            | .error f => .error (.fault f)
            | .ok (change, r₃) =>
              have := (length_of_nextKey h).2
              have := length_of_readString h'
              have := length_of_readColon h''
              have := field.value.shrinks h₃
              readFields fields false (change state) r₃
      | none =>
        match h'' : readColon r' with
        | .error f => .error (.fault f)
        | .ok r'' =>
          match h₃ : skip r'' with
          | .error f => .error (.fault f)
          | .ok r₃ =>
            have := (length_of_nextKey h).2
            have := length_of_readString h'
            have := length_of_readColon h''
            have := length_of_skip h₃
            readFields fields false state r₃
termination_by s.length

theorem length_of_readFields {fields : List (Field σ)} {first : Bool} {state state' : σ}
    {s rest : List Char} (h : readFields fields first state s = .ok (state', rest)) :
    rest.length ≤ s.length := by
  fun_induction readFields fields first state s with
  | case2 first state s r hr => cases h; exact (length_of_nextKey hr).2
  | case7 =>
    rename_i ih
    have := ih h
    omega
  | case10 =>
    rename_i ih
    have := ih h
    omega
  | _ => cases h

/-- Reads the values of `fields` in order from a list, `count` values of which have been read. A
field that is left out at the end keeps its own value, if it is not required. -/
def readItems (tooShort : Nat → Cause) :
    List (Field σ) → Nat → σ → List Char → Except Fault (σ × List Char)
  | [], _, state, s => .ok (state, s)
  | field :: fields, count, state, s =>
    match nextElement (count == 0) s with
    | .error f => .error f
    | .ok (false, rest) =>
      if field.required then .error (.before (tooShort count) (rest.drop 1))
      else readItems tooShort fields (count + 1) state rest
    | .ok (true, r) =>
      match field.value.read r with
      | .error f => .error f
      | .ok (change, rest) => readItems tooShort fields (count + 1) (change state) rest

theorem length_of_readItems {tooShort : Nat → Cause} {fields : List (Field σ)} {count : Nat}
    {state state' : σ} {s rest : List Char}
    (h : readItems tooShort fields count state s = .ok (state', rest)) :
    rest.length ≤ s.length := by
  induction fields generalizing count state s with
  | nil => cases h; exact Nat.le_refl _
  | cons field fields ih =>
    unfold readItems at h
    split at h
    · cases h
    · next hr =>
      have h1 := length_of_nextElement hr
      split at h
      · cases h
      · have := ih h; omega
    · next hr =>
      have h1 := length_of_nextElement hr
      split at h
      · cases h
      · next hv => have := ih h; have := field.value.shrinks hv; omega

/-- How a record is read. -/
structure Shape (σ α : Type) where
  name : String
  fields : List (Field σ)
  /-- The state before anything is read. -/
  start : σ
  /-- The record, once no more fields follow; it fails for the first required field not set. -/
  finish : σ → Except Cause α

namespace Shape

variable {α : Type}

/-- How a message names the record. -/
def wanted (shape : Shape σ α) : String := "struct " ++ shape.name

/-- The cause of a list that has only `n` values. -/
def tooShort (shape : Shape σ α) (n : Nat) : Cause :=
  .wrongLength n (shape.wanted ++ " with " ++ toString shape.fields.length ++ " elements")

/-- The finished record, with `rest` following it. -/
def conclude (shape : Shape σ α) (state : σ) (rest : List Char) : Except Fault (α × List Char) :=
  match shape.finish state with
  | .ok a => .ok (a, rest)
  | .error cause => .error (.before cause rest)

/-- Reads a record. -/
def read (shape : Shape σ α) (s : List Char) : Except Fault (α × List Char) := do
  match ← startValue s with
  | '[' :: r => do
    let (state, r) ← readItems shape.tooShort shape.fields 0 shape.start r
    let rest ← endList r
    shape.conclude state rest
  | '\x7b' :: r =>
    match readFields shape.fields true shape.start r with
    | .error stop => .error stop.toFault
    | .ok (state, rest) => shape.conclude state (rest.drop 1)
  | r => .error (mismatch shape.wanted r)

theorem rest_of_conclude {shape : Shape σ α} {state : σ} {r rest : List Char} {a : α}
    (h : shape.conclude state r = .ok (a, rest)) : rest = r := by
  unfold conclude at h
  split at h <;> cases h; rfl

/-- The reader of a record. -/
def reader (shape : Shape σ α) : Reader α where
  read := shape.read
  shrinks h := by
    obtain ⟨r, hr, h⟩ := exists_of_bind_eq_ok h
    have h1 := length_of_startValue hr
    split at h
    · obtain ⟨⟨state, r₁⟩, hi, h⟩ := exists_of_bind_eq_ok h
      obtain ⟨r₂, he, h⟩ := exists_of_bind_eq_ok h
      have h2 := length_of_readItems hi
      have h3 := length_of_endList he
      have h4 := congrArg List.length (rest_of_conclude h)
      simp only [List.length_cons] at h1
      omega
    · split at h
      · cases h
      · next hf =>
        have h2 := length_of_readFields hf
        have h3 := congrArg List.length (rest_of_conclude h)
        simp only [List.length_cons, List.length_drop] at h1 h3
        omega
    · cases h

end Shape

end HostLog.Json
