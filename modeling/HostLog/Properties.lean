import HostLog.Error
import HostLog.Json.Reader
import HostLog.Json.Strings

/-!
# Property sets

A finite map from texts to texts, kept as its entries in increasing order of keys, so that equal
maps are equal values and are written alike. The order of texts is by code points, which is also the
order of their UTF-8 bytes. `get?_insert` says what inserting does to every look-up.
-/

namespace HostLog

/-- Entries in strictly increasing order of keys. -/
structure Properties where
  entries : List (String × String)
  sorted : entries.Pairwise fun a b => a.1 < b.1

namespace Properties

/-- Puts an entry into its place among sorted entries, over an entry of the same key. -/
def insertEntry (key value : String) : List (String × String) → List (String × String)
  | [] => [(key, value)]
  | e :: es =>
    if key < e.1 then (key, value) :: e :: es
    else if key = e.1 then (key, value) :: es
    else e :: insertEntry key value es

theorem fst_mem_insertEntry {key value : String} {es : List (String × String)}
    {e : String × String} (h : e ∈ insertEntry key value es) : e.1 = key ∨ e ∈ es := by
  induction es with
  | nil => simp only [insertEntry, List.mem_singleton] at h; exact .inl (h ▸ rfl)
  | cons x xs ih =>
    unfold insertEntry at h
    split at h
    · rcases List.mem_cons.mp h with rfl | h
      · exact .inl rfl
      · exact .inr h
    · split at h
      · rcases List.mem_cons.mp h with rfl | h
        · exact .inl rfl
        · exact .inr (List.mem_cons_of_mem _ h)
      · rcases List.mem_cons.mp h with rfl | h
        · exact .inr List.mem_cons_self
        · exact (ih h).imp_right (List.mem_cons_of_mem _)

theorem sorted_insertEntry (key value : String) {es : List (String × String)}
    (h : es.Pairwise fun a b => a.1 < b.1) :
    (insertEntry key value es).Pairwise fun a b => a.1 < b.1 := by
  induction es with
  | nil => simp [insertEntry]
  | cons x xs ih =>
    obtain ⟨hx, hxs⟩ := List.pairwise_cons.mp h
    unfold insertEntry
    split
    · next hlt =>
      refine List.pairwise_cons.mpr ⟨fun a ha => ?_, h⟩
      rcases List.mem_cons.mp ha with rfl | ha
      · exact hlt
      · exact String.lt_trans hlt (hx a ha)
    · next hlt =>
      split
      · next heq => subst heq; exact List.pairwise_cons.mpr ⟨hx, hxs⟩
      · next hne =>
        refine List.pairwise_cons.mpr ⟨fun a ha => ?_, ih hxs⟩
        rcases fst_mem_insertEntry ha with hk | ha
        · rw [hk]
          exact String.not_le.mp fun hle => hne (String.le_antisymm hle (String.not_lt.mp hlt))
        · exact hx a ha

def empty : Properties := ⟨[], .nil⟩

instance : Inhabited Properties := ⟨empty⟩

/-- The set with `key` bound to `value`, whatever it was bound to before. -/
def insert (p : Properties) (key value : String) : Properties :=
  ⟨insertEntry key value p.entries, sorted_insertEntry key value p.sorted⟩

def get? (p : Properties) (key : String) : Option String := p.entries.lookup key

def size (p : Properties) : Nat := p.entries.length

def isEmpty (p : Properties) : Bool := p.entries.isEmpty

/-- The bindings of `pairs` inserted in order. -/
def ofList (pairs : List (String × String)) : Properties :=
  pairs.foldl (fun p e => p.insert e.1 e.2) empty

@[ext]
theorem ext {p q : Properties} (h : p.entries = q.entries) : p = q := by
  cases p; cases q; cases h; rfl

instance : DecidableEq Properties := fun p q =>
  decidable_of_iff (p.entries = q.entries) ⟨ext, fun h => h ▸ rfl⟩

theorem lookup_insertEntry (key value k : String) (es : List (String × String)) :
    (insertEntry key value es).lookup k = if k = key then some value else es.lookup k := by
  have hbeq : ∀ {a b : String}, a ≠ b → (a == b) = false := beq_eq_false_iff_ne.mpr
  induction es with
  | nil => by_cases h : k = key <;> simp [insertEntry, List.lookup_cons, h, hbeq]
  | cons x xs ih =>
    obtain ⟨a, b⟩ := x
    unfold insertEntry
    split
    · by_cases h : k = key <;> simp [List.lookup_cons, h, hbeq]
    · split
      · next heq =>
        simp only at heq
        by_cases h : k = a <;> simp [List.lookup_cons, heq, h, hbeq]
      · next hne =>
        by_cases hk : k = a
        · subst hk
          simp only at hne
          simp [Ne.symm hne]
        · simp [List.lookup_cons, ih, hk, hbeq]

theorem get?_insert (p : Properties) (key value k : String) :
    (p.insert key value).get? k = if k = key then some value else p.get? k :=
  lookup_insertEntry key value k p.entries

@[simp]
theorem get?_empty (k : String) : empty.get? k = none := rfl

/-- Reads a set from an object of strings; of several members with one key the last one counts. -/
def reader : Json.Reader Properties := (Json.Reader.members .text).map ofList

/-- The set as an object, keys in order. -/
def toJson (p : Properties) : String :=
  Json.writeObject (p.entries.map fun (k, v) => (k, Json.writeString v))

/-- The set that a document holds. -/
def ofJson (document : String) : Except Error Properties :=
  (reader.decode document).mapError .serialization

end Properties

end HostLog
