import HostLog.Properties
import Mathlib.Data.Finset.Card
import Mathlib.Data.List.Perm.Lattice

/-!
# The last value counts

What a list of bindings leaves under a key is the value of the last one with that key, or nothing
(`lastValue?`). That is so for whatever obeys the one law of overwriting, however it is built
(`get_foldl_put`), and for property sets in particular (`Properties.get?_ofList`). A property set is
known by its look-ups (`Properties.ext_get?`), so it is made again by inserting its own entries
(`Properties.ofList_entries`).
-/

namespace HostLog

/-- The value of the last pair with this key. -/
def lastValue? (pairs : List (String × String)) (key : String) : Option String :=
  ((pairs.filter fun e => e.1 = key).getLast?).map Prod.snd

section

variable {pairs : List (String × String)} {key value : String}

theorem lastValue?_append (pairs rest : List (String × String)) (key : String) :
    lastValue? (pairs ++ rest) key = (lastValue? rest key).or (lastValue? pairs key) := by
  rw [lastValue?, List.filter_append, List.getLast?_append]
  cases h : (rest.filter fun e => e.1 = key).getLast? <;> simp [lastValue?, h]

theorem lastValue?_singleton (e : String × String) (key : String) :
    lastValue? [e] key = if key = e.1 then some e.2 else none := by
  by_cases h : key = e.1
  · simp [lastValue?, h]
  · simp [lastValue?, h, Ne.symm h]

theorem lastValue?_cons (e : String × String) (pairs : List (String × String)) (key : String) :
    lastValue? (e :: pairs) key =
      (lastValue? pairs key).or (if key = e.1 then some e.2 else none) := by
  rw [← lastValue?_singleton, ← lastValue?_append, List.singleton_append]

theorem lastValue?_eq_none_iff : lastValue? pairs key = none ↔ ∀ e ∈ pairs, e.1 ≠ key := by
  simp [lastValue?]

/-- After the last pair with a key there is none with it. -/
theorem lastValue?_eq_some_iff : lastValue? pairs key = some value ↔
    ∃ before after, pairs = before ++ (key, value) :: after ∧ ∀ e ∈ after, e.1 ≠ key := by
  constructor
  · intro h
    induction pairs with
    | nil => cases h
    | cons e es ih =>
      rw [lastValue?_cons] at h
      cases hes : lastValue? es key with
      | some v =>
        rw [hes, Option.some_or] at h
        obtain ⟨before, after, rfl, hafter⟩ := ih (hes.trans h)
        exact ⟨e :: before, after, rfl, hafter⟩
      | none =>
        rw [hes, Option.none_or] at h
        split at h
        · next hkey =>
          cases h
          exact ⟨[], es, by rw [hkey]; rfl, lastValue?_eq_none_iff.1 hes⟩
        · cases h
  · rintro ⟨before, after, rfl, hafter⟩
    rw [lastValue?_append, lastValue?_cons, lastValue?_eq_none_iff.2 hafter, if_pos rfl]
    rfl

theorem lastValue?_congr {pairs' : List (String × String)}
    (h : (pairs'.filter fun e => e.1 = key) = pairs.filter fun e => e.1 = key) :
    lastValue? pairs' key = lastValue? pairs key := by
  rw [lastValue?, lastValue?, h]

/-- If putting a pair changes nothing but the value under its key, the last pair counts. -/
theorem get_foldl_put {β : Type} (get : β → Option String) {put : β → String × String → β}
    (h : ∀ b, ∀ e ∈ pairs, get (put b e) = if key = e.1 then some e.2 else get b) (b : β) :
    get (pairs.foldl put b) = (lastValue? pairs key).or (get b) := by
  induction pairs generalizing b with
  | nil => rfl
  | cons e es ih =>
    rw [List.foldl_cons, ih (fun b x hx => h b x (List.mem_cons_of_mem e hx)),
      h b e List.mem_cons_self, lastValue?_cons, Option.or_assoc]
    split <;> rfl

/-- Keys can be told by a name for them, if no pair with another key has the same name. -/
theorem lastValue?_map (f : String → String) (h : ∀ e ∈ pairs, f e.1 = f key → e.1 = key) :
    lastValue? (pairs.map fun e => (f e.1, e.2)) (f key) = lastValue? pairs key := by
  have hfilter : (pairs.filter fun e => f e.1 = f key) = pairs.filter fun e => e.1 = key := by
    refine List.filter_congr fun e he => ?_
    rw [decide_eq_decide]
    exact ⟨h e he, congrArg f⟩
  rw [lastValue?, List.filter_map, List.getLast?_map, Option.map_map]
  show ((pairs.filter fun e => f e.1 = f key).getLast?).map _ = _
  rw [hfilter]
  rfl

end

/-! ### Lists in which no key comes twice -/

section

variable {pairs pairs' : List (String × String)} {key value : String}

theorem exists_eq_append_of_nodup (h : (pairs.map Prod.fst).Nodup) {e : String × String}
    (he : e ∈ pairs) : ∃ before after, pairs = before ++ e :: after ∧
      (∀ x ∈ before, x.1 ≠ e.1) ∧ ∀ x ∈ after, x.1 ≠ e.1 := by
  obtain ⟨before, after, rfl⟩ := List.append_of_mem he
  rw [List.map_append, List.map_cons, List.nodup_append, List.nodup_cons] at h
  obtain ⟨-, ⟨hafter, -⟩, hbefore⟩ := h
  refine ⟨before, after, rfl, fun x hx => ?_, fun x hx heq => ?_⟩
  · exact hbefore x.1 (List.mem_map_of_mem hx) e.1 List.mem_cons_self
  · exact hafter (heq ▸ List.mem_map_of_mem hx)

theorem lastValue?_eq_some_iff_mem (h : (pairs.map Prod.fst).Nodup) :
    lastValue? pairs key = some value ↔ (key, value) ∈ pairs := by
  rw [lastValue?_eq_some_iff]
  constructor
  · rintro ⟨before, after, rfl, -⟩
    exact List.mem_append_right _ List.mem_cons_self
  · intro he
    obtain ⟨before, after, hpairs, -, hafter⟩ := exists_eq_append_of_nodup h he
    exact ⟨before, after, hpairs, hafter⟩

theorem lookup_eq_some_iff_mem (h : (pairs.map Prod.fst).Nodup) :
    pairs.lookup key = some value ↔ (key, value) ∈ pairs := by
  rw [List.lookup_eq_some_iff]
  constructor
  · rintro ⟨before, after, rfl, -⟩
    exact List.mem_append_right _ List.mem_cons_self
  · intro he
    obtain ⟨before, after, hpairs, hbefore, -⟩ := exists_eq_append_of_nodup h he
    exact ⟨before, after, hpairs, fun x hx => bne_iff_ne.2 (hbefore x hx).symm⟩

theorem lastValue?_perm (h : (pairs.map Prod.fst).Nodup) (hp : pairs'.Perm pairs) (key : String) :
    lastValue? pairs' key = lastValue? pairs key := by
  ext value
  rw [lastValue?_eq_some_iff_mem h, lastValue?_eq_some_iff_mem ((hp.map Prod.fst).nodup_iff.2 h),
    hp.mem_iff]

end

namespace Properties

variable {p q : Properties}

theorem get?_foldl_insert (pairs : List (String × String)) (p : Properties) (key : String) :
    (pairs.foldl (fun p e => p.insert e.1 e.2) p).get? key =
      (lastValue? pairs key).or (p.get? key) :=
  get_foldl_put (fun p => p.get? key) (fun p e _ => get?_insert p e.1 e.2 key) p

theorem get?_ofList (pairs : List (String × String)) (key : String) :
    (ofList pairs).get? key = lastValue? pairs key := by
  rw [ofList, get?_foldl_insert, get?_empty, Option.or_none]

/-! ### A property set is known by its look-ups -/

theorem nodup_keys (p : Properties) : (p.entries.map Prod.fst).Nodup := by
  refine List.Pairwise.map _ ?_ p.sorted
  intro a b h heq
  exact String.lt_irrefl b.1 (heq ▸ h)

theorem get?_eq_some_iff {key value : String} :
    p.get? key = some value ↔ (key, value) ∈ p.entries :=
  lookup_eq_some_iff_mem p.nodup_keys

theorem isSome_get?_iff {key : String} : (p.get? key).isSome ↔ key ∈ p.entries.map Prod.fst := by
  rw [Option.isSome_iff_exists, List.mem_map]
  constructor
  · rintro ⟨v, h⟩
    exact ⟨(key, v), get?_eq_some_iff.1 h, rfl⟩
  · rintro ⟨⟨k, v⟩, h, rfl⟩
    exact ⟨v, get?_eq_some_iff.2 h⟩

/-- Sets with the same look-ups have the same entries, and there is one order for them. -/
theorem ext_get? (h : ∀ key, p.get? key = q.get? key) : p = q := by
  have hmem (e : String × String) : e ∈ p.entries ↔ e ∈ q.entries := by
    rw [← get?_eq_some_iff, ← get?_eq_some_iff, h]
  have hperm : p.entries.Perm q.entries :=
    (List.perm_ext_iff_of_nodup p.nodup_keys.of_map q.nodup_keys.of_map).2 hmem
  refine ext (hperm.eq_of_pairwise ?_ p.sorted q.sorted)
  intro a b _ _ hab hba
  exact absurd (String.lt_trans hab hba) (String.lt_irrefl a.1)

theorem eq_iff_get? : p = q ↔ ∀ key, p.get? key = q.get? key :=
  ⟨fun h _ => h ▸ rfl, ext_get?⟩

theorem lastValue?_entries (p : Properties) (key : String) :
    lastValue? p.entries key = p.get? key := by
  ext value
  rw [lastValue?_eq_some_iff_mem p.nodup_keys, get?_eq_some_iff]

theorem ofList_entries (p : Properties) : ofList p.entries = p :=
  ext_get? fun key => by rw [get?_ofList, lastValue?_entries]

theorem ofList_congr {pairs pairs' : List (String × String)}
    (h : ∀ key, lastValue? pairs key = lastValue? pairs' key) : ofList pairs = ofList pairs' :=
  ext_get? fun key => by rw [get?_ofList, get?_ofList, h]

/-! ### Counting -/

theorem isEmpty_iff : p.isEmpty ↔ p.size = 0 := by
  rw [isEmpty, size, List.isEmpty_iff, List.length_eq_zero_iff]

/-- As many entries as there are different keys. -/
theorem size_ofList (pairs : List (String × String)) :
    (ofList pairs).size = (pairs.map Prod.fst).toFinset.card := by
  have hkeys : ((ofList pairs).entries.map Prod.fst).toFinset = (pairs.map Prod.fst).toFinset := by
    ext key
    rw [List.mem_toFinset, List.mem_toFinset, ← isSome_get?_iff, get?_ofList,
      Option.isSome_iff_ne_none, Ne, lastValue?_eq_none_iff]
    simp
  rw [← hkeys, List.toFinset_card_of_nodup (ofList pairs).nodup_keys, List.length_map]
  rfl

end Properties

end HostLog
