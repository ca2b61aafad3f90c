import HostLog.Proofs.Json.Recognition
import Mathlib.Data.List.Forall2
import Mathlib.Data.List.Pairwise

/-!
# Members put into a record

A `Layout` says of a record that is read in parts where each named field is kept meanwhile, and
which values may stand there. Reading an object of any values puts each member of a known name into
its place, once, and passes over the others (`Puts`, `Loads`). What that leaves in a place hangs on
the members of its name alone (`Layout.loads_iff`).
-/

namespace HostLog.Json

variable {σ : Type}

/-- The place of one field in a record that is read in parts, and the values it can be read from. -/
structure Slot (σ : Type) where
  {β : Type}
  name : String
  required : Bool
  reader : Reader β
  form : List Char → β → Prop
  recognizes : reader.Recognizes form
  get? : σ → Option β
  set : β → σ → σ
  get?_set (b : β) (d : σ) : get? (set b d) = some b

def Slot.field (s : Slot σ) : Field σ := .of s.name s.required s.reader s.get? s.set

/-- Places of different names that do not interfere. -/
structure Slot.Apart (s t : Slot σ) : Prop where
  name_ne : s.name ≠ t.name
  left (b : s.β) (d : σ) : t.get? (s.set b d) = t.get? d
  right (b : t.β) (d : σ) : s.get? (t.set b d) = s.get? d

/-- Places in which all is kept that is read. -/
structure Layout (σ : Type) where
  slots : List (Slot σ)
  apart : slots.Pairwise Slot.Apart
  ext {d e : σ} : (∀ s ∈ slots, s.get? d = s.get? e) → d = e

def Layout.fields (l : Layout σ) : List (Field σ) := l.slots.map Slot.field

/-- The keys of the members, read as names. -/
def Named (ms : List (List Char × List Char)) (ns : List (String × List Char)) : Prop :=
  List.Forall₂ (fun m n => Spells m.1 n.1.toList ∧ m.2 = n.2) ms ns

/-- What a member does to the record. -/
inductive Puts (l : Layout σ) : σ → String × List Char → σ → Prop
  | slot {s : Slot σ} {n : String × List Char} {d : σ} {b : s.β} (mem : s ∈ l.slots)
      (name_eq : s.name = n.1) (unset : s.get? d = none) (form : s.form n.2 b) :
      Puts l d n (s.set b d)
  | unknown {n : String × List Char} {d : σ} (unknown : ∀ s ∈ l.slots, s.name ≠ n.1) : Puts l d n d

inductive Loads (l : Layout σ) : σ → List (String × List Char) → σ → Prop
  | nil {d : σ} : Loads l d [] d
  | cons {d d' e : σ} {n : String × List Char} {ns : List (String × List Char)}
      (head : Puts l d n d') (tail : Loads l d' ns e) : Loads l d (n :: ns) e

/-! ### One place -/

@[simp]
theorem Slot.name_field (s : Slot σ) : s.field.name = s.name := rfl

@[simp]
theorem Slot.required_field (s : Slot σ) : s.field.required = s.required := rfl

theorem Slot.isSet_field {s : Slot σ} {d : σ} : s.field.isSet d = false ↔ s.get? d = none := by
  show (s.get? d).isSome = false ↔ _
  simp

theorem Slot.recognizes_field (s : Slot σ) :
    s.field.value.Recognizes fun t change => ∃ b, s.form t b ∧ change = s.set b :=
  s.recognizes.map s.set

instance : Std.Symm (@Slot.Apart σ) := ⟨fun _ _ h => ⟨h.name_ne.symm, h.right, h.left⟩⟩

theorem Layout.apart_of_ne {l : Layout σ} {s t : Slot σ} (hs : s ∈ l.slots) (ht : t ∈ l.slots)
    (hne : s ≠ t) : s.Apart t :=
  l.apart.forall hs ht hne

theorem Layout.name_inj {l : Layout σ} {s t : Slot σ} (hs : s ∈ l.slots) (ht : t ∈ l.slots)
    (h : s.name = t.name) : s = t := by
  by_contra hne
  exact (l.apart_of_ne hs ht hne).name_ne h

/-! ### Members -/

section

variable {l : Layout σ} {d e : σ}

theorem Layout.find?_eq_some {name : String} {field : Field σ}
    (h : (l.fields.find? fun f => f.name == name) = some field) :
    ∃ s ∈ l.slots, s.name = name ∧ s.field = field := by
  obtain ⟨s, hs, rfl⟩ := List.mem_map.1 (List.mem_of_find?_eq_some h)
  have hname : s.name = name := by simpa using List.find?_some h
  exact ⟨s, hs, hname, rfl⟩

theorem Layout.find?_of_mem {s : Slot σ} (hs : s ∈ l.slots) :
    (l.fields.find? fun f => f.name == s.name) = some s.field := by
  cases hfind : l.fields.find? fun f => f.name == s.name with
  | none =>
    have hnone := List.find?_eq_none.1 hfind s.field (List.mem_map_of_mem hs)
    exact absurd (beq_self_eq_true s.name) hnone
  | some field =>
    obtain ⟨t, ht, hname, rfl⟩ := Layout.find?_eq_some hfind
    rw [Layout.name_inj ht hs hname]

theorem Layout.find?_eq_none_iff {name : String} :
    (l.fields.find? fun f => f.name == name) = none ↔ ∀ s ∈ l.slots, s.name ≠ name := by
  simp [Layout.fields, List.find?_eq_none]

theorem readFields_of_unknown {fields : List (Field σ)} {first : Bool}
    {s t t' t'' rest key : List Char} (hk : nextKey first s = .ok (true, t))
    (hs : readString t = .ok (key, t'))
    (hunknown : (fields.find? fun f => f.name == String.ofList key) = none)
    (hc : readColon t' = .ok t'') (hv : skip t'' = .ok rest) :
    readFields fields first d s = readFields fields false d rest := by
  fun_cases readFields fields first d s with
  | case1 _ hf | case2 _ hf => cases hk.symm.trans hf
  | case3 _ hf _ hf' =>
    cases hk.symm.trans hf
    cases hs.symm.trans hf'
  | case4 _ hf _ _ hf' _ hfield | case5 _ hf _ _ hf' _ hfield | case6 _ hf _ _ hf' _ hfield
  | case7 _ hf _ _ hf' _ hfield =>
    cases hk.symm.trans hf
    cases hs.symm.trans hf'
    cases hunknown.symm.trans hfield
  | case8 _ hf _ _ hf' _ _ hf'' =>
    cases hk.symm.trans hf
    cases hs.symm.trans hf'
    cases hc.symm.trans hf''
  | case9 _ hf _ _ hf' _ _ hf'' _ hf₃ =>
    cases hk.symm.trans hf
    cases hs.symm.trans hf'
    cases hc.symm.trans hf''
    cases hv.symm.trans hf₃
  | case10 _ hf _ _ hf' _ _ hf'' _ hf₃ =>
    cases hk.symm.trans hf
    cases hs.symm.trans hf'
    cases hc.symm.trans hf''
    cases hv.symm.trans hf₃
    rfl

/-- One member more: its key has to be spelt well, its value to fit if the name is known. -/
theorem readFields_member {first : Bool} {s u t : List Char} {m : List Char × List Char}
    (hk : nextKey first s = .ok (true, u ++ t)) (hm : RawMember ('"' :: u) m) (hv : Value m.2)
    (ht : Closed t) {p : σ × List Char} : readFields l.fields first d s = .ok p ↔
      ∃ n d', (Spells m.1 n.1.toList ∧ m.2 = n.2) ∧ Puts l d n d' ∧
        readFields l.fields false d' t = .ok p := by
  generalize hu : '"' :: u = x at hm
  rcases hm with @⟨k, w, w', v, hkey, hw, hw'⟩
  obtain ⟨-, rfl⟩ := List.cons.inj hu
  rw [List.append_assoc, List.cons_append, List.append_assoc, List.cons_append,
    List.append_assoc] at hk
  have hcolon : readColon (w ++ ':' :: (w' ++ (v ++ t))) = .ok (w' ++ (v ++ t)) :=
    readColon_eq_ok_iff.2 ⟨w, rfl, hw⟩
  have hskip : skip (w' ++ (v ++ t)) = .ok t := skip_of_value hv hw' (.inl ht)
  constructor
  · fun_cases readFields l.fields first d s with
    | case7 r hf key r' hf' field hfield hset r'' hf'' change r₃ hf₃ =>
      intro h
      cases hk.symm.trans hf
      obtain ⟨rfl, hspells⟩ := (readString_of_body hkey).1 hf'
      cases hcolon.symm.trans hf''
      obtain ⟨slot, hmem, hname, rfl⟩ := Layout.find?_eq_some hfield
      obtain ⟨rfl, b, hform, rfl⟩ := (slot.recognizes_field.read_iff hw' hv ht).1 hf₃
      have hunset : slot.get? d = none := Slot.isSet_field.1 (Bool.not_eq_true _ ▸ hset)
      refine ⟨(String.ofList key, v), slot.set b d, ⟨?_, rfl⟩, .slot hmem hname hunset hform, h⟩
      rwa [String.toList_ofList]
    | case10 r hf key r' hf' hfield r'' hf'' r₃ hf₃ =>
      intro h
      cases hk.symm.trans hf
      obtain ⟨rfl, hspells⟩ := (readString_of_body hkey).1 hf'
      cases hcolon.symm.trans hf''
      cases hskip.symm.trans hf₃
      have hunknown := Layout.find?_eq_none_iff.1 hfield
      refine ⟨(String.ofList key, v), d, ⟨?_, rfl⟩, .unknown hunknown, h⟩
      rwa [String.toList_ofList]
    | case2 _ hf => cases hk.symm.trans hf
    | _ => intro h; cases h
  · rintro ⟨⟨_, _⟩, d', ⟨hspells, rfl⟩, hputs, hread⟩
    have hstring := readString_of_spells hspells (w ++ ':' :: (w' ++ (v ++ t)))
    rw [← hread]
    cases hputs with
    | @slot slot _ _ b hmem hname hunset hform =>
      refine readFields_of_field hk hstring ?_ (Slot.isSet_field.2 hunset) hcolon
        ((slot.recognizes_field.read_iff hw' hv ht).2 ⟨rfl, b, hform, rfl⟩)
      rw [String.ofList_toList, ← hname]
      exact Layout.find?_of_mem hmem
    | unknown hunknown =>
      refine readFields_of_unknown hk hstring ?_ hcolon hskip
      rw [String.ofList_toList]
      exact Layout.find?_eq_none_iff.2 hunknown

theorem named_nil_iff {ns : List (String × List Char)} : Named [] ns ↔ ns = [] := by
  rw [Named, List.forall₂_nil_left_iff]

theorem named_cons_iff {m : List Char × List Char} {ms : List (List Char × List Char)}
    {ns : List (String × List Char)} : Named (m :: ms) ns ↔
      ∃ n ns', (Spells m.1 n.1.toList ∧ m.2 = n.2) ∧ Named ms ns' ∧ ns = n :: ns' := by
  rw [Named, List.forall₂_cons_left_iff]
  rfl

theorem Named.unique {ms : List (List Char × List Char)} {ns ns' : List (String × List Char)}
    (h : Named ms ns) (h' : Named ms ns') : ns = ns' := by
  induction ms generalizing ns ns' with
  | nil => rw [named_nil_iff.1 h, named_nil_iff.1 h']
  | cons m ms ih =>
    obtain ⟨⟨k, v⟩, ns, ⟨hk, hv⟩, hns, rfl⟩ := named_cons_iff.1 h
    obtain ⟨⟨k', v'⟩, ns', ⟨hk', hv'⟩, hns', rfl⟩ := named_cons_iff.1 h'
    cases String.toList_inj.1 (hk.unique hk')
    cases hv.symm.trans hv'
    rw [ih hns hns']

theorem Named.body {ms : List (List Char × List Char)} {ns : List (String × List Char)}
    (h : Named ms ns) : ∀ m ∈ ms, StringBody m.1 := by
  induction h with
  | nil => nofun
  | cons hm _ ih => exact List.forall_mem_cons.2 ⟨hm.1.body, ih⟩

/-- One member more is loaded if it can be put into the record that is then read on. -/
theorem exists_loads_cons {m : List Char × List Char} {ms : List (List Char × List Char)} :
    (∃ ns, Named (m :: ms) ns ∧ Loads l d ns e) ↔
      ∃ n d', (Spells m.1 n.1.toList ∧ m.2 = n.2) ∧ Puts l d n d' ∧
        ∃ ns, Named ms ns ∧ Loads l d' ns e := by
  constructor
  · rintro ⟨_, hnamed, hloads⟩
    obtain ⟨n, ns, hn, hns, rfl⟩ := named_cons_iff.1 hnamed
    cases hloads with
    | cons hputs hloads => exact ⟨n, _, hn, hputs, ns, hns, hloads⟩
  · rintro ⟨n, d', hn, hputs, ns, hns, hloads⟩
    exact ⟨n :: ns, named_cons_iff.2 ⟨n, ns, hn, hns, rfl⟩, .cons hputs hloads⟩

/-- What is read into a record from the text `s`, with `rest` left, are the members `ms`. -/
structure ReadsMembers (l : Layout σ) (first : Bool) (s rest : List Char)
    (ms : List (List Char × List Char)) : Prop where
  eq_ok_iff {d e : σ} {r : List Char} : readFields l.fields first d s = .ok (e, r) ↔
    r = rest ∧ ∃ ns, Named ms ns ∧ Loads l d ns e

theorem ReadsMembers.cons {first : Bool} {s u t rest : List Char} {m : List Char × List Char}
    {ms : List (List Char × List Char)} (hk : nextKey first s = .ok (true, u ++ t))
    (hm : RawMember ('"' :: u) m) (hv : Value m.2) (ht : Closed t)
    (h : ReadsMembers l false t rest ms) : ReadsMembers l first s rest (m :: ms) := by
  refine ⟨fun {d e r} => ?_⟩
  rw [readFields_member hk hm hv ht, exists_loads_cons]
  constructor
  · rintro ⟨n, d', hn, hputs, hread⟩
    obtain ⟨rfl, hloads⟩ := h.eq_ok_iff.1 hread
    exact ⟨rfl, n, d', hn, hputs, hloads⟩
  · rintro ⟨rfl, n, d', hn, hputs, hloads⟩
    exact ⟨n, d', hn, hputs, h.eq_ok_iff.2 ⟨rfl, hloads⟩⟩

theorem readsMembers_of_items {first : Bool} {u : List Char} {ms : List (List Char × List Char)}
    (h : Items RawMember first u ms) (hvalues : ∀ m ∈ ms, Value m.2) (rest : List Char) :
    ReadsMembers l first (u ++ '\x7d' :: rest) ('\x7d' :: rest) ms := by
  induction h with
  | close hw =>
    refine ⟨fun {d e r} => ?_⟩
    rw [readFields_of_close (nextKey_eq_ok_iff.2 (.close hw))]
    constructor
    · rintro ⟨⟩
      exact ⟨rfl, [], named_nil_iff.2 rfl, .nil⟩
    · rintro ⟨rfl, ns, hns, hloads⟩
      cases named_nil_iff.1 hns
      cases hloads
      rfl
  | first hw hm htail ih =>
    obtain ⟨hvalue, hvalues⟩ := List.forall_mem_cons.1 hvalues
    obtain ⟨x, rfl⟩ := hm.begins
    rw [List.append_assoc, List.append_assoc, List.cons_append]
    exact .cons (nextKey_eq_ok_iff.2 (.first hw)) hm hvalue
      (htail.closed (by decide) rest) (ih hvalues)
  | later hw hw' hm htail ih =>
    obtain ⟨hvalue, hvalues⟩ := List.forall_mem_cons.1 hvalues
    obtain ⟨x, rfl⟩ := hm.begins
    rw [List.append_assoc, List.cons_append, List.append_assoc, List.append_assoc, List.cons_append]
    exact .cons (nextKey_eq_ok_iff.2 (.later hw hw')) hm hvalue
      (htail.closed (by decide) rest) (ih hvalues)

end

/-! ### What is left in a place -/

/-- The values of the members of a name, in order. -/
def valuesOf (name : String) (ns : List (String × List Char)) : List (List Char) :=
  (ns.filter fun n => n.1 = name).map Prod.snd

/-- What members of one name do to their place. -/
inductive Settles {β : Type} (F : List Char → β → Prop) :
    Option β → List (List Char) → Option β → Prop
  | kept {o : Option β} : Settles F o [] o
  | read {v : List Char} {b : β} (form : F v b) : Settles F none [v] (some b)

section

variable {β : Type} {F : List Char → β → Prop} {o o' : Option β} {v : List Char}
  {vs : List (List Char)}

theorem settles_nil_iff : Settles F o [] o' ↔ o = o' := by
  refine ⟨?_, fun h => h ▸ .kept⟩
  rintro ⟨⟩
  rfl

theorem settles_cons_iff :
    Settles F o (v :: vs) o' ↔ o = none ∧ vs = [] ∧ ∃ b, F v b ∧ o' = some b := by
  constructor
  · rintro ⟨⟩
    exact ⟨rfl, rfl, _, ‹_›, rfl⟩
  · rintro ⟨rfl, rfl, b, hb, rfl⟩
    exact .read hb

theorem settles_some_iff {b : β} : Settles F (some b) vs o' ↔ vs = [] ∧ o' = some b := by
  constructor
  · rintro ⟨⟩
    exact ⟨rfl, rfl⟩
  · rintro ⟨rfl, rfl⟩
    exact .kept

end

section

variable {name : String} {n : String × List Char} {ns : List (String × List Char)}

theorem valuesOf_cons_of_eq (h : name = n.1) :
    valuesOf name (n :: ns) = n.2 :: valuesOf name ns := by
  simp [valuesOf, h]

theorem valuesOf_cons_of_ne (h : name ≠ n.1) : valuesOf name (n :: ns) = valuesOf name ns := by
  simp [valuesOf, Ne.symm h]

end

/-- Members are loaded exactly if those of each name can be put into its place, apart from all the
others. -/
theorem Layout.loads_iff {l : Layout σ} {ns : List (String × List Char)} {d e : σ} :
    Loads l d ns e ↔
      ∀ s ∈ l.slots, Settles s.form (s.get? d) (valuesOf s.name ns) (s.get? e) := by
  induction ns generalizing d with
  | nil =>
    constructor
    · rintro ⟨⟩ s -
      exact .kept
    · intro h
      obtain rfl := l.ext fun s hs => settles_nil_iff.1 (h s hs)
      exact .nil
  | cons n ns ih =>
    constructor
    · rintro (_ | ⟨hputs, htail⟩) t ht
      have hrest := ih.1 htail t ht
      cases hputs with
      | @slot s _ _ b hs hname hunset hform =>
        by_cases hst : s.name = t.name
        · obtain rfl := Layout.name_inj hs ht hst
          rw [s.get?_set, settles_some_iff] at hrest
          rw [valuesOf_cons_of_eq hname, settles_cons_iff]
          exact ⟨hunset, hrest.1, b, hform, hrest.2⟩
        · -- the member has been put elsewhere
          rw [(l.apart_of_ne hs ht (mt (congrArg Slot.name) hst)).left] at hrest
          rwa [valuesOf_cons_of_ne (hname ▸ Ne.symm hst)]
      | unknown hunknown => rwa [valuesOf_cons_of_ne (hunknown t ht)]
    · intro h
      by_cases hknown : ∃ s ∈ l.slots, s.name = n.1
      · obtain ⟨s, hs, hname⟩ := hknown
        have hplace := h s hs
        rw [valuesOf_cons_of_eq hname, settles_cons_iff] at hplace
        obtain ⟨hunset, hnone, b, hform, he⟩ := hplace
        refine .cons (.slot hs hname hunset hform) (ih.2 fun t ht => ?_)
        by_cases hst : s.name = t.name
        · obtain rfl := Layout.name_inj hs ht hst
          rw [s.get?_set, settles_some_iff]
          exact ⟨hnone, he⟩
        · have hother := h t ht
          rw [valuesOf_cons_of_ne (hname ▸ Ne.symm hst)] at hother
          rwa [(l.apart_of_ne hs ht (mt (congrArg Slot.name) hst)).left]
      · have hunknown : ∀ s ∈ l.slots, s.name ≠ n.1 := fun s hs hn => hknown ⟨s, hs, hn⟩
        refine .cons (.unknown hunknown) (ih.2 fun t ht => ?_)
        have hother := h t ht
        rwa [valuesOf_cons_of_ne (hunknown t ht)] at hother

end HostLog.Json
