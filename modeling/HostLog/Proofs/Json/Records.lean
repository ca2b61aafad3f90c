import HostLog.Proofs.Json.Members

/-!
# Values that records are read from

An object is read into a record by its members (`Loads`), a list by its elements, which fill the
places in their own order (`LoadsList`). Both are read up to their end whatever follows, so the
values that a record is read from are known (`Shape.recognizes`), and a record may stand in
another one.
-/

namespace HostLog.Json

variable {σ α : Type}

/-- What a list of values does to the record. -/
inductive LoadsList : List (Slot σ) → σ → List (List Char) → σ → Prop
  | nil {d : σ} : LoadsList [] d [] d
  | absent {s : Slot σ} {slots : List (Slot σ)} {d e : σ} (optional : s.required = false)
      (tail : LoadsList slots d [] e) : LoadsList (s :: slots) d [] e
  | value {s : Slot σ} {slots : List (Slot σ)} {d e : σ} {v : List Char} {vs : List (List Char)}
      {b : s.β} (form : s.form v b) (tail : LoadsList slots (s.set b d) vs e) :
      LoadsList (s :: slots) d (v :: vs) e

/-! ### Lists -/

theorem endList_ne_ok {s t r : List Char} {c : Char} (h : skipSpace s = c :: t) (hc : c ≠ ']') :
    endList s ≠ .ok r := by
  intro hr
  unfold endList at hr
  split at hr
  · next hs => exact hc (List.cons.inj (h.symm.trans hs)).1
  · cases hr
  · split at hr <;> cases hr
  · cases hr

theorem endList_of_items {first : Bool} {u rest r : List Char} {vs : List (List Char)}
    (h : Items Eq first u vs) (hvalues : ∀ v ∈ vs, Value v) :
    endList (u ++ ']' :: rest) = .ok r ↔ r = rest ∧ vs = [] := by
  cases h with
  | close hw =>
    rw [endList, skipSpace_append hw, skipSpace_cons (by decide)]
    simp [eq_comm]
  | @first w v s _ vs hw hv htail =>
    subst hv
    have hvalue := hvalues v List.mem_cons_self
    have hstart := hvalue.skipSpace_append hw (s ++ ']' :: rest)
    obtain ⟨c, x, rfl, hc⟩ := hvalue.begins
    rw [List.append_assoc, List.append_assoc]
    refine ⟨fun hr => absurd hr (endList_ne_ok hstart ?_), nofun⟩
    rintro rfl
    exact absurd hc (by decide)
  | @later w w' v s _ vs hw hw' hv htail =>
    have hcomma := skipSpace_append hw (',' :: (w' ++ (v ++ s) ++ ']' :: rest))
    rw [skipSpace_cons (by decide)] at hcomma
    rw [List.append_assoc, List.cons_append]
    exact ⟨fun hr => absurd hr (endList_ne_ok hcomma (by decide)), nofun⟩

theorem nextElement_eq_ok {w v t : List Char} (hw : Space w) (hv : Value v) :
    nextElement true (w ++ (v ++ t)) = .ok (true, v ++ t) ∧ ∀ {w' : List Char}, Space w' →
      nextElement false (w ++ ',' :: (w' ++ (v ++ t))) = .ok (true, v ++ t) := by
  obtain ⟨c, x, rfl, hc⟩ := hv.begins
  have hspace : c ∉ spaces := notMem_spaces hc
  have hne : c ≠ ']' := by rintro rfl; exact absurd hc (by decide)
  exact ⟨nextElement_first hw hspace hne, fun hw' => nextElement_later hw hw' hspace hne⟩

section

variable {tooShort : Nat → Cause} {slot : Slot σ} {slots : List (Slot σ)} {count : Nat} {d e : σ}

theorem readItems_value {s v t : List Char}
    (hnext : nextElement (count == 0) s = .ok (true, v ++ t)) (hv : Value v) (ht : Closed t)
    {p : σ × List Char} : readItems tooShort ((slot :: slots).map Slot.field) count d s = .ok p ↔
      ∃ b, slot.form v b ∧
        readItems tooShort (slots.map Slot.field) (count + 1) (slot.set b d) t = .ok p := by
  have hread {change : σ → σ} {r : List Char} : slot.field.value.read (v ++ t) = .ok (change, r) ↔
      r = t ∧ ∃ b, slot.form v b ∧ change = slot.set b :=
    slot.recognizes_field.read_iff space_nil hv ht
  rw [List.map_cons, readItems, hnext]
  dsimp only
  constructor
  · intro h
    split at h
    · cases h
    · next hchange =>
      obtain ⟨rfl, b, hform, rfl⟩ := hread.1 hchange
      exact ⟨b, hform, h⟩
  · rintro ⟨b, hform, h⟩
    rw [hread.2 ⟨rfl, b, hform, rfl⟩]
    exact h

theorem loadsList_nil_iff : LoadsList (slot :: slots) d [] e ↔
    slot.required = false ∧ LoadsList slots d [] e := by
  constructor
  · rintro ⟨⟩
    exact ⟨‹_›, ‹_›⟩
  · rintro ⟨hoptional, hloads⟩
    exact .absent hoptional hloads

/-- What is read into a record from the text `s`, with `rest` after its end, are the values `vs`. -/
structure ReadsItems (tooShort : Nat → Cause) (slots : List (Slot σ)) (count : Nat)
    (s rest : List Char) (vs : List (List Char)) : Prop where
  eq_ok_iff {d e : σ} {r : List Char} :
    (∃ t, readItems tooShort (slots.map Slot.field) count d s = .ok (e, t) ∧ endList t = .ok r) ↔
      r = rest ∧ LoadsList slots d vs e

theorem ReadsItems.cons {s v t rest : List Char} {vs : List (List Char)}
    (hnext : nextElement (count == 0) s = .ok (true, v ++ t)) (hv : Value v) (ht : Closed t)
    (h : ReadsItems tooShort slots (count + 1) t rest vs) :
    ReadsItems tooShort (slot :: slots) count s rest (v :: vs) := by
  refine ⟨fun {d e r} => ?_⟩
  simp only [readItems_value hnext hv ht]
  constructor
  · rintro ⟨t', ⟨b, hform, hread⟩, hend⟩
    obtain ⟨rfl, hloads⟩ := h.eq_ok_iff.1 ⟨t', hread, hend⟩
    exact ⟨rfl, .value hform hloads⟩
  · rintro ⟨rfl, hloads⟩
    cases hloads with
    | value hform hloads =>
      obtain ⟨t', hread, hend⟩ := h.eq_ok_iff.2 ⟨rfl, hloads⟩
      exact ⟨t', ⟨_, hform, hread⟩, hend⟩

theorem readsItems_of_items {first : Bool} {u : List Char} {vs : List (List Char)}
    (hfirst : (count == 0) = first) (h : Items Eq first u vs) (hvalues : ∀ v ∈ vs, Value v)
    (rest : List Char) : ReadsItems tooShort slots count (u ++ ']' :: rest) rest vs := by
  induction slots generalizing count first u vs with
  | nil =>
    refine ⟨fun {d e r} => ?_⟩
    constructor
    · rintro ⟨t, hread, hend⟩
      cases hread
      obtain ⟨rfl, rfl⟩ := (endList_of_items h hvalues).1 hend
      exact ⟨rfl, .nil⟩
    · rintro ⟨rfl, hloads⟩
      cases hloads
      exact ⟨_, rfl, (endList_of_items h hvalues).2 ⟨rfl, rfl⟩⟩
  | cons slot slots ih =>
    have hlater : (count + 1 == 0) = false := rfl
    cases h with
    | close hw =>
      refine ⟨fun {d e r} => ?_⟩
      rw [loadsList_nil_iff, List.map_cons, readItems, nextElement_close hw]
      dsimp only
      rw [Slot.required_field]
      cases slot.required with
      | true => simp
      | false => simpa using (ih hlater (.close space_nil) hvalues).eq_ok_iff
    | @first w v t _ vs hw hv htail =>
      subst hv
      obtain ⟨hvalue, hvalues⟩ := List.forall_mem_cons.1 hvalues
      rw [List.append_assoc, List.append_assoc]
      refine .cons ?_ hvalue (htail.closed (by decide) rest) (ih hlater htail hvalues)
      rw [hfirst]
      exact (nextElement_eq_ok hw hvalue).1
    | @later w w' v t _ vs hw hw' hv htail =>
      subst hv
      obtain ⟨hvalue, hvalues⟩ := List.forall_mem_cons.1 hvalues
      rw [List.append_assoc, List.cons_append, List.append_assoc, List.append_assoc]
      refine .cons ?_ hvalue (htail.closed (by decide) rest) (ih hlater htail hvalues)
      rw [hfirst]
      exact (nextElement_eq_ok hw hvalue).2 hw'

end

/-! ### Records -/

/-- The values that a record is read from, and what it then is. -/
inductive Shape.Form (shape : Shape σ α) (l : Layout σ) : List Char → α → Prop
  | object {t : List Char} {ms : List (List Char × List Char)} {ns : List (String × List Char)}
      {d : σ} {a : α} (form : RawObject t ms) (values : ∀ m ∈ ms, Value m.2) (named : Named ms ns)
      (loads : Loads l shape.start ns d) (finish : shape.finish d = .ok a) : Form shape l t a
  | list {t : List Char} {vs : List (List Char)} {d : σ} {a : α} (form : Sequence Eq t vs)
      (values : ∀ v ∈ vs, Value v) (loads : LoadsList l.slots shape.start vs d)
      (finish : shape.finish d = .ok a) : Form shape l t a

section

variable {shape : Shape σ α} {l : Layout σ} {a : α} {t w rest rest' : List Char}

theorem Shape.conclude_eq_ok_iff {d : σ} {r : List Char} :
    shape.conclude d r = .ok (a, rest) ↔ rest = r ∧ shape.finish d = .ok a := by
  rw [conclude]
  cases shape.finish d with
  | ok b => simp [eq_comm, and_comm]
  | error cause => simp

theorem Shape.read_eq_ok_of_brace {s r : List Char} (hs : startValue s = .ok ('\x7b' :: r)) :
    shape.reader.read s = .ok (a, rest) ↔ ∃ d t,
      readFields shape.fields true shape.start r = .ok (d, t) ∧
        shape.conclude d (t.drop 1) = .ok (a, rest) := by
  show (startValue s >>= _) = _ ↔ _
  rw [hs]
  dsimp only [bind, Except.bind]
  split
  · next heq => exact absurd (List.cons.inj heq).1 (by decide)
  · next heq =>
    obtain rfl := (List.cons.inj heq).2
    split
    · next hread => simp [hread]
    · next hread => simp [hread]
  · next hne => exact absurd rfl (hne _)

theorem Shape.read_eq_ok_of_bracket {s r : List Char} (hs : startValue s = .ok ('[' :: r)) :
    shape.reader.read s = .ok (a, rest) ↔ ∃ d t u,
      readItems shape.tooShort shape.fields 0 shape.start r = .ok (d, t) ∧
        endList t = .ok u ∧ shape.conclude d u = .ok (a, rest) := by
  show (startValue s >>= _) = _ ↔ _
  rw [hs]
  dsimp only [bind, Except.bind]
  split
  · next heq =>
    obtain rfl := (List.cons.inj heq).2
    cases hread : readItems shape.tooShort shape.fields 0 shape.start r with
    | error f => simp
    | ok p =>
      obtain ⟨d, t⟩ := p
      cases hend : endList t with
      | error f => simp [hend]
      | ok u => simp [hend]
  · next heq => exact absurd (List.cons.inj heq).1 (by decide)
  · next hne _ => exact absurd rfl (hne _)

theorem Shape.read_object (hl : shape.fields = l.fields) {ms : List (List Char × List Char)}
    (hform : RawObject t ms) (hvalues : ∀ m ∈ ms, Value m.2) (hw : Space w) :
    shape.reader.read (w ++ (t ++ rest)) = .ok (a, rest') ↔ rest' = rest ∧
      ∃ ns, Named ms ns ∧ ∃ d, Loads l shape.start ns d ∧ shape.finish d = .ok a := by
  obtain ⟨u, rfl, hitems⟩ := rawObject_iff.1 hform
  have hmembers : ReadsMembers l true (u ++ '\x7d' :: rest) ('\x7d' :: rest) ms :=
    readsMembers_of_items hitems hvalues rest
  rw [List.cons_append, List.append_assoc, List.singleton_append,
    read_eq_ok_of_brace (startValue_append hw (by decide) _), hl]
  constructor
  · rintro ⟨d, r, hread, hend⟩
    obtain ⟨rfl, ns, hns, hloads⟩ := hmembers.eq_ok_iff.1 hread
    obtain ⟨rfl, hfinish⟩ := conclude_eq_ok_iff.1 hend
    exact ⟨rfl, ns, hns, d, hloads, hfinish⟩
  · rintro ⟨rfl, ns, hns, d, hloads, hfinish⟩
    exact ⟨d, _, hmembers.eq_ok_iff.2 ⟨rfl, ns, hns, hloads⟩,
      conclude_eq_ok_iff.2 ⟨rfl, hfinish⟩⟩

theorem Shape.read_list (hl : shape.fields = l.fields) {vs : List (List Char)}
    (hform : Sequence Eq t vs) (hvalues : ∀ v ∈ vs, Value v) (hw : Space w) :
    shape.reader.read (w ++ (t ++ rest)) = .ok (a, rest') ↔ rest' = rest ∧
      ∃ d, LoadsList l.slots shape.start vs d ∧ shape.finish d = .ok a := by
  obtain ⟨u, rfl, hitems⟩ := sequence_iff.1 hform
  have hfirst : ((0 : Nat) == 0) = true := rfl
  have hvs : ReadsItems shape.tooShort l.slots 0 (u ++ ']' :: rest) rest vs :=
    readsItems_of_items hfirst hitems hvalues rest
  rw [List.cons_append, List.append_assoc, List.singleton_append,
    read_eq_ok_of_bracket (startValue_append hw (by decide) _), hl, Layout.fields]
  constructor
  · rintro ⟨d, r, r', hread, hend, hconclude⟩
    obtain ⟨rfl, hfinish⟩ := conclude_eq_ok_iff.1 hconclude
    obtain ⟨rfl, hloads⟩ := hvs.eq_ok_iff.1 ⟨r, hread, hend⟩
    exact ⟨rfl, d, hloads, hfinish⟩
  · rintro ⟨rfl, d, hloads, hfinish⟩
    obtain ⟨r, hread, hend⟩ := hvs.eq_ok_iff.2 ⟨rfl, hloads⟩
    exact ⟨d, r, _, hread, hend, conclude_eq_ok_iff.2 ⟨rfl, hfinish⟩⟩

theorem Shape.read_scalar (ht : Scalar t) (hw : Space w) :
    shape.reader.read (w ++ (t ++ rest)) ≠ .ok (a, rest') := by
  intro h
  obtain ⟨c, u, rfl, hc, hlist, hobject⟩ := ht.begins
  obtain ⟨r, hr, hread⟩ := exists_of_bind_eq_ok h
  rw [List.cons_append, startValue_append hw (notMem_spaces hc)] at hr
  cases hr
  split at hread
  · next heq => exact hlist (List.cons.inj heq).1
  · next heq => exact hobject (List.cons.inj heq).1
  · cases hread

/-- A record is read from the objects and lists of its form, and from no other value. -/
theorem Shape.recognizes (hl : shape.fields = l.fields) :
    shape.reader.Recognizes (shape.Form l) := by
  refine ⟨fun {w t rest} hw ht _ {a rest'} => ?_⟩
  constructor
  · intro h
    cases ht with
    | scalar hscalar => exact absurd h (read_scalar hscalar hw)
    | list hform hvalues =>
      obtain ⟨rfl, d, hloads, hfinish⟩ := (read_list hl hform hvalues hw).1 h
      exact ⟨rfl, .list hform hvalues hloads hfinish⟩
    | object hform hvalues =>
      obtain ⟨rfl, ns, hns, d, hloads, hfinish⟩ := (read_object hl hform hvalues hw).1 h
      exact ⟨rfl, .object hform hvalues hns hloads hfinish⟩
  · rintro ⟨rfl, h⟩
    cases h with
    | object hform hvalues hns hloads hfinish =>
      exact (read_object hl hform hvalues hw).2 ⟨rfl, _, hns, _, hloads, hfinish⟩
    | list hform hvalues hloads hfinish =>
      exact (read_list hl hform hvalues hw).2 ⟨rfl, _, hloads, hfinish⟩

theorem Shape.decode_scalar_ne (hl : shape.fields = l.fields) (ht : Scalar t) :
    shape.reader.decode (String.ofList t) ≠ .ok a := by
  rw [Ne, (recognizes hl).decode_ofList (.scalar ht)]
  intro h
  have hread : shape.reader.read ([] ++ (t ++ [])) = .ok (a, []) :=
    ((recognizes hl).read_iff space_nil (.scalar ht) closed_nil).2 ⟨rfl, h⟩
  exact read_scalar ht space_nil hread

/-- A document that is an object of any values is decoded as a record if its members can be named
and loaded, and as the finished record. -/
theorem Shape.decode_object (hl : shape.fields = l.fields) {document : String}
    {ms : List (List Char × List Char)} (hform : Padded RawObject document.toList ms)
    (hvalues : ∀ m ∈ ms, Value m.2) : shape.reader.decode document = .ok a ↔
      ∃ ns, Named ms ns ∧ ∃ d, Loads l shape.start ns d ∧ shape.finish d = .ok a := by
  generalize hdocument : document.toList = s at hform
  rcases hform with @⟨w, t, w', _, hw, hobject, hw'⟩
  have hvalue := Value.object hobject hvalues
  have hself : shape.reader.read ([] ++ (t ++ [])) = .ok (a, []) ↔ [] = [] ∧ shape.Form l t a :=
    (recognizes hl).read_iff space_nil hvalue closed_nil
  rw [(recognizes hl).decode_eq_ok_iff hvalue hw hw' hdocument]
  rw [read_object hl hobject hvalues space_nil] at hself
  simpa using hself.symm

end

end HostLog.Json
