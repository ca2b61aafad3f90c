import HostLog.Proofs.Json.Values

/-!
# Which values a reader takes

`r.Recognizes F` says of a reader that of all values it takes those of form `F`, and reads them as
`F` says, wherever in a document they stand. Readers whose form ends by itself have it from what
they accept at all (`Reader.Accepts.recognizes`). A number does not end by itself, so the reader of
natural numbers is looked at on each kind of value.
-/

namespace HostLog.Json

variable {α : Type} {F : List Char → α → Prop}

/-- Of all values `r` takes those that `F` allows, with the value that it gives to them. -/
structure Reader.Recognizes (r : Reader α) (F : List Char → α → Prop) : Prop where
  read_iff {w t rest : List Char} (space : Space w) (value : Value t) (closed : Closed rest) {a : α}
    {rest' : List Char} : r.read (w ++ (t ++ rest)) = .ok (a, rest') ↔ rest' = rest ∧ F t a

/-- `null`, or what `F` allows. -/
inductive Nullable (F : List Char → α → Prop) : List Char → Option α → Prop
  | null : Nullable F ['n', 'u', 'l', 'l'] none
  | value {t : List Char} {a : α} (form : F t a) : Nullable F t (some a)

/-! ### Where a value begins -/

section

variable {t w rest : List Char}

theorem Value.exists_cons (h : Value t) : ∃ c u, t = c :: u ∧ c ∉ spaces := by
  obtain ⟨c, u, rfl, hc⟩ := h.begins
  exact ⟨c, u, rfl, notMem_spaces hc⟩

theorem Value.skipSpace_append (h : Value t) (hw : Space w) (rest : List Char) :
    skipSpace (w ++ (t ++ rest)) = t ++ rest := by
  obtain ⟨c, u, rfl, hc⟩ := h.exists_cons
  rw [Json.skipSpace_append hw, List.cons_append, skipSpace_cons hc]

theorem Value.startValue_append (h : Value t) (hw : Space w) (rest : List Char) :
    startValue (w ++ (t ++ rest)) = .ok (t ++ rest) := by
  obtain ⟨c, u, rfl, hc⟩ := h.exists_cons
  rw [List.cons_append, Json.startValue_append hw hc]

theorem Space.closed_self (hw : Space w) : Closed w :=
  fun c hc => List.mem_append_left closers (hw c (List.mem_of_mem_head? hc))

end

namespace Reader

variable {r : Reader α}

/-- A document that is one value is decoded if the value is of the form. -/
theorem Recognizes.decode_eq_ok_iff {document : String} {w t w' : List Char} {a : α}
    (h : r.Recognizes F) (ht : Value t) (hw : Space w) (hw' : Space w')
    (hdocument : document.toList = w ++ (t ++ w')) : r.decode document = .ok a ↔ F t a := by
  constructor
  · intro hd
    unfold decode at hd
    split at hd
    · cases hd
    · next b rest hr =>
      rw [hdocument, h.read_iff hw ht hw'.closed_self] at hr
      split at hd
      · cases hd; exact hr.2
      · cases hd
  · intro ha
    have hskip := Json.skipSpace_append hw' []
    rw [List.append_nil] at hskip
    rw [decode, hdocument, (h.read_iff hw ht hw'.closed_self).2 ⟨rfl, ha⟩]
    dsimp only
    rw [hskip]
    rfl

theorem Recognizes.decode_ofList (h : r.Recognizes F) {t : List Char} (ht : Value t) {a : α} :
    r.decode (String.ofList t) = .ok a ↔ F t a := by
  refine h.decode_eq_ok_iff ht space_nil space_nil ?_
  rw [String.toList_ofList, List.append_nil, List.nil_append]

/-- What is recognized is what can be decoded by itself. -/
theorem Recognizes.decodes (h : r.Recognizes F) :
    r.Recognizes fun t a => r.decode (String.ofList t) = .ok a := by
  refine ⟨fun {w t rest} hw ht hrest {a rest'} => ?_⟩
  rw [h.read_iff hw ht hrest, h.decode_ofList ht]

theorem Recognizes.map {β : Type} (h : r.Recognizes F) (f : α → β) :
    (r.map f).Recognizes fun t b => ∃ a, F t a ∧ b = f a := by
  refine ⟨fun {w t rest} hw ht hrest {b rest'} => ?_⟩
  constructor
  · intro hr
    obtain ⟨⟨a, rest''⟩, hread, hb⟩ := exists_of_map_eq_ok hr
    obtain ⟨rfl, ha⟩ := (h.read_iff hw ht hrest).1 hread
    cases hb
    exact ⟨rfl, a, ha, rfl⟩
  · rintro ⟨rfl, a, ha, rfl⟩
    show (r.read _).map _ = _
    rw [(h.read_iff hw ht hrest).2 ⟨rfl, ha⟩]
    rfl

/-! ### Strings and lists -/

/-- Two values that begin at one place and end by themselves are one. -/
theorem Accepts.recognizes (h : r.Accepts F) (hF : ∀ {t a}, F t a → Value t ∧ Enclosed t) :
    r.Recognizes F := by
  refine ⟨fun {w t rest} hw ht hrest {a rest'} => ?_⟩
  rw [h.read_iff]
  constructor
  · rintro ⟨w', t', heq, hw', ha⟩
    obtain ⟨ht', henclosed⟩ := hF ha
    have hskip := skip_of_value ht hw (.inl hrest)
    rw [heq, skip_of_value ht' hw' (.inr henclosed)] at hskip
    obtain rfl := Except.ok.inj hskip
    have hstart := ht.skipSpace_append hw rest'
    rw [heq, ht'.skipSpace_append hw'] at hstart
    obtain rfl := List.append_cancel_right hstart
    exact ⟨rfl, ha⟩
  · rintro ⟨rfl, ha⟩
    exact ⟨w, t, rfl, hw, ha⟩

theorem value_of_quoted {t : List Char} {s : String} (h : Quoted t s) : Value t ∧ Enclosed t := by
  obtain ⟨hspells⟩ := h
  exact ⟨.scalar (.string hspells.body), '"', by decide, rfl⟩

theorem recognizes_text : text.Recognizes Quoted := accepts_text.recognizes value_of_quoted

theorem texts_of_items {first : Bool} {t : List Char} {as : List α} (h : Items F first t as) :
    ∃ vs, Items Eq first t vs ∧ ∀ v ∈ vs, ∃ a, F v a := by
  induction h with
  | close hw => exact ⟨[], .close hw, nofun⟩
  | @first _ v _ a _ hw ha _ ih =>
    obtain ⟨vs, hitems, hvs⟩ := ih
    exact ⟨v :: vs, .first hw rfl hitems, List.forall_mem_cons.2 ⟨⟨a, ha⟩, hvs⟩⟩
  | @later _ _ v _ a _ hw hw' ha _ ih =>
    obtain ⟨vs, hitems, hvs⟩ := ih
    exact ⟨v :: vs, .later hw hw' rfl hitems, List.forall_mem_cons.2 ⟨⟨a, ha⟩, hvs⟩⟩

theorem value_of_sequence (hF : ∀ {t a}, F t a → Value t) {t : List Char} {as : List α}
    (h : Sequence F t as) : Value t ∧ Enclosed t := by
  obtain ⟨u, rfl, hitems⟩ := sequence_iff.1 h
  obtain ⟨vs, hvs, hvalues⟩ := texts_of_items hitems
  refine ⟨.list (sequence_iff.2 ⟨u, rfl, hvs⟩) fun v hv => ?_, '[', by decide, rfl⟩
  obtain ⟨a, ha⟩ := hvalues v hv
  exact hF ha

theorem recognizes_texts : (list text).Recognizes (Sequence Quoted) :=
  (accepts_list accepts_text begins_quoted).recognizes
    (value_of_sequence fun h => (value_of_quoted h).1)

end Reader

/-! ### Numbers -/

theorem absorb_eq_nil {ds : List Char} {n m : Nat} (h : absorb n ds = (m, [])) :
    Nat.ofDigitChars 10 ds n = m ∧ (ds = [] ∨ m < Nat.pow 2 64) := by
  induction ds generalizing n with
  | nil => cases h; exact ⟨rfl, .inl rfl⟩
  | cons d ds ih =>
    rw [absorb] at h
    split at h
    · next hlt =>
      obtain ⟨hm, hbound⟩ := ih h
      refine ⟨hm, .inr ?_⟩
      rcases hbound with rfl | hbound
      · cases h; exact hlt
      · exact hbound
    · cases h

/-- A numeral is an integer only if it has neither fraction nor exponent and fits into 64 bits. -/
theorem value_eq_integer {x : Numeral} {negative : Bool} {n : Int}
    (h : x.value negative = .ok (.integer n)) :
    ∃ m : Nat, absorb 0 x.whole = (m, []) ∧ x.fraction = [] ∧ x.exponent = none ∧
      (negative = true ∧ n < 0 ∨ negative = false ∧ n = m) := by
  rcases hab : absorb 0 x.whole with ⟨m, dropped⟩
  rw [Numeral.value, hab] at h
  dsimp only at h
  split at h
  · next hinteger =>
    obtain ⟨rfl, hfraction, hexponent, hsign⟩ := hinteger
    cases h
    refine ⟨m, rfl, hfraction, hexponent, ?_⟩
    rcases hsign with rfl | ⟨hpos, -⟩
    · exact .inr ⟨rfl, rfl⟩
    · cases negative with
      | false => exact .inr ⟨rfl, rfl⟩
      | true => exact .inl ⟨rfl, by simpa using hpos⟩
  · split at h
    · cases h
    · split at h <;> cases h

section

variable {t rest : List Char} {x : Numeral} {n : UInt64}

theorem natural_eq_ok {k : Number} {rest' : List Char} (h : natural k rest = .ok (n, rest')) :
    rest' = rest ∧ ∃ i : Int, k = .integer i ∧ 0 ≤ i ∧ n = UInt64.ofNat i.toNat := by
  cases k with
  | integer i =>
    rw [natural] at h
    split at h
    · next hi => cases h; exact ⟨rfl, i, rfl, hi, rfl⟩
    · cases h
  | real => cases h

/-- What reading a numeral as a natural number comes to. -/
theorem readNumber_of_unsigned (ht : Unsigned t x) (hrest : Closed rest) (negative : Bool)
    {k : Number} {rest' : List Char} (h : readNumber negative (t ++ rest) = .ok (k, rest')) :
    rest' = rest ∧ x.value negative = .ok k := by
  obtain ⟨⟨y, r⟩, hnumeral, hvalue⟩ := exists_of_bind_eq_ok h
  rw [readNumeral_of_unsigned ht hrest] at hnumeral
  cases hnumeral
  dsimp only at hvalue
  split at hvalue
  · next hk => cases hvalue; exact ⟨rfl, hk⟩
  · cases hvalue

theorem natural_of_unsigned (ht : Unsigned t x) {i : Int}
    (h : x.value false = .ok (.integer i)) : Natural t (UInt64.ofNat i.toNat) := by
  obtain ⟨m, hm, hfraction, hexponent, hsign⟩ := value_eq_integer h
  obtain ⟨hwhole, hpart, hpart'⟩ := ht
  dsimp only at hm hfraction hexponent
  subst hfraction hexponent
  cases hpart with
  | digits hds => exact absurd rfl hds.1
  | absent =>
    cases hpart'
    obtain ⟨hi, hsign⟩ | ⟨-, rfl⟩ := hsign
    · cases hi
    · obtain ⟨hvalue, hbound⟩ := absorb_eq_nil hm
      have hlt : m < Nat.pow 2 64 := hbound.resolve_left (by rintro rfl; cases hwhole)
      rw [List.append_nil, List.append_nil]
      refine ⟨hwhole, ?_⟩
      rw [hvalue, Int.toNat_natCast, UInt64.toNat_ofNat_of_lt' hlt]

theorem value_of_natural (h : Natural t n) : Value t := by
  have hnumeral := Unsigned.intro h.1 .absent .absent
  rw [List.append_nil, List.append_nil] at hnumeral
  exact .scalar (.positive hnumeral)

end

theorem recognizes_natural : Reader.natural.Recognizes Natural := by
  refine ⟨fun {w t rest} hw ht hrest {n rest'} => ?_⟩
  constructor
  · intro hread
    obtain ⟨s, hs, h⟩ := exists_of_bind_eq_ok hread
    rw [ht.startValue_append hw] at hs
    cases hs
    cases ht with
    | scalar hscalar =>
      cases hscalar with
      | null => cases h
      | true => cases h
      | false => cases h
      | string => cases h
      | negative hnumeral =>
        obtain ⟨⟨k, r⟩, hk, hn⟩ := exists_of_bind_eq_ok h
        obtain ⟨rfl, hvalue⟩ := readNumber_of_unsigned hnumeral hrest true hk
        obtain ⟨-, i, rfl, hi, -⟩ := natural_eq_ok hn
        obtain ⟨_, -, -, -, ⟨-, hneg⟩ | ⟨hfalse, -⟩⟩ := value_eq_integer hvalue
        · omega
        · cases hfalse
      | positive hnumeral =>
        obtain ⟨c, u, rfl, hc⟩ := hnumeral.begins
        rw [List.cons_append] at h
        split at h
        · next heq => cases (List.cons.inj heq).1; cases hc
        · next heq =>
          rw [← heq, if_pos (by rwa [← (List.cons.inj heq).1]), ← List.cons_append] at h
          obtain ⟨⟨k, r⟩, hk, hn⟩ := exists_of_bind_eq_ok h
          obtain ⟨rfl, hvalue⟩ := readNumber_of_unsigned hnumeral hrest false hk
          obtain ⟨rfl, i, rfl, -, rfl⟩ := natural_eq_ok hn
          exact ⟨rfl, natural_of_unsigned hnumeral hvalue⟩
        · cases h
    | list hform =>
      obtain ⟨u, rfl, -⟩ := sequence_iff.1 hform
      cases h
    | object hform =>
      obtain ⟨u, rfl, -⟩ := rawObject_iff.1 hform
      cases h
  · rintro ⟨rfl, ht⟩
    exact takes_natural ht w rest' hw hrest

/-! ### Truth values -/

/-- A truth value as it is written. -/
def Truth (t : List Char) (b : Bool) : Prop := t = (writeTruth b).toList

theorem recognizes_truth : Reader.truth.Recognizes Truth := by
  refine ⟨fun {w t rest} hw ht hrest {b rest'} => ?_⟩
  constructor
  · intro hread
    obtain ⟨s, hs, h⟩ := exists_of_bind_eq_ok hread
    rw [ht.startValue_append hw] at hs
    cases hs
    cases ht with
    | scalar hscalar =>
      cases hscalar with
      | null => cases h
      | true =>
        obtain ⟨r, hr, hb⟩ := exists_of_map_eq_ok h
        cases (readName_append ['r', 'u', 'e'] rest).symm.trans hr
        cases hb
        exact ⟨rfl, rfl⟩
      | false =>
        obtain ⟨r, hr, hb⟩ := exists_of_map_eq_ok h
        cases (readName_append ['a', 'l', 's', 'e'] rest).symm.trans hr
        cases hb
        exact ⟨rfl, rfl⟩
      | string => cases h
      | negative => cases h
      | positive hnumeral =>
        obtain ⟨c, u, rfl, hc⟩ := hnumeral.begins
        rw [List.cons_append] at h
        split at h
        · next heq => cases (List.cons.inj heq).1; cases hc
        · next heq => cases (List.cons.inj heq).1; cases hc
        · cases h
    | list hform =>
      obtain ⟨u, rfl, -⟩ := sequence_iff.1 hform
      cases h
    | object hform =>
      obtain ⟨u, rfl, -⟩ := rawObject_iff.1 hform
      cases h
  · rintro ⟨rfl, rfl⟩
    exact takes_truth b w rest' hw hrest

/-! ### Values that may be null -/

theorem Value.eq_null {u : List Char} (h : Value ('n' :: u)) : u = ['u', 'l', 'l'] := by
  generalize hs : 'n' :: u = s at h
  cases h with
  | scalar hscalar =>
    cases hscalar with
    | null => exact (List.cons.inj hs).2
    | true => cases (List.cons.inj hs).1
    | false => cases (List.cons.inj hs).1
    | string => cases (List.cons.inj hs).1
    | negative => cases (List.cons.inj hs).1
    | positive hnumeral =>
      obtain ⟨c, v, rfl, hc⟩ := hnumeral.begins
      cases (List.cons.inj hs).1
      cases hc
  | list hform =>
    obtain ⟨v, rfl, -⟩ := sequence_iff.1 hform
    cases (List.cons.inj hs).1
  | object hform =>
    obtain ⟨v, rfl, -⟩ := rawObject_iff.1 hform
    cases (List.cons.inj hs).1

theorem Reader.Recognizes.optional {r : Reader α} (h : r.Recognizes F)
    (hnull : ∀ a, ¬F ['n', 'u', 'l', 'l'] a) : (Reader.optional r).Recognizes (Nullable F) := by
  refine ⟨fun {w t rest} hw ht hrest {b rest'} => ?_⟩
  obtain ⟨c, u, rfl, hc⟩ := ht.exists_cons
  rw [Reader.optional]
  dsimp only
  rw [List.cons_append, skipSpace_append hw, skipSpace_cons hc]
  split
  · next heq =>
    obtain ⟨rfl, rfl⟩ := List.cons.inj heq
    obtain rfl := ht.eq_null
    rw [readName_append]
    constructor
    · rintro ⟨⟩
      exact ⟨rfl, .null⟩
    · rintro ⟨rfl, hb⟩
      cases hb with
      | null => rfl
      | value ha => exact absurd ha (hnull _)
  · next hne =>
    have hread {a : α} {rest' : List Char} :
        r.read (c :: (u ++ rest)) = .ok (a, rest') ↔ rest' = rest ∧ F (c :: u) a :=
      h.read_iff space_nil ht hrest
    constructor
    · intro hmap
      obtain ⟨⟨a, r'⟩, ha, hb⟩ := exists_of_map_eq_ok hmap
      obtain ⟨rfl, hform⟩ := hread.1 ha
      cases hb
      exact ⟨rfl, .value hform⟩
    · rintro ⟨rfl, hb⟩
      cases hb with
      | null => exact absurd rfl (hne _)
      | value ha => rw [hread.2 ⟨rfl, ha⟩]; rfl

end HostLog.Json
