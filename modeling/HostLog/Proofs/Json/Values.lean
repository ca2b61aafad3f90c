import HostLog.Proofs.Json.Written

/-!
# Values of any kind

`Value t` says that the text `t` is one value of the grammar: a scalar, or a list or an object of
values, with space around every token. It asks less of a string than `Spells` does, as a surrogate
may stand there without its partner, and nothing of the size of a number. `skip` passes over such a
text and stops right behind it (`skip_of_value`), unless what follows could go on with a number.
-/

namespace HostLog.Json

/-! ### Forms -/

/-- What may stand between the quotes of a string. The units need not be characters. -/
inductive StringBody : List Char → Prop
  | nil : StringBody []
  | plain {c : Char} {t : List Char} (ne_quote : c ≠ '"') (ne_backslash : c ≠ '\\')
      (not_control : ¬c < ' ') (tail : StringBody t) : StringBody (c :: t)
  | short {e c : Char} {t : List Char} (mem : (e, c) ∈ shortEscapes) (tail : StringBody t) :
      StringBody ('\\' :: e :: t)
  | unit {u t : List Char} {n : Nat} (unit : HexUnit u n) (tail : StringBody t) :
      StringBody ('\\' :: 'u' :: (u ++ t))

def Digits (ds : List Char) : Prop := ds ≠ [] ∧ ∀ d ∈ ds, d.isDigit

inductive FractionPart : List Char → List Char → Prop
  | absent : FractionPart [] []
  | digits {ds : List Char} (digits : Digits ds) : FractionPart ('.' :: ds) ds

/-- The signs of an exponent, and whether they make it negative. -/
def exponentSigns : List (List Char × Bool) := [([], false), (['+'], false), (['-'], true)]

inductive ExponentPart : List Char → Option (Bool × List Char) → Prop
  | absent : ExponentPart [] none
  | digits {e : Char} {sign ds : List Char} {negative : Bool} (letter : e ∈ ['e', 'E'])
      (sign_mem : (sign, negative) ∈ exponentSigns) (digits : Digits ds) :
      ExponentPart (e :: (sign ++ ds)) (some (negative, ds))

/-- A numeral without its minus sign, and its parts. -/
inductive Unsigned : List Char → Numeral → Prop
  | intro {w f e ds : List Char} {exponent : Option (Bool × List Char)} (whole : Whole w)
      (fraction_part : FractionPart f ds) (exponent_part : ExponentPart e exponent) :
      Unsigned (w ++ (f ++ e)) ⟨w, ds, exponent⟩

inductive Scalar : List Char → Prop
  | null : Scalar ['n', 'u', 'l', 'l']
  | true : Scalar ['t', 'r', 'u', 'e']
  | false : Scalar ['f', 'a', 'l', 's', 'e']
  | string {t : List Char} (body : StringBody t) : Scalar ('"' :: (t ++ ['"']))
  | positive {t : List Char} {x : Numeral} (numeral : Unsigned t x) : Scalar t
  | negative {t : List Char} {x : Numeral} (numeral : Unsigned t x) : Scalar ('-' :: t)

/-- A member: what stands between the quotes of its key, and the text of its value. -/
inductive RawMember : List Char → List Char × List Char → Prop
  | intro {k w w' v : List Char} (key : StringBody k) (left : Space w) (right : Space w') :
      RawMember ('"' :: (k ++ '"' :: (w ++ ':' :: (w' ++ v)))) (k, v)

inductive RawObject : List Char → List (List Char × List Char) → Prop
  | empty {w : List Char} (space : Space w) : RawObject ('\x7b' :: (w ++ ['\x7d'])) []
  | members {t : List Char} {ms : List (List Char × List Char)}
      (members : Separated (Padded RawMember) t ms) : RawObject ('\x7b' :: (t ++ ['\x7d'])) ms

inductive Value : List Char → Prop
  | scalar {t : List Char} (scalar : Scalar t) : Value t
  | list {t : List Char} {vs : List (List Char)} (form : Sequence Eq t vs)
      (values : ∀ v ∈ vs, Value v) : Value t
  | object {t : List Char} {ms : List (List Char × List Char)} (form : RawObject t ms)
      (values : ∀ m ∈ ms, Value m.2) : Value t

/-! ### Strings -/

theorem StringBody.escape {e t : List Char} {c : Char} (he : Escape e c) (ht : StringBody t) :
    StringBody ('\\' :: (e ++ t)) := by
  cases he with
  | short hmem => exact .short hmem ht
  | unit hu => exact .unit hu ht
  | pair hu hv =>
    rw [List.cons_append, List.append_assoc]
    exact .unit hu (.unit hv ht)

/-- Whatever spells something may stand between quotes. -/
theorem Spells.body {t s : List Char} (h : Spells t s) : StringBody t := by
  induction h with
  | nil => exact .nil
  | plain hq hb hc _ ih => exact .plain hq hb hc ih
  | escape he _ ih => exact ih.escape he

theorem skipString_escape {r r' : List Char} (h : skipEscape r = .ok r') :
    skipString ('\\' :: r) = skipString r' := by
  generalize hs : '\\' :: r = s
  fun_cases skipString s with
  | case1 => cases hs
  | case2 => exact absurd (List.cons.inj hs).1 (by decide)
  | case3 _ _ hf => cases hs; cases h.symm.trans hf
  | case4 _ _ hc => cases hs; cases h.symm.trans hc; rfl
  | case5 _ _ _ hb | case6 _ _ _ hb => exact absurd (List.cons.inj hs).1.symm hb

theorem skipEscape_short {e c : Char} (h : (e, c) ∈ shortEscapes) (r : List Char) :
    skipEscape (e :: r) = .ok r := by
  have hshort := shortEscape?_eq_some_iff.2 h
  have hne : e ≠ 'u' := by rintro rfl; cases hshort
  rw [skipEscape, hshort]
  · rfl
  · exact hne

theorem skipEscape_unit {u : List Char} {n : Nat} (hu : HexUnit u n) (r : List Char) :
    skipEscape ('u' :: (u ++ r)) = .ok r := by
  rw [skipEscape, readUnit_eq_ok_iff.2 ⟨u, rfl, hu⟩]
  rfl

theorem skipString_of_body {t : List Char} (h : StringBody t) (rest : List Char) :
    skipString (t ++ '"' :: rest) = .ok rest := by
  induction h with
  | nil => rw [List.nil_append, skipString]
  | plain hq hb hc _ ih =>
    rw [List.cons_append, skipString, if_neg hc, ih]
    · exact hq
    · exact hb
  | short hmem _ ih =>
    rw [List.cons_append, List.cons_append, skipString_escape (skipEscape_short hmem _), ih]
  | unit hu _ ih =>
    rw [List.cons_append, List.cons_append, List.append_assoc,
      skipString_escape (skipEscape_unit hu _), ih]

/-- The first quote outside an escape ends a string, so there is one way to divide a text there. -/
theorem StringBody.divide {t t' rest rest' : List Char} (h : StringBody t) (h' : StringBody t')
    (heq : t ++ '"' :: rest = t' ++ '"' :: rest') : t = t' ∧ rest = rest' := by
  have hskip := skipString_of_body h rest
  rw [heq, skipString_of_body h' rest'] at hskip
  obtain rfl := Except.ok.inj hskip
  exact ⟨List.append_cancel_right heq, rfl⟩

theorem readString_of_body {t cs rest rest' : List Char} (h : StringBody t) :
    readString (t ++ '"' :: rest) = .ok (cs, rest') ↔ rest' = rest ∧ Spells t cs := by
  rw [readString_eq_ok_iff]
  constructor
  · rintro ⟨t', heq, ht'⟩
    obtain ⟨rfl, rfl⟩ := h.divide ht'.body heq
    exact ⟨rfl, ht'⟩
  · rintro ⟨rfl, ht⟩
    exact ⟨t, rfl, ht⟩

/-! ### Numerals -/

section

variable {rest : List Char}

theorem readDigits_of_digits {ds : List Char} (hds : Digits ds) (hrest : NoDigit rest)
    (atEnd : Cause) : readDigits atEnd (ds ++ rest) = .ok (ds, rest) := by
  obtain ⟨hne, hdigit⟩ := hds
  cases ds with
  | nil => exact absurd rfl hne
  | cons d ds =>
    rw [List.cons_append, readDigits, if_pos (hdigit d List.mem_cons_self), ← List.cons_append,
      splitDigits_of_noDigit hdigit hrest]

theorem Digits.exists_cons {ds : List Char} (h : Digits ds) :
    ∃ d u, ds = d :: u ∧ d.isDigit := by
  obtain ⟨hne, hdigit⟩ := h
  cases ds with
  | nil => exact absurd rfl hne
  | cons d u => exact ⟨d, u, rfl, hdigit d List.mem_cons_self⟩

/-- What can come after the digits of a fraction. -/
theorem ExponentPart.head {e : List Char} {x : Option (Bool × List Char)} (h : ExponentPart e x)
    (hrest : Closed rest) : ∀ c ∈ (e ++ rest).head?, ¬c.isDigit ∧ c ≠ '.' := by
  intro c hc
  cases h with
  | absent =>
    refine ⟨hrest.noDigit c hc, ?_⟩
    rintro rfl
    exact absurd (hrest '.' hc) (by decide)
  | digits hletter =>
    obtain rfl := Option.some.inj hc
    simp only [List.mem_cons, List.not_mem_nil, or_false] at hletter
    rcases hletter with rfl | rfl <;> decide

theorem readFraction_of_part {f ds : List Char} (hf : FractionPart f ds) {r : List Char}
    (hr : ∀ c ∈ r.head?, ¬c.isDigit ∧ c ≠ '.') (atEnd : Cause) :
    readFraction atEnd (f ++ r) = .ok (ds, r) := by
  cases hf with
  | absent =>
    rw [List.nil_append, readFraction]
    rintro s rfl
    exact absurd rfl (hr '.' rfl).2
  | digits hds => exact readDigits_of_digits hds (fun c hc => (hr c hc).1) atEnd

theorem readExponent_of_part {e : List Char} {x : Option (Bool × List Char)}
    (he : ExponentPart e x) (hrest : Closed rest) (atEnd : Cause) :
    readExponent atEnd (e ++ rest) = .ok (x, rest) := by
  cases he with
  | absent => exact readExponent_of_closed hrest atEnd
  | @digits _ _ ds _ hletter hsign hds =>
    have hread := readDigits_of_digits hds hrest.noDigit atEnd
    obtain ⟨d, u, rfl, hd⟩ := hds.exists_cons
    have hplus : d ≠ '+' := by rintro rfl; cases hd
    have hminus : d ≠ '-' := by rintro rfl; cases hd
    simp only [List.mem_cons, List.not_mem_nil, or_false] at hletter
    simp only [exponentSigns, List.mem_cons, Prod.mk.injEq, List.not_mem_nil, or_false] at hsign
    rw [List.cons_append] at hread
    rcases hletter with rfl | rfl <;> rcases hsign with ⟨rfl, rfl⟩ | ⟨rfl, rfl⟩ | ⟨rfl, rfl⟩ <;>
      simp [readExponent, hread, hplus, hminus, Except.map]

theorem readNumeral_of_unsigned {t : List Char} {x : Numeral} (ht : Unsigned t x)
    (hrest : Closed rest) (atEnd : Cause) : readNumeral atEnd (t ++ rest) = .ok (x, rest) := by
  rcases ht with @⟨w, f, e, _, _, hwhole, hfraction, hexponent⟩
  have hhead := hexponent.head hrest
  have hdigit : NoDigit (f ++ (e ++ rest)) := by
    intro c hc
    cases hfraction with
    | absent => exact (hhead c hc).1
    | digits => obtain rfl := Option.some.inj hc; decide
  rw [List.append_assoc, List.append_assoc, readNumeral, readWhole_of_whole hwhole hdigit]
  show (readFraction _ (f ++ (e ++ rest)) >>= _) = _
  rw [readFraction_of_part hfraction hhead]
  show (readExponent _ (e ++ rest) >>= _) = _
  rw [readExponent_of_part hexponent hrest]
  rfl

theorem skipNumber_of_unsigned {t : List Char} {x : Numeral} (ht : Unsigned t x)
    (hrest : Closed rest) : skipNumber (t ++ rest) = .ok rest := by
  rw [skipNumber, readNumeral_of_unsigned ht hrest]
  rfl

theorem Unsigned.begins {t : List Char} {x : Numeral} (h : Unsigned t x) :
    ∃ c u, t = c :: u ∧ c.isDigit := by
  obtain ⟨hwhole, -, -⟩ := h
  cases hwhole with
  | zero => exact ⟨'0', _, rfl, rfl⟩
  | digits _ hds => exact ⟨_, _, rfl, hds _ List.mem_cons_self⟩

end

/-! ### Passing over a scalar -/

/-- Strings, lists and objects end by themselves, whatever follows. -/
def Enclosed (t : List Char) : Prop := ∃ c ∈ ['"', '[', '\x7b'], t.head? = some c

theorem not_enclosed {c : Char} {t : List Char} (hc : c ∉ ['"', '[', '\x7b']) :
    ¬Enclosed (c :: t) := by
  rintro ⟨d, hd, h⟩
  exact hc (Option.some.inj h ▸ hd)

theorem not_enclosed_digit {c : Char} {t : List Char} (hc : c.isDigit) : ¬Enclosed (c :: t) := by
  refine not_enclosed fun h => ?_
  simp only [List.mem_cons, List.not_mem_nil, or_false] at h
  rcases h with rfl | rfl | rfl <;> cases hc

theorem skipScalar_digit {c : Char} (hc : c.isDigit) (s : List Char) :
    skipScalar (c :: s) = skipNumber (c :: s) := by
  have hne {d : Char} (hd : d.isDigit = false) : c ≠ d := by
    rintro rfl
    exact absurd hc (by simp [hd])
  rw [skipScalar, if_pos hc]
  · exact hne rfl
  · exact hne rfl
  · exact hne rfl
  · exact hne rfl
  · exact hne rfl

theorem skipScalar_of_scalar {t rest : List Char} (h : Scalar t)
    (hrest : Closed rest ∨ Enclosed t) : skipScalar (t ++ rest) = .ok rest := by
  cases h with
  | null => exact readName_append ['u', 'l', 'l'] rest
  | true => exact readName_append ['r', 'u', 'e'] rest
  | false => exact readName_append ['a', 'l', 's', 'e'] rest
  | string hbody =>
    rw [List.cons_append, List.append_assoc]
    exact skipString_of_body hbody rest
  | positive hnumeral =>
    obtain ⟨c, u, rfl, hc⟩ := hnumeral.begins
    have hclosed := hrest.resolve_right (not_enclosed_digit hc)
    rw [List.cons_append, skipScalar_digit hc]
    exact skipNumber_of_unsigned hnumeral hclosed
  | negative hnumeral =>
    have hclosed := hrest.resolve_right (not_enclosed (by decide))
    exact skipNumber_of_unsigned hnumeral hclosed

/-- A scalar begins neither with a space nor with a bracket nor with a comma. -/
theorem Scalar.begins {t : List Char} (h : Scalar t) :
    ∃ c u, t = c :: u ∧ c ∉ spaces ++ closers ∧ c ≠ '[' ∧ c ≠ '\x7b' := by
  cases h with
  | null => exact ⟨_, _, rfl, by decide⟩
  | true => exact ⟨_, _, rfl, by decide⟩
  | false => exact ⟨_, _, rfl, by decide⟩
  | string => exact ⟨_, _, rfl, by decide⟩
  | positive hnumeral =>
    obtain ⟨c, u, rfl, hc⟩ := hnumeral.begins
    refine ⟨c, u, rfl, fun h => not_isDigit_of_mem h hc, ?_, ?_⟩
    · rintro rfl; cases hc
    · rintro rfl; cases hc
  | negative => exact ⟨_, _, rfl, by decide⟩

/-! ### Passing over a value -/

theorem rawObject_iff {t : List Char} {ms : List (List Char × List Char)} : RawObject t ms ↔
    ∃ u, t = '\x7b' :: (u ++ ['\x7d']) ∧ Items RawMember true u ms := by
  constructor
  · intro h
    cases h with
    | empty hw => exact ⟨_, rfl, items_iff.2 (.inl ⟨hw, rfl⟩)⟩
    | members hsep => exact ⟨_, rfl, items_iff.2 (.inr hsep)⟩
  · rintro ⟨u, rfl, hitems⟩
    rcases items_iff.1 hitems with ⟨hw, rfl⟩ | hsep
    · exact .empty hw
    · exact .members hsep

/-- No value begins with a space, or with what may follow a value. -/
theorem Value.begins {t : List Char} (h : Value t) : ∃ c u, t = c :: u ∧ c ∉ spaces ++ closers := by
  cases h with
  | scalar hscalar =>
    obtain ⟨c, u, rfl, hc, -, -⟩ := hscalar.begins
    exact ⟨c, u, rfl, hc⟩
  | list hform =>
    obtain ⟨u, rfl, -⟩ := sequence_iff.1 hform
    exact ⟨_, _, rfl, by decide⟩
  | object hform =>
    obtain ⟨u, rfl, -⟩ := rawObject_iff.1 hform
    exact ⟨_, _, rfl, by decide⟩

section

variable {stack : List Bracket} {b : Bracket} {w w' s rest : List Char} {c : Char}

theorem skipValue_of_openValue_none (h : openValue s = .ok (none, rest)) :
    skipValue stack s = skipRest stack rest := by
  fun_cases skipValue stack s with
  | case1 _ hf | case3 _ _ hf => cases h.symm.trans hf
  | case2 _ hf => cases h.symm.trans hf; rfl

theorem skipValue_of_openValue_some (h : openValue s = .ok (some b, rest)) :
    skipValue stack s = skipValue (b :: stack) rest := by
  fun_cases skipValue stack s with
  | case1 _ hf | case2 _ hf => cases h.symm.trans hf
  | case3 _ _ hf => cases h.symm.trans hf; rfl

theorem skipRest_of_nextValue_true (h : nextValue b s = .ok (true, rest)) :
    skipRest (b :: stack) s = skipValue (b :: stack) rest := by
  generalize hbs : b :: stack = bs
  fun_cases skipRest bs s with
  | case1 => cases hbs
  | case2 _ _ _ hf | case4 _ _ _ hf => cases hbs; cases h.symm.trans hf
  | case3 _ _ _ hf => cases hbs; cases h.symm.trans hf; rfl

theorem skipRest_of_nextValue_false (h : nextValue b s = .ok (false, rest)) :
    skipRest (b :: stack) s = skipRest stack rest := by
  generalize hbs : b :: stack = bs
  fun_cases skipRest bs s with
  | case1 => cases hbs
  | case2 _ _ _ hf | case3 _ _ _ hf => cases hbs; cases h.symm.trans hf
  | case4 _ _ _ hf => cases hbs; cases h.symm.trans hf; rfl

theorem openValue_scalar {t : List Char} (hw : Space w) (ht : Scalar t)
    (hrest : Closed rest ∨ Enclosed t) : openValue (w ++ (t ++ rest)) = .ok (none, rest) := by
  have hskip := skipScalar_of_scalar ht hrest
  obtain ⟨c, u, rfl, hc, hlist, hobject⟩ := ht.begins
  rw [List.cons_append] at hskip ⊢
  rw [openValue, skipSpace_append hw, skipSpace_cons (notMem_spaces hc)]
  split
  · next heq => exact absurd (List.cons.inj heq).1 hlist
  · next heq => exact absurd (List.cons.inj heq).1 hobject
  · rw [hskip]; rfl

theorem openValue_list_close (hw : Space w) (hw' : Space w') (r : List Char) :
    openValue (w ++ '[' :: (w' ++ ']' :: r)) = .ok (none, r) := by
  have hclose := skipSpace_append hw' (']' :: r)
  rw [skipSpace_cons (by decide)] at hclose
  rw [openValue, skipSpace_append hw, skipSpace_cons (by decide)]
  simp [hclose]

theorem openValue_list (hw : Space w) (hw' : Space w') (hc : c ∉ spaces ++ closers)
    (r : List Char) : openValue (w ++ '[' :: (w' ++ c :: r)) = .ok (some .list, c :: r) := by
  have hne : c ≠ ']' := by rintro rfl; exact absurd hc (by decide)
  have hvalue := skipSpace_append hw' (c :: r)
  rw [skipSpace_cons (notMem_spaces hc)] at hvalue
  rw [openValue, skipSpace_append hw, skipSpace_cons (by decide)]
  simp [hvalue]

theorem openValue_object_close (hw : Space w) (hw' : Space w') (r : List Char) :
    openValue (w ++ '\x7b' :: (w' ++ '\x7d' :: r)) = .ok (none, r) := by
  have hclose := skipSpace_append hw' ('\x7d' :: r)
  rw [skipSpace_cons (by decide)] at hclose
  rw [openValue, skipSpace_append hw, skipSpace_cons (by decide)]
  simp [hclose]

theorem openValue_object (hw : Space w) (hw' : Space w') {r : List Char}
    (hkey : skipKey ('"' :: s) = .ok r) :
    openValue (w ++ '\x7b' :: (w' ++ '"' :: s)) = .ok (some .object, r) := by
  have hquote := skipSpace_append hw' ('"' :: s)
  rw [skipSpace_cons (by decide)] at hquote
  rw [openValue, skipSpace_append hw, skipSpace_cons (by decide)]
  simp [hquote, hkey, Except.map]

theorem nextValue_close (hw : Space w) (b : Bracket) (r : List Char) :
    nextValue b (w ++ b.close :: r) = .ok (false, r) := by
  rw [nextValue, skipSpace_append hw]
  cases b with
  | list => rw [skipSpace_cons (by decide)]; rfl
  | object => rw [skipSpace_cons (by decide)]; rfl

theorem nextValue_list (hw : Space w) (r : List Char) :
    nextValue .list (w ++ ',' :: r) = .ok (true, r) := by
  rw [nextValue, skipSpace_append hw, skipSpace_cons (by decide)]
  rfl

theorem nextValue_object (hw : Space w) {r : List Char} (hkey : skipKey s = .ok r) :
    nextValue .object (w ++ ',' :: s) = .ok (true, r) := by
  rw [nextValue, skipSpace_append hw, skipSpace_cons (by decide)]
  show (skipKey s).map _ = _
  rw [hkey]
  rfl

end

theorem RawMember.begins {t : List Char} {m : List Char × List Char} (h : RawMember t m) :
    ∃ u, t = '"' :: u := by
  obtain ⟨-, -, -⟩ := h
  exact ⟨_, rfl⟩

theorem skipKey_of_member {t v k : List Char} (h : RawMember t (k, v)) {w : List Char}
    (hw : Space w) (rest : List Char) :
    ∃ w', Space w' ∧ skipKey (w ++ (t ++ rest)) = .ok (w' ++ (v ++ rest)) := by
  rcases h with @⟨k, u, u', v, hkey, hu, hu'⟩
  refine ⟨u', hu', ?_⟩
  have hcolon : readColon (u ++ ':' :: (u' ++ (v ++ rest))) = .ok (u' ++ (v ++ rest)) :=
    readColon_eq_ok_iff.2 ⟨u, rfl, hu⟩
  have htext : w ++ ('"' :: (k ++ '"' :: (u ++ ':' :: (u' ++ v))) ++ rest) =
      w ++ '"' :: (k ++ '"' :: (u ++ ':' :: (u' ++ (v ++ rest)))) := by simp
  rw [htext, skipKey, skipSpace_append hw, skipSpace_cons (by decide)]
  show (skipString _ >>= _) = _
  rw [skipString_of_body hkey]
  exact hcolon

/-- Inside any brackets `v` is passed over, up to where what follows it begins. -/
def Skipped (v : List Char) : Prop :=
  ∀ {w rest : List Char}, Space w → Closed rest → ∀ stack,
    skipValue stack (w ++ (v ++ rest)) = skipRest stack rest

theorem skipRest_of_elements {s : List Char} {vs : List (List Char)} (h : Items Eq false s vs)
    (hvs : ∀ v ∈ vs, Skipped v) (stack : List Bracket) (rest : List Char) :
    skipRest (.list :: stack) (s ++ ']' :: rest) = skipRest stack rest := by
  generalize hfirst : false = first at h
  induction h with
  | close hw => exact skipRest_of_nextValue_false (nextValue_close hw .list rest)
  | first => cases hfirst
  | @later w w' t s v vs hw hw' hv htail ih =>
    subst hv
    cases hfirst
    have hclosed : Closed (s ++ ']' :: rest) := htail.closed (by decide) rest
    rw [List.append_assoc, List.cons_append, skipRest_of_nextValue_true (nextValue_list hw _),
      List.append_assoc, List.append_assoc, hvs t List.mem_cons_self hw' hclosed]
    exact ih (fun v hv => hvs v (List.mem_cons_of_mem t hv)) rfl

theorem skipRest_of_members {s : List Char} {ms : List (List Char × List Char)}
    (h : Items RawMember false s ms) (hms : ∀ m ∈ ms, Skipped m.2) (stack : List Bracket)
    (rest : List Char) :
    skipRest (.object :: stack) (s ++ '\x7d' :: rest) = skipRest stack rest := by
  generalize hfirst : false = first at h
  induction h with
  | close hw => exact skipRest_of_nextValue_false (nextValue_close hw .object rest)
  | first => cases hfirst
  | @later w w' t s m ms hw hw' hm htail ih =>
    cases hfirst
    have hclosed : Closed (s ++ '\x7d' :: rest) := htail.closed (by decide) rest
    obtain ⟨u, hu, hkey⟩ := skipKey_of_member hm hw' (s ++ '\x7d' :: rest)
    rw [List.append_assoc, List.cons_append, List.append_assoc, List.append_assoc,
      skipRest_of_nextValue_true (nextValue_object hw hkey),
      hms m List.mem_cons_self hu hclosed]
    exact ih (fun m' hm' => hms m' (List.mem_cons_of_mem m hm')) rfl

theorem skipValue_of_value {t : List Char} (h : Value t) {w rest : List Char} (hw : Space w)
    (hrest : Closed rest ∨ Enclosed t) (stack : List Bracket) :
    skipValue stack (w ++ (t ++ rest)) = skipRest stack rest := by
  induction h generalizing w rest stack with
  | scalar hscalar => exact skipValue_of_openValue_none (openValue_scalar hw hscalar hrest)
  | @list t vs hform hvalues ih =>
    have hskipped : ∀ v ∈ vs, Skipped v := fun v hv _ _ hw hrest => ih v hv hw (.inl hrest)
    obtain ⟨u, rfl, hitems⟩ := sequence_iff.1 hform
    rw [List.cons_append, List.append_assoc, List.singleton_append]
    -- the first element is passed over as a value, the others as what follows it
    cases hitems with
    | close hw' => exact skipValue_of_openValue_none (openValue_list_close hw hw' rest)
    | @first w' v s _ vs hw' hv htail =>
      subst hv
      have hclosed : Closed (s ++ ']' :: rest) := htail.closed (by decide) rest
      have hfirst := hskipped v List.mem_cons_self space_nil hclosed
      obtain ⟨c, v', rfl, hc⟩ := (hvalues v List.mem_cons_self).begins
      rw [List.append_assoc, List.append_assoc, List.cons_append,
        skipValue_of_openValue_some (openValue_list hw hw' hc _), ← List.cons_append]
      refine (hfirst _).trans (skipRest_of_elements htail (fun x hx => ?_) stack rest)
      exact hskipped x (List.mem_cons_of_mem _ hx)
  | @object t ms hform _ ih =>
    have hskipped : ∀ m ∈ ms, Skipped m.2 := fun m hm _ _ hw hrest => ih m hm hw (.inl hrest)
    obtain ⟨u, rfl, hitems⟩ := rawObject_iff.1 hform
    rw [List.cons_append, List.append_assoc, List.singleton_append]
    cases hitems with
    | close hw' => exact skipValue_of_openValue_none (openValue_object_close hw hw' rest)
    | @first w' v s m ms hw' hm htail =>
      obtain ⟨u', hu', hkey⟩ := skipKey_of_member hm space_nil (s ++ '\x7d' :: rest)
      have hclosed : Closed (s ++ '\x7d' :: rest) := htail.closed (by decide) rest
      have hfirst := hskipped m List.mem_cons_self hu' hclosed
      obtain ⟨v', rfl⟩ := hm.begins
      rw [List.nil_append, List.cons_append] at hkey
      rw [List.append_assoc, List.append_assoc, List.cons_append,
        skipValue_of_openValue_some (openValue_object hw hw' hkey)]
      refine (hfirst _).trans (skipRest_of_members htail (fun x hx => ?_) stack rest)
      exact hskipped x (List.mem_cons_of_mem _ hx)

/-- A value is passed over whatever it is, and nothing behind it. -/
theorem skip_of_value {t w rest : List Char} (h : Value t) (hw : Space w)
    (hrest : Closed rest ∨ Enclosed t) : skip (w ++ (t ++ rest)) = .ok rest := by
  rw [skip, skipValue_of_value h hw hrest, skipRest]

end HostLog.Json
