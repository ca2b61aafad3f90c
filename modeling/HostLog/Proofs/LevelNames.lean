import HostLog.Proofs.LetterCase
import HostLog.Proofs.Precedence
import Mathlib.Data.List.DropRight

/-!
# Which texts name a level

A configured text counts by its core: what is left without the white space at its ends
(`Text.Core`). The core names a severity or the absence of one if it is the right word, each letter
in either case (`Recased`). `parse_reads_core`: both readings of a text go by this and nothing else,
and where they fail they give the text back as it was. White space is that of Unicode, but letters
have two cases only within ASCII, so that a word of other characters is never understood.
-/

namespace HostLog

namespace Text

/-- The code points that are white space. -/
def whiteSpace : List Nat :=
  [0x9, 0xA, 0xB, 0xC, 0xD, 0x20, 0x85, 0xA0, 0x1680, 0x2000, 0x2001, 0x2002, 0x2003, 0x2004,
    0x2005, 0x2006, 0x2007, 0x2008, 0x2009, 0x200A, 0x2028, 0x2029, 0x202F, 0x205F, 0x3000]

def WhiteSpace (c : Char) : Prop := c.toNat ∈ whiteSpace

/-- `core` is the text without white space at its ends. -/
inductive Core : List Char → List Char → Prop
  | intro {u core w : List Char} (left : ∀ c ∈ u, WhiteSpace c) (right : ∀ c ∈ w, WhiteSpace c)
      (first : ∀ c ∈ core.head?, ¬WhiteSpace c) (last : ∀ c ∈ core.getLast?, ¬WhiteSpace c) :
      Core (u ++ (core ++ w)) core

theorem isBlank_iff {c : Char} : isBlank c ↔ WhiteSpace c := by
  simp only [isBlank, WhiteSpace, whiteSpace, Bool.or_eq_true, Bool.and_eq_true, decide_eq_true_eq,
    beq_iff_eq, List.mem_cons, List.not_mem_nil, or_false]
  omega

variable {s core : List Char}

theorem trim_eq_rdropWhile (s : List Char) :
    trim s = (s.dropWhile isBlank).rdropWhile isBlank := rfl

theorem core_trim (s : List Char) : Core s (trim s) := by
  have hleft (c : Char) (hc : c ∈ s.takeWhile isBlank) : WhiteSpace c :=
    isBlank_iff.1 (List.mem_takeWhile_imp hc)
  have hright (c : Char) (hc : c ∈ (s.dropWhile isBlank).rtakeWhile isBlank) : WhiteSpace c :=
    isBlank_iff.1 (List.mem_rtakeWhile_imp hc)
  have hsplit : s.takeWhile isBlank ++
      (trim s ++ (s.dropWhile isBlank).rtakeWhile isBlank) = s := by
    rw [trim_eq_rdropWhile, List.rdropWhile_append_rtakeWhile, List.takeWhile_append_dropWhile]
  have hfirst (c : Char) (hc : c ∈ (trim s).head?) : ¬WhiteSpace c := by
    -- the first character of what is left has already been the first before the end was cut
    have hhead : (s.dropWhile isBlank).head? = some c := by
      rw [← List.rdropWhile_append_rtakeWhile (p := isBlank) (l := s.dropWhile isBlank),
        List.head?_append, ← trim_eq_rdropWhile, Option.mem_def.1 hc, Option.some_or]
    have hblank := List.head?_dropWhile_not isBlank s
    rw [hhead] at hblank
    rw [← isBlank_iff, hblank]
    decide
  have hlast (c : Char) (hc : c ∈ (trim s).getLast?) : ¬WhiteSpace c := by
    obtain ⟨hne, rfl⟩ := List.mem_getLast?_eq_getLast hc
    rw [← isBlank_iff]
    exact List.rdropWhile_last_not isBlank _ hne
  have hcore := Core.intro hleft hright hfirst hlast
  rwa [hsplit] at hcore

theorem trim_of_core (h : Core s core) : trim s = core := by
  obtain ⟨hu, hw, hfirst, hlast⟩ := h
  rw [trim_eq_rdropWhile, List.dropWhile_append_of_pos fun c hc => isBlank_iff.2 (hu c hc)]
  cases core with
  | nil =>
    rw [List.nil_append, List.dropWhile_eq_nil_iff.2 fun c hc => isBlank_iff.2 (hw c hc)]
    rfl
  | cons c cs =>
    have hkeep : (c :: cs).rdropWhile isBlank = c :: cs := by
      refine List.rdropWhile_eq_self_iff.2 fun hne => ?_
      rw [isBlank_iff]
      exact hlast _ (List.getLast?_eq_some_getLast hne)
    rw [List.cons_append, List.dropWhile_cons_of_neg (mt isBlank_iff.1 (hfirst c rfl)),
      ← List.cons_append, List.rdropWhile, List.reverse_append,
      List.dropWhile_append_of_pos fun d hd => isBlank_iff.2 (hw d (List.mem_reverse.1 hd))]
    exact hkeep

end Text

/-! ### Words in either case -/

/-- `t` is the word, but for the case of letters. -/
def Recased (t : List Char) (word : String) : Prop :=
  List.Forall₂ (fun c d => c = d ∨ c = d.toLower) t word.toList

def Capitals (word : String) : Prop := ∀ d ∈ word.toList, 'A' ≤ d ∧ d ≤ 'Z'

theorem capitals_of_mem_offNames {word : String} (h : word ∈ Threshold.offNames) :
    Capitals word := by
  simp only [Threshold.offNames, List.mem_cons, List.not_mem_nil, or_false] at h
  rcases h with rfl | rfl | rfl <;> simp [Capitals]

theorem Severity.capitals_name (v : Severity) : Capitals v.name := by
  cases v <;> simp [Capitals, name]

theorem capitals_warning : Capitals "WARNING" := by
  simp [Capitals]

section

variable {text word : String} {core : List Char}

theorem levelKey_eq_iff (hword : Capitals word) (h : Text.Core text.toList core) :
    levelKey text = word ↔ Recased core word := by
  rw [levelKey, Text.trim_of_core h, Recased, ← Text.map_toUpper_eq_iff hword, ← String.toList_inj,
    String.toList_ofList]

theorem Recased.letters (h : Recased core word) (hword : Capitals word) {c : Char} (hc : c ∈ core) :
    65 ≤ c.toNat ∧ c.toNat ≤ 122 := by
  have hcapital : 'A' ≤ c.toUpper ∧ c.toUpper ≤ 'Z' := by
    refine hword _ ?_
    rw [← (Text.map_toUpper_eq_iff hword).2 h]
    exact List.mem_map_of_mem hc
  have hnat : 65 ≤ c.toUpper.toNat ∧ c.toUpper.toNat ≤ 90 := hcapital
  rcases (Text.toUpper_eq_iff hcapital).1 rfl with hc | hc
  · rw [hc]
    omega
  · rw [hc, Text.toNat_toLower hcapital]
    omega

theorem Recased.not_whiteSpace (h : Recased core word) (hword : Capitals word) {c : Char}
    (hc : c ∈ core) : ¬Text.WhiteSpace c := by
  have := h.letters hword hc
  simp only [Text.WhiteSpace, Text.whiteSpace, List.mem_cons, List.not_mem_nil, or_false]
  omega

theorem Recased.ne_nil (h : Recased core word) (hne : word ≠ "") : core ≠ [] := by
  rintro rfl
  rw [Recased, List.forall₂_nil_left_iff, String.toList_eq_nil_iff] at h
  exact hne h

theorem Recased.core_append (h : Recased core word) (hword : Capitals word) {u w : List Char}
    (hu : ∀ c ∈ u, Text.WhiteSpace c) (hw : ∀ c ∈ w, Text.WhiteSpace c) :
    Text.Core (String.ofList (u ++ (core ++ w))).toList core := by
  rw [String.toList_ofList]
  exact .intro hu hw (fun c hc => h.not_whiteSpace hword (List.mem_of_mem_head? hc))
    fun c hc => h.not_whiteSpace hword (List.mem_of_mem_getLast? hc)

end

namespace Severity

variable {text : String} {v : Severity}

theorem name_ne_warning (v : Severity) : v.name ≠ "WARNING" := by cases v <;> decide

theorem name_not_mem_offNames (v : Severity) : v.name ∉ Threshold.offNames := by
  cases v <;> decide

theorem parse_eq_ok_iff :
    parse text = .ok v ↔ levelKey text = v.name ∨ v = .warn ∧ levelKey text = "WARNING" := by
  unfold parse
  cases hname : ofName? (levelKey text) with
  | some s =>
    rw [ofName?_eq_some_iff] at hname
    simp [hname, name_inj, s.name_ne_warning]
  | none =>
    have hne : levelKey text ≠ v.name := fun h => by
      rw [ofName?_eq_some_iff.2 h] at hname
      cases hname
    by_cases h : levelKey text = "WARNING"
    · simp [h, v.name_ne_warning.symm, eq_comm]
    · simp [h, hne]

theorem parse_ne_ok_iff :
    (∀ v, parse text ≠ .ok v) ↔ parse text = .error (.invalidLevel text) := by
  cases h : parse text with
  | ok v => simp
  | error e => simp [parse_eq_error h]

end Severity

namespace Threshold

variable {text : String} {core : List Char}

theorem parse_eq_off_iff : parse text = .ok .off ↔ levelKey text ∈ offNames := by
  unfold parse
  split
  · next h => simp [h]
  · next h => cases Severity.parse text <;> simp [h, Except.map]

theorem parse_eq_atLeast_iff {v : Severity} :
    parse text = .ok (.atLeast v) ↔ Severity.parse text = .ok v := by
  unfold parse
  split
  · next hoff =>
    -- a word that switches off is no name of a severity
    refine ⟨nofun, fun h => ?_⟩
    rcases Severity.parse_eq_ok_iff.1 h with hname | ⟨-, hname⟩
    · exact absurd (hname ▸ hoff) v.name_not_mem_offNames
    · exact absurd (hname ▸ hoff) (by decide)
  · cases Severity.parse text <;> simp [Except.map]

theorem parse_ne_ok_iff :
    (∀ t, parse text ≠ .ok t) ↔ parse text = .error (.invalidLevel text) := by
  cases h : parse text with
  | ok t => simp
  | error e => simp [parse_eq_error h]

theorem capitals_name (t : Threshold) : Capitals t.name := by
  cases t with
  | off => exact capitals_of_mem_offNames (by decide)
  | atLeast v => exact v.capitals_name

theorem parse_of_recased (t : Threshold) (h : Text.Core text.toList core)
    (hname : Recased core t.name) : parse text = .ok t := by
  have hkey := (levelKey_eq_iff t.capitals_name h).2 hname
  cases t with
  | off => exact parse_eq_off_iff.2 (hkey ▸ by decide)
  | atLeast v => exact parse_eq_atLeast_iff.2 (Severity.parse_eq_ok_iff.2 (.inl hkey))

theorem exists_recased_of_parse {t : Threshold} (h : Text.Core text.toList core)
    (hp : parse text = .ok t) : ∃ word, Recased core word ∧ Capitals word ∧ word ≠ "" := by
  have hcapitals : Capitals (levelKey text) ∧ levelKey text ≠ "" := by
    cases t with
    | off =>
      have hoff := parse_eq_off_iff.1 hp
      exact ⟨capitals_of_mem_offNames hoff, fun h => absurd (h ▸ hoff) (by decide)⟩
    | atLeast v =>
      rcases Severity.parse_eq_ok_iff.1 (parse_eq_atLeast_iff.1 hp) with hname | ⟨-, hname⟩
      · rw [hname]
        exact ⟨v.capitals_name, by cases v <;> decide⟩
      · rw [hname]
        exact ⟨capitals_warning, by decide⟩
  exact ⟨_, (levelKey_eq_iff hcapitals.1 h).1 rfl, hcapitals⟩

theorem refused_of_core (h : Text.Core text.toList core)
    (hcore : core = [] ∨ ∃ c ∈ core, 128 ≤ c.toNat ∨ Text.WhiteSpace c) :
    parse text = .error (.invalidLevel text) := by
  refine parse_ne_ok_iff.1 fun t ht => ?_
  obtain ⟨word, hword, hcapitals, hne⟩ := exists_recased_of_parse h ht
  rcases hcore with rfl | ⟨c, hc, hlarge | hspace⟩
  · exact hword.ne_nil hne rfl
  · have := hword.letters hcapitals hc
    omega
  · exact hword.not_whiteSpace hcapitals hc hspace

theorem severity_refused_iff : Severity.parse text = .error (.invalidLevel text) ↔
    parse text = .error (.invalidLevel text) ∨ parse text = .ok .off := by
  rw [← Severity.parse_ne_ok_iff, ← parse_ne_ok_iff]
  constructor
  · intro h
    by_cases hoff : parse text = .ok .off
    · exact .inr hoff
    · refine .inl fun t ht => ?_
      cases t with
      | off => exact hoff ht
      | atLeast v => exact h v (parse_eq_atLeast_iff.1 ht)
  · rintro (h | hoff) v hv
    · exact h _ (parse_eq_atLeast_iff.2 hv)
    · exact nomatch hoff.symm.trans (parse_eq_atLeast_iff.2 hv)

/-- A text is read by its core, of which it has one. The words that switch reporting off give `off`,
and both readings go together for the name of a severity, to which `WARNING` is added for `warn`;
each word in either case. In all other cases the reading fails and tells the whole text, that of a
severity also for the words of `off`. A core that is empty, or has a character outside ASCII or
white space inside, is always refused. The name of a threshold, in either case and with any white
space around it, is read as this threshold. -/
theorem parse_reads_core :
    (∀ text, ∃ core, Text.Core text.toList core ∧
      (∀ core', Text.Core text.toList core' → core' = core) ∧
      (parse text = .ok .off ↔ ∃ word ∈ ["OFF", "NONE", "DISABLED"], Recased core word) ∧
      (∀ v, (parse text = .ok (.atLeast v) ↔ Severity.parse text = .ok v) ∧
        (Severity.parse text = .ok v ↔
          Recased core v.name ∨ v = .warn ∧ Recased core "WARNING")) ∧
      ((∀ t, parse text ≠ .ok t) ↔ parse text = .error (.invalidLevel text)) ∧
      (Severity.parse text = .error (.invalidLevel text) ↔
        parse text = .error (.invalidLevel text) ∨ parse text = .ok .off) ∧
      ((core = [] ∨ ∃ c ∈ core, 128 ≤ c.toNat ∨ Text.WhiteSpace c) →
        parse text = .error (.invalidLevel text) ∧
          Severity.parse text = .error (.invalidLevel text))) ∧
    ∀ (t : Threshold) (u c w : List Char), (∀ x ∈ u, Text.WhiteSpace x) →
      (∀ x ∈ w, Text.WhiteSpace x) → Recased c t.name →
        parse (String.ofList (u ++ (c ++ w))) = .ok t := by
  refine ⟨fun text => ?_, fun t u c w hu hw hc =>
    parse_of_recased t (hc.core_append t.capitals_name hu hw) hc⟩
  have h := Text.core_trim text.toList
  refine ⟨_, h, fun core' h' => (Text.trim_of_core h').symm, ?_, fun v => ⟨parse_eq_atLeast_iff, ?_⟩,
    parse_ne_ok_iff, severity_refused_iff, fun hcore => ?_⟩
  · rw [parse_eq_off_iff]
    constructor
    · intro hoff
      exact ⟨_, hoff, (levelKey_eq_iff (capitals_of_mem_offNames hoff) h).1 rfl⟩
    · rintro ⟨word, hoff, hword⟩
      rw [(levelKey_eq_iff (capitals_of_mem_offNames hoff) h).2 hword]
      exact hoff
  · rw [Severity.parse_eq_ok_iff, levelKey_eq_iff v.capitals_name h,
      levelKey_eq_iff capitals_warning h]
  · have hrefused := refused_of_core h hcore
    exact ⟨hrefused, severity_refused_iff.2 (.inl hrefused)⟩

/-- A name in mixed case between a no-break space and an ideographic one is read. A dotless `i` is no
letter of `INFO`. -/
theorem parse_reads_core_warn :
    let refused := "\u0131nfo\n"
    Recased "wArN".toList "WARN" ∧ parse "\u00a0wArN\u3000" = .ok (.atLeast .warn) ∧
      (∃ core, Text.Core refused.toList core ∧ '\u0131' ∈ core) ∧
      parse refused = .error (.invalidLevel refused) ∧
      Severity.parse refused = .error (.invalidLevel refused) := by
  intro refused
  obtain ⟨hread, hnamed⟩ := parse_reads_core
  have hcased : Recased "wArN".toList "WARN" :=
    (Text.map_toUpper_eq_iff Severity.warn.capitals_name).1 (by decide)
  have hleft : ∀ c ∈ ['\u00a0'], Text.WhiteSpace c := by
    simp [Text.WhiteSpace, Text.whiteSpace]
  have hright : ∀ c ∈ ['\u3000'], Text.WhiteSpace c := by
    simp [Text.WhiteSpace, Text.whiteSpace]
  obtain ⟨core, hcore, hunique, -, -, -, -, hrefused⟩ := hread refused
  have hmem : '\u0131' ∈ core := by
    rw [← Text.trim_of_core hcore]
    decide
  obtain ⟨ht, hs⟩ := hrefused (.inr ⟨_, hmem, .inl (by decide)⟩)
  have hwarn := hnamed (.atLeast .warn) _ _ _ hleft hright hcased
  have htext : String.ofList (['\u00a0'] ++ ("wArN".toList ++ ['\u3000'])) = "\u00a0wArN\u3000" := by
    decide +kernel
  rw [htext] at hwarn
  exact ⟨hcased, hwarn, ⟨core, hcore, hmem⟩, ht, hs⟩

end Threshold

end HostLog
