import HostLog.Resolution
import Mathlib.Data.List.TakeWhile

/-!
# Which value decides

The context goes before the system, and a source without a value, or with the empty one, is passed
over (`Source.Silent`). `Decides` says which value that leaves, `Outcome` what comes of it: a value
that names a threshold sets it, and without one, or with one that cannot be understood, it is the
default. `resolve_outcome`: resolving finds the one value that decides, says what came of it in one
diagnostic, and looks at nothing else. A value that is not empty is never passed over, not even a
blank one, which names no threshold (`Threshold.parse_of_blank`).
-/

namespace HostLog

/-! ### Texts that name no threshold -/

theorem Error.message_invalidLevel (text : String) :
    (invalidLevel text).message = "invalid log level: " ++ Text.quote text := rfl

theorem Text.trim_of_blank {s : List Char} (h : ∀ c ∈ s, isBlank c) : trim s = [] := by
  have hs : s.dropWhile isBlank = [] := List.dropWhile_eq_nil_iff.2 h
  rw [trim, hs]
  rfl

theorem Severity.parse_eq_error {text : String} {e : Error} (h : parse text = .error e) :
    e = .invalidLevel text := by
  unfold parse at h
  split at h
  · cases h
  · split at h
    · cases h
    · cases h; rfl

namespace Threshold

variable {text : String}

theorem parse_eq_error {e : Error} (h : parse text = .error e) : e = .invalidLevel text := by
  unfold parse at h
  split at h
  · cases h
  · cases hs : Severity.parse text with
    | ok s => rw [hs] at h; cases h
    | error e' => rw [hs] at h; cases h; exact Severity.parse_eq_error hs

theorem parse_of_blank (h : ∀ c ∈ text.toList, Text.isBlank c) :
    parse text = .error (.invalidLevel text) := by
  have hkey : levelKey text = "" := by rw [levelKey, Text.trim_of_blank h]; rfl
  unfold parse Severity.parse
  rw [hkey]
  rfl

end Threshold

/-! ### Silent sources -/

namespace Source

variable {source : Source} {key : String}

/-- The source has no value for the key, or only the empty one. -/
def Silent (source : Source) (key : String) : Prop :=
  source.property key = none ∨ source.property key = some ""

theorem value?_eq_some_iff {v : String} :
    source.value? key = some v ↔ source.property key = some v ∧ v ≠ "" := by
  simp [value?, Option.filter_eq_some_iff]

theorem value?_eq_none_iff : source.value? key = none ↔ source.Silent key := by
  unfold value? Silent
  cases source.property key <;> simp

end Source

namespace Resolution

variable {context : Option Source} {system : Source} {key : String} {v : Option String}

/-- The value that decides about `key`, or none. -/
inductive Decides (context : Option Source) (system : Source) (key : String) : Option String → Prop
  | context {source text} (source_eq : context = some source)
      (value : source.property key = some text) (ne : text ≠ "") :
      Decides context system key (some text)
  | system {text} (silent : ∀ source, context = some source → source.Silent key)
      (value : system.property key = some text) (ne : text ≠ "") :
      Decides context system key (some text)
  | unset (silent : ∀ source, context = some source → source.Silent key)
      (system_silent : system.Silent key) : Decides context system key none

/-- What comes of the value that decides: the threshold, and what is said about it. A value that
cannot be understood is quoted. -/
inductive Outcome (key : String) : Option String → Resolution → Prop
  | unset : Outcome key none
      ⟨.atLeast .error, .ofMessage .debug Diagnostic.thresholdTarget
        ("event threshold: key=" ++ key ++ " unset, using ERROR")⟩
  | understood {text t} (parse : Threshold.parse text = .ok t) : Outcome key (some text)
      ⟨t, .ofMessage .debug Diagnostic.thresholdTarget
        ("event threshold: key=" ++ key ++ " value=" ++ text ++ " -> " ++ t.name)⟩
  | refused {text} (parse : ∀ t, Threshold.parse text ≠ .ok t) : Outcome key (some text)
      ⟨.atLeast .error, .ofMessage .warn Diagnostic.thresholdTarget
        ("event threshold: key=" ++ key ++ " invalid log level: " ++ Text.quote text ++
          ", using ERROR")⟩

/-- There is a value, but it names no threshold. -/
def Unparsable (v : Option String) : Prop :=
  ∃ text, v = some text ∧ ∀ t, Threshold.parse text ≠ .ok t

theorem bind_value?_eq_none_iff :
    (context.bind fun source => source.value? key) = none ↔
      ∀ source, context = some source → source.Silent key := by
  simp only [Option.bind_eq_none_iff, Source.value?_eq_none_iff]

theorem decides_iff : Decides context system key v ↔ value? context system key = v := by
  unfold value?
  constructor
  · rintro (⟨rfl, hv, hne⟩ | ⟨hs, hv, hne⟩ | ⟨hs, hsystem⟩)
    · rw [Option.bind_some, Source.value?_eq_some_iff.2 ⟨hv, hne⟩, Option.some_or]
    · rw [bind_value?_eq_none_iff.2 hs, Option.none_or, Source.value?_eq_some_iff.2 ⟨hv, hne⟩]
    · rw [bind_value?_eq_none_iff.2 hs, Option.none_or, Source.value?_eq_none_iff.2 hsystem]
  · rintro rfl
    cases hc : context.bind fun source => source.value? key with
    | some text =>
      obtain ⟨source, hsource, hvalue⟩ := Option.bind_eq_some_iff.1 hc
      obtain ⟨hv, hne⟩ := Source.value?_eq_some_iff.1 hvalue
      exact .context hsource hv hne
    | none =>
      have hs := bind_value?_eq_none_iff.1 hc
      rw [Option.none_or]
      cases hsys : system.value? key with
      | some text =>
        obtain ⟨hv, hne⟩ := Source.value?_eq_some_iff.1 hsys
        exact .system hs hv hne
      | none => exact .unset hs (Source.value?_eq_none_iff.1 hsys)

theorem ofValue_outcome (key : String) (v : Option String) : Outcome key v (ofValue key v) := by
  cases v with
  | none =>
    have hsaid : "event threshold: key=" ++ key ++ " unset, using ERROR" =
        "event threshold: key=" ++ key ++ " " ++ ("unset, using " ++ Threshold.default.name) := by
      rw [show " unset, using ERROR" = " " ++ ("unset, using " ++ Threshold.default.name) from rfl]
      simp only [String.append_assoc]
    rw [ofValue, diagnose, ← hsaid]
    exact .unset
  | some text =>
    cases hp : Threshold.parse text with
    | ok t =>
      have hsaid : "event threshold: key=" ++ key ++ " value=" ++ text ++ " -> " ++ t.name =
          "event threshold: key=" ++ key ++ " " ++ ("value=" ++ text ++ " -> " ++ t.name) := by
        rw [show " value=" = " " ++ "value=" from rfl]
        simp only [String.append_assoc]
      simp only [ofValue, hp, diagnose]
      rw [← hsaid]
      exact .understood hp
    | error e =>
      obtain rfl := Threshold.parse_eq_error hp
      have hsaid : "event threshold: key=" ++ key ++ " invalid log level: " ++ Text.quote text ++
            ", using ERROR" =
          "event threshold: key=" ++ key ++ " " ++
            ((Error.invalidLevel text).message ++ ", using " ++ Threshold.default.name) := by
        rw [show " invalid log level: " = " " ++ "invalid log level: " from rfl,
          show ", using ERROR" = ", using " ++ Threshold.default.name from rfl,
          Error.message_invalidLevel]
        simp only [String.append_assoc]
      have hrefused (t : Threshold) : Threshold.parse text ≠ .ok t := fun ht =>
        nomatch hp.symm.trans ht
      simp only [ofValue, hp, diagnose]
      rw [← hsaid]
      exact .refused hrefused

theorem level_of_outcome {r : Resolution} (h : Outcome key v r) :
    (r.diagnostic.level = .warn ↔ Unparsable v) ∧
      (r.diagnostic.level = .debug ↔ ¬Unparsable v) := by
  rcases h with _ | @⟨text, t, hp⟩ | @⟨text, hp⟩
  · have hv : ¬Unparsable none := by rintro ⟨_, h, _⟩; cases h
    exact ⟨⟨nofun, fun h => absurd h hv⟩, ⟨fun _ => hv, fun _ => rfl⟩⟩
  · have hv : ¬Unparsable (some text) := by rintro ⟨_, h, hne⟩; cases h; exact hne t hp
    exact ⟨⟨nofun, fun h => absurd h hv⟩, ⟨fun _ => hv, fun _ => rfl⟩⟩
  · have hv : Unparsable (some text) := ⟨text, rfl, hp⟩
    exact ⟨⟨fun _ => hv, fun _ => rfl⟩, ⟨nofun, fun h => absurd hv h⟩⟩

theorem outcome_of_decides (h : Decides context system key v) :
    Outcome key v (resolve context system key) := by
  rw [resolve, decides_iff.1 h]
  exact ofValue_outcome key v

theorem resolve_congr {context' : Option Source} {system' : Source}
    (hc : (context'.bind fun source => source.property key) =
      context.bind fun source => source.property key)
    (hs : system'.property key = system.property key) :
    resolve context' system' key = resolve context system key := by
  have hvalue (c : Option Source) : (c.bind fun source => source.value? key) =
      (c.bind fun source => source.property key).filter fun v => !v.isEmpty := by
    cases c <;> rfl
  rw [resolve, resolve, value?, value?, hvalue, hvalue, hc, Source.value?, Source.value?, hs]

theorem resolve_of_silent (h : ∀ source, context = some source → source.Silent key) :
    resolve context system key = resolve none system key := by
  rw [resolve, resolve, value?, bind_value?_eq_none_iff.2 h]
  rfl

end Resolution

open Resolution in
/-- Resolving a threshold, for all sources and keys. There is one value that decides, and the
threshold and the one diagnostic are its `Outcome`: a warning exactly if it cannot be understood. A
value of the context that is not empty decides whatever the system says, also a blank one, which
cannot be understood; without such a value the context might as well not be there. Nothing counts
but the values at the key. -/
theorem resolve_outcome (context : Option Source) (system : Source) (key : String) :
    let r := resolve context system key
    (∃ v, Decides context system key v ∧ (∀ w, Decides context system key w → w = v) ∧
        Outcome key v r ∧ (r.diagnostic.level = .warn ↔ Unparsable v) ∧
        (r.diagnostic.level = .debug ↔ ¬Unparsable v)) ∧
      (∀ source text, context = some source → source.property key = some text → text ≠ "" →
        Outcome key (some text) r ∧ (∀ other, resolve context other key = r) ∧
        ((∀ c ∈ text.toList, Text.isBlank c) → Unparsable (some text))) ∧
      ((∀ source, context = some source → source.Silent key) → r = resolve none system key) ∧
      ∀ context' system', (context'.bind fun source => source.property key) =
          (context.bind fun source => source.property key) →
        system'.property key = system.property key → resolve context' system' key = r := by
  refine ⟨?_, ?_, resolve_of_silent, fun _ _ => resolve_congr⟩
  · obtain ⟨v, hv⟩ : ∃ v, Decides context system key v := ⟨_, decides_iff.2 rfl⟩
    have hunique (w : Option String) (hw : Decides context system key w) : w = v :=
      (decides_iff.1 hw).symm.trans (decides_iff.1 hv)
    have hout := outcome_of_decides hv
    exact ⟨v, hv, hunique, hout, level_of_outcome hout⟩
  · intro source text hs hv hne
    have hdecides (system : Source) : Decides context system key (some text) := .context hs hv hne
    refine ⟨outcome_of_decides (hdecides system), fun other => ?_, fun hblank => ⟨text, rfl, ?_⟩⟩
    · rw [resolve, resolve, decides_iff.1 (hdecides other), decides_iff.1 (hdecides system)]
    · intro t ht
      exact nomatch (Threshold.parse_of_blank hblank).symm.trans ht

open Resolution in
/-- A blank value of the context decides over `DEBUG` of the system, an empty one does not, and
another key of the context is of no account. -/
theorem resolve_outcome_blank :
    let blank := Properties.empty.insert "level" "  "
    let silent := Properties.empty.insert "level" ""
    let system := Source.ofProperties (Properties.empty.insert "level" "DEBUG")
    let r := resolve (some (.ofProperties blank)) system "level"
    blank.get? "level" = some "  " ∧ (∀ c ∈ "  ".toList, Text.isBlank c) ∧
      Outcome "level" (some "  ") r ∧ Unparsable (some "  ") ∧
      resolve (some (.ofProperties blank)) (.ofProperties .empty) "level" = r ∧
      (Source.ofProperties silent).Silent "level" ∧
      resolve (some (.ofProperties silent)) system "level" = resolve none system "level" ∧
      resolve (some (.ofProperties (blank.insert "other" "INFO"))) system "level" = r := by
  intro blank silent system r
  have hvalue : blank.get? "level" = some "  " := by rw [Properties.get?_insert, if_pos rfl]
  have hsilent : (Source.ofProperties silent).Silent "level" := by
    refine .inr ?_
    show silent.get? "level" = some ""
    rw [Properties.get?_insert, if_pos rfl]
  have hother : (blank.insert "other" "INFO").get? "level" = blank.get? "level" := by
    rw [Properties.get?_insert, if_neg (by decide)]
  have hblank : ∀ c ∈ "  ".toList, Text.isBlank c := by
    intro c hc
    obtain rfl : c = ' ' := by simpa using hc
    rfl
  obtain ⟨-, hcontext, -, hcongr⟩ := resolve_outcome (some (.ofProperties blank)) system "level"
  obtain ⟨hout, hignored, hunparsable⟩ := hcontext _ "  " rfl hvalue (by decide)
  obtain ⟨-, -, hnone, -⟩ := resolve_outcome (some (.ofProperties silent)) system "level"
  exact ⟨hvalue, hblank, hout, hunparsable hblank, hignored _, hsilent,
    hnone fun _ hs => Option.some.inj hs ▸ hsilent, hcongr _ _ hother rfl⟩

end HostLog
