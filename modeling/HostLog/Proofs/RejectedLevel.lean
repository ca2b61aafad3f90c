import HostLog.Proofs.Precedence
import HostLog.Proofs.SingleLine
import HostLog.Proofs.Unambiguous

/-!
# What is said of a text that names no level

A text that names no level is quoted, in the message of the error and in the one diagnostic about a
configured threshold (`Resolution.refusal`). The quotation is the last thing in it that can vary,
and no quotation mark inside it comes after a blank, so that key and text are found again whatever
they contain (`refusal_inj`). `refused_text_told`: the text can be read back and breaks no line,
hence a refused value cannot pass for another one or for a line of its own. A value that names a
threshold is told as it is, without quotation.
-/

namespace HostLog

open Text

theorem Error.message_invalidLevel_inj {s t : String} :
    (invalidLevel s).message = (invalidLevel t).message ↔ s = t := by
  rw [message_invalidLevel, message_invalidLevel, String.append_right_inj, quote_inj]

namespace Diagnostic

variable {level level' : DiagnosticLevel} {target target' message message' : String}

theorem ofMessage_inj : ofMessage level target message = ofMessage level' target' message' ↔
    level = level' ∧ target = target' ∧ message = message' := by
  simp [ofMessage]

theorem singleLines_ofMessage (htarget : SingleLine target) (hmessage : SingleLine message) :
    (ofMessage level target message).SingleLines := by
  have hshown : ∀ f ∈ (ofMessage level target message).shown, f = ("message", .text message) := by
    simp [shown, ofMessage]
  refine ⟨htarget, fun f hf => ?_, fun f hf => ?_⟩
  · rw [hshown f hf]
    show SingleLine "message"
    decide
  · rw [hshown f hf]
    exact hmessage

end Diagnostic

namespace Resolution

variable {context : Option Source} {system : Source} {key key' text text' : String}

/-- What is said of a text under a key if it names no threshold. -/
def refusal (key text : String) : String :=
  "event threshold: key=" ++ key ++ " invalid log level: " ++ quote text ++ ", using ERROR"

theorem toList_refusal (key text : String) : (refusal key text).toList =
    ("event threshold: key=".toList ++ (key.toList ++ " invalid log level:".toList)) ++
      ' ' :: '"' :: text.toList.flatMap escape ++ '"' :: ", using ERROR".toList := by
  have hlabel : " invalid log level: " = " invalid log level:" ++ " " := by decide +kernel
  have hblank : " ".toList = [' '] := by decide +kernel
  unfold refusal
  rw [hlabel]
  simp only [String.toList_append, hblank, toList_quote, List.append_assoc, List.cons_append,
    List.nil_append]

theorem refusal_inj : refusal key text = refusal key' text' ↔ key = key' ∧ text = text' := by
  rw [← String.toList_inj, toList_refusal, toList_refusal]
  -- the words around key and text do not matter
  generalize "event threshold: key=".toList = l, " invalid log level:".toList = m,
    ", using ERROR".toList = r
  have hne : ' ' ≠ '"' := by decide
  rw [List.append_left_inj, cut_last_pair hne (flatMap_escape_ne _) (flatMap_escape_ne _),
    List.append_right_inj, List.append_left_inj, String.toList_inj]
  refine and_congr_right fun _ => ⟨fun h => ?_, fun h => h ▸ rfl⟩
  have hread := Place.read_flatMap_escape text.toList
  rw [h, Place.read_flatMap_escape] at hread
  exact (String.toList_inj.1 (Option.some.inj hread)).symm

theorem singleLine_refusal (h : SingleLine key) (text : String) :
    SingleLine (refusal key text) := by
  have hwords : SingleLine "event threshold: key=" ∧ SingleLine " invalid log level: " ∧
      SingleLine ", using ERROR" := by decide +kernel
  unfold refusal
  simp only [singleLine_append_iff]
  exact ⟨⟨⟨⟨hwords.1, h⟩, hwords.2.1⟩, singleLine_quote text⟩, hwords.2.2⟩

theorem diagnostic_of_refused (h : Decides context system key (some text))
    (hp : ∀ t, Threshold.parse text ≠ .ok t) : (resolve context system key).diagnostic =
      .ofMessage .warn Diagnostic.thresholdTarget (refusal key text) := by
  have hout := outcome_of_decides h
  generalize resolve context system key = r at hout ⊢
  cases hout with
  | understood ht => exact absurd ht (hp _)
  | refused => rfl

theorem decides_of_diagnostic (h : (resolve context system key).diagnostic =
    .ofMessage .warn Diagnostic.thresholdTarget (refusal key' text)) :
    key = key' ∧ Decides context system key (some text) := by
  obtain ⟨v, hv⟩ : ∃ v, Decides context system key v := ⟨_, decides_iff.2 rfl⟩
  have hout := outcome_of_decides hv
  generalize resolve context system key = r at hout h
  cases hout with
  | unset => exact nomatch (Diagnostic.ofMessage_inj.1 h).1
  | understood => exact nomatch (Diagnostic.ofMessage_inj.1 h).1
  | refused =>
    obtain ⟨rfl, rfl⟩ := refusal_inj.1 (Diagnostic.ofMessage_inj.1 h).2.2
    exact ⟨rfl, hv⟩

/-- A text that names no level is told by quoting it. The quoted text has no control and no
separator of lines or paragraphs in it, and undoing its escapes gives the text, so that different
texts have different messages. Both readings of levels fail with no other error. If such a text
decides about the threshold, one warning is said. It stays on one line if the key does, and so does
the line that is printed, in either layout; and nothing but this text under this key makes the same
diagnostic. -/
theorem refused_text_told :
    (∀ text, (Error.invalidLevel text).message = "invalid log level: " ++ quote text ∧
        unquote (quote text) = some text ∧ ∀ c ∈ (quote text).toList, ¬Breaking c) ∧
      (∀ text text', (Error.invalidLevel text).message = (Error.invalidLevel text').message →
        text = text') ∧
      (∀ text e, Threshold.parse text = .error e ∨ Severity.parse text = .error e →
        e = .invalidLevel text) ∧
      ∀ context system key text, Decides context system key (some text) →
        (∀ t, Threshold.parse text ≠ .ok t) →
        let d := (resolve context system key).diagnostic
        d = .ofMessage .warn Diagnostic.thresholdTarget (refusal key text) ∧
          (SingleLine key →
            SingleLine (refusal key text) ∧ ∀ layout : Output.Layout, SingleLine (layout.print d)) ∧
          ∀ context' system' key', (resolve context' system' key').diagnostic = d →
            key' = key ∧ Decides context' system' key' (some text) := by
  refine ⟨fun text => ⟨rfl, unquote_quote text, fun _ => not_breaking_of_mem_quote⟩,
    fun _ _ => Error.message_invalidLevel_inj.1, ?_, ?_⟩
  · rintro text e (h | h)
    · exact Threshold.parse_eq_error h
    · exact Severity.parse_eq_error h
  · intro context system key text hdecides hp d
    have hd : d = .ofMessage .warn Diagnostic.thresholdTarget (refusal key text) :=
      diagnostic_of_refused hdecides hp
    refine ⟨hd, fun hkey => ?_, fun context' system' key' h => decides_of_diagnostic (h.trans hd)⟩
    have hline := singleLine_refusal hkey text
    have htarget : SingleLine Diagnostic.thresholdTarget := by decide +kernel
    refine ⟨hline, fun layout => ?_⟩
    rw [hd]
    exact layout.singleLine_print (Diagnostic.singleLines_ofMessage htarget hline)

/-- A level followed by a line feed and a space of no width is refused. It is quoted on one line,
and not as the text that has the escape of that space written out. -/
theorem refused_text_told_escaped :
    let text := "INFO\n\u200b"
    let written := "INFO\n\\u\x7b200b\x7d"
    let system := Source.ofProperties (Properties.empty.insert "level" text)
    let d := (resolve none system "level").diagnostic
    Decides none system "level" (some text) ∧ (∀ t, Threshold.parse text ≠ .ok t) ∧
      (Error.invalidLevel text).message = "invalid log level: \"INFO\\n\\u\x7b200b\x7d\"" ∧
      unquote (quote text) = some text ∧
      (Error.invalidLevel text).message ≠ (Error.invalidLevel written).message ∧
      d = .ofMessage .warn Diagnostic.thresholdTarget (refusal "level" text) ∧
      SingleLine (refusal "level" text) ∧ SingleLine (Output.Layout.text.print d) ∧
      ∀ context' system' key', (resolve context' system' key').diagnostic = d →
        key' = "level" ∧ Decides context' system' key' (some text) := by
  intro text written system d
  have hvalue : system.property "level" = some text := by
    show (Properties.empty.insert "level" text).get? "level" = some text
    rw [Properties.get?_insert, if_pos rfl]
  have hdecides : Decides none system "level" (some text) := .system nofun hvalue (by decide)
  have hparse : Threshold.parse text = .error (.invalidLevel text) := by decide +kernel
  have hrefused : ∀ t, Threshold.parse text ≠ .ok t := fun t ht => nomatch hparse.symm.trans ht
  obtain ⟨hquoted, hinj, -, htold⟩ := refused_text_told
  obtain ⟨hd, hline, hdetermined⟩ := htold none system "level" text hdecides hrefused
  obtain ⟨hsingle, hprinted⟩ := hline (by decide)
  exact ⟨hdecides, hrefused, by decide +kernel, (hquoted text).2.1,
    mt (hinj text written) (by decide), hd, hsingle, hprinted .text, hdetermined⟩

end Resolution

end HostLog
