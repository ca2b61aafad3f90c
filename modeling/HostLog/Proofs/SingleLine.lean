import HostLog.Output.Layout
import HostLog.Proofs.Quotation

/-!
# Texts on one line

A text stays on one line if none of its characters ends a line (`Text.SingleLine`). Quoted text
does, whatever was quoted. A diagnostic is printed on one line, in either layout, if its own texts
stay on one: what a layout puts between them, or in the place of a character, ends no line
(`Output.Layout.singleLine_print`).
-/

namespace HostLog

namespace Text

/-- The characters that end a line. -/
def lineBreaks : List Char := ['\n', '\x0b', '\x0c', '\r', '\x85', '\u2028', '\u2029']

def SingleLine (s : String) : Prop := ∀ c ∈ s.toList, c ∉ lineBreaks

instance (s : String) : Decidable (SingleLine s) :=
  List.decidableBAll (· ∉ lineBreaks) s.toList

variable {c x : Char} {s t : String}

theorem breaking_of_mem_lineBreaks (h : c ∈ lineBreaks) : Breaking c := by
  simp only [lineBreaks, List.mem_cons, List.not_mem_nil, or_false] at h
  rcases h with rfl | rfl | rfl | rfl | rfl | rfl | rfl
  · exact .inl (by decide)
  · exact .inl (by decide)
  · exact .inl (by decide)
  · exact .inl (by decide)
  · exact .inr (.inl (by decide))
  · exact .inr (.inr (.inl rfl))
  · exact .inr (.inr (.inr rfl))

theorem singleLine_quote (s : String) : SingleLine (quote s) := fun _ hc hbreak =>
  not_breaking_of_mem_quote hc (breaking_of_mem_lineBreaks hbreak)

theorem singleLine_append_iff : SingleLine (s ++ t) ↔ SingleLine s ∧ SingleLine t := by
  simp only [SingleLine, String.toList_append, List.forall_mem_append]

theorem singleLine_intercalate {ss : List String} (hs : SingleLine s)
    (h : ∀ t ∈ ss, SingleLine t) : SingleLine (String.intercalate s ss) := by
  induction ss with
  | nil => exact fun c hc => absurd hc (by simp)
  | cons t ss ih =>
    rw [List.forall_mem_cons] at h
    cases ss with
    | nil => simpa using h.1
    | cons u us =>
      rw [String.intercalate_cons_cons, singleLine_append_iff, singleLine_append_iff]
      exact ⟨⟨h.1, hs⟩, ih h.2⟩

/-- Replacing characters by visible ones breaks no line. -/
theorem singleLine_flatMap {f : Char → List Char} (hf : ∀ c, ∀ x ∈ f c, x = c ∨ Visible x)
    (h : SingleLine s) : SingleLine (String.ofList (s.toList.flatMap f)) := by
  intro x hx hbreak
  rw [String.toList_ofList, List.mem_flatMap] at hx
  obtain ⟨c, hc, hx⟩ := hx
  rcases hf c x hx with rfl | hvisible
  · exact h x hc hbreak
  · exact not_breaking_of_visible hvisible (breaking_of_mem_lineBreaks hbreak)

end Text

open Text

/-! ### Documents -/

namespace Json

variable {c x : Char} {s : String}

theorem mem_escapeChar (h : x ∈ escapeChar c) : x = c ∨ Visible x := by
  unfold escapeChar at h
  split at h
  · exact .inr (visible_of_mem (by decide) h)
  split at h
  · exact .inr (visible_of_mem (by decide) h)
  split at h
  · exact .inr (visible_of_mem (by decide) h)
  split at h
  · exact .inr (visible_of_mem (by decide) h)
  split at h
  · exact .inr (visible_of_mem (by decide) h)
  split at h
  · exact .inr (visible_of_mem (by decide) h)
  split at h
  · exact .inr (visible_of_mem (by decide) h)
  split at h
  · next hlt =>
    have hnat : c.toNat < 32 := hlt
    have hdigits : c.toNat / 16 < 16 ∧ c.toNat % 16 < 16 := by omega
    refine .inr (visible_of_mem ?_ h)
    simp only [List.all_cons, List.all_nil, Bool.and_true, Bool.and_eq_true, decide_eq_true_eq]
    exact ⟨by decide, by decide, by decide, by decide, visible_digitChar hdigits.1,
      visible_digitChar hdigits.2⟩
  · exact .inl (List.mem_singleton.1 h)

theorem singleLine_writeString (h : SingleLine s) : SingleLine (writeString s) := by
  have hbody := singleLine_flatMap (fun _ _ => mem_escapeChar) h
  have hquote : SingleLine "\"" := by decide
  have hwritten : writeString s =
      "\"" ++ String.ofList (s.toList.flatMap escapeChar) ++ "\"" := by
    rw [← String.toList_inj, writeString]
    simp
  rw [hwritten, singleLine_append_iff, singleLine_append_iff]
  exact ⟨⟨hquote, hbody⟩, hquote⟩

theorem singleLine_writeObject {members : List (String × String)}
    (h : ∀ e ∈ members, SingleLine e.1 ∧ SingleLine e.2) : SingleLine (writeObject members) := by
  rw [writeObject, singleLine_append_iff, singleLine_append_iff]
  refine ⟨⟨by decide, singleLine_intercalate (by decide) fun t ht => ?_⟩, by decide⟩
  obtain ⟨e, he, rfl⟩ := List.mem_map.1 ht
  obtain ⟨hkey, hvalue⟩ := h e he
  exact singleLine_append_iff.2
    ⟨singleLine_append_iff.2 ⟨singleLine_writeString hkey, by decide⟩, hvalue⟩

end Json

/-! ### Layouts -/

/-- The texts of the diagnostic, each on one line. -/
structure Diagnostic.SingleLines (d : Diagnostic) : Prop where
  target : SingleLine d.target
  names : ∀ f ∈ d.shown, SingleLine f.1
  values : ∀ f ∈ d.shown, SingleLine f.2.toText

namespace Output

theorem mem_terminalSafe {c x : Char} (h : x ∈ terminalSafe c) : x = c ∨ Visible x := by
  unfold terminalSafe at h
  split at h
  · exact .inr (visible_of_mem (by decide) h)
  split at h
  · exact .inr (visible_of_mem (by decide) h)
  split at h
  · exact .inr (visible_of_mem (by decide) h)
  split at h
  · exact .inr (visible_of_mem (by decide) h)
  split at h
  · exact .inr (visible_of_mem (by decide) h)
  split at h
  · exact .inr (visible_of_mem_codePointEscape h)
  · exact .inl (List.mem_singleton.1 h)

theorem singleLine_fieldText {field : String × FieldValue} (hname : SingleLine field.1)
    (hvalue : SingleLine field.2.toText) : SingleLine (fieldText field) := by
  unfold fieldText
  split
  · exact singleLine_flatMap (fun _ _ => mem_terminalSafe) hvalue
  · rw [singleLine_append_iff, singleLine_append_iff]
    exact ⟨⟨hname, by decide⟩, hvalue⟩

theorem singleLine_toJson {v : FieldValue} (h : SingleLine v.toText) : SingleLine v.toJson := by
  cases v with
  | text s => exact Json.singleLine_writeString h
  | truth b => exact h

theorem Layout.singleLine_print {d : Diagnostic} (h : d.SingleLines) (layout : Layout) :
    SingleLine (layout.print d) := by
  cases layout with
  | text =>
    have hlevel : SingleLine (levelText d.level) := by cases d.level <;> decide
    simp only [print, singleLine_append_iff]
    refine ⟨⟨⟨⟨hlevel, by decide⟩, h.target⟩, by decide⟩, singleLine_intercalate (by decide) ?_⟩
    intro t ht
    obtain ⟨f, hf, rfl⟩ := List.mem_map.1 ht
    exact singleLine_fieldText (h.names f hf) (h.values f hf)
  | json =>
    have hlevel : SingleLine d.level.name := by cases d.level <;> decide
    have hfields : ∀ e ∈ d.shown.map fun f => (f.1, f.2.toJson),
        SingleLine e.1 ∧ SingleLine e.2 := by
      intro e he
      obtain ⟨f, hf, rfl⟩ := List.mem_map.1 he
      exact ⟨h.names f hf, singleLine_toJson (h.values f hf)⟩
    refine Json.singleLine_writeObject fun e he => ?_
    simp only [List.mem_cons, List.not_mem_nil, or_false] at he
    rcases he with rfl | rfl | rfl
    · exact ⟨show SingleLine "level" by decide, Json.singleLine_writeString hlevel⟩
    · exact ⟨show SingleLine "fields" by decide, Json.singleLine_writeObject hfields⟩
    · exact ⟨show SingleLine "target" by decide, Json.singleLine_writeString h.target⟩

end Output

end HostLog
