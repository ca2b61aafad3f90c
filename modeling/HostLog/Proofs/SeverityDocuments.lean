import HostLog.Proofs.Json.Choice
import HostLog.Proofs.LevelNames

/-!
# Documents of severities

A severity has one name. A document that is a string is decoded as the severity that the string
names exactly, without regard to how its characters are spelt (`IsString`); a configured text is
read more freely. `decode_agrees_with_parse`: what a document names is read as the same severity
from a configuration, and what is read from a configuration is, once it is printed, decoded as
itself.
-/

namespace HostLog

open Json

namespace Json

/-- The document is a string that reads as `s`, with nothing but space around it. -/
def IsString (document s : String) : Prop := Padded Quoted document.toList s

/-- The document is an object with `name` as its only key, and `null` belongs to it. -/
def IsKey (document name : String) : Prop := Padded (Object Null) document.toList [(name, ())]

variable {document s s' : String}

theorem isString_writeString (s : String) : IsString (writeString s) s :=
  padded_self (quoted_writeString s)

theorem decode_text_eq_ok_iff : Reader.text.decode document = .ok s ↔ IsString document s :=
  Reader.decode_eq_ok_iff Reader.accepts_text

theorem IsString.unique (h : IsString document s) (h' : IsString document s') : s = s' := by
  rw [← decode_text_eq_ok_iff] at h h'
  exact Except.ok.inj (h.symm.trans h')

theorem IsString.exists_cons (h : IsString document s) :
    ∃ u, skipSpace document.toList = '"' :: u := by
  unfold IsString at h
  generalize document.toList = t at h
  obtain ⟨hw, ⟨-⟩, -⟩ := h
  rw [skipSpace_append hw, List.cons_append, skipSpace_cons (by decide)]
  exact ⟨_, rfl⟩

theorem IsKey.exists_cons (h : IsKey document s) :
    ∃ u, skipSpace document.toList = '\x7b' :: u := by
  unfold IsKey at h
  generalize document.toList = t at h
  obtain ⟨hw, hobject, -⟩ := h
  obtain ⟨u, rfl, -⟩ := object_iff.1 hobject
  rw [skipSpace_append hw, List.cons_append, skipSpace_cons (by decide)]
  exact ⟨_, rfl⟩

theorem IsString.not_isKey (h : IsString document s) : ¬IsKey document s' := by
  intro h'
  obtain ⟨u, hu⟩ := h.exists_cons
  obtain ⟨v, hv⟩ := h'.exists_cons
  cases hu.symm.trans hv

end Json

theorem Threshold.name_eq_name_iff {t : Threshold} {v : Severity} :
    t.name = v.name ↔ t = .atLeast v := by
  cases t with
  | off =>
    refine ⟨fun h => ?_, nofun⟩
    exact absurd (h ▸ List.mem_cons_self) v.name_not_mem_offNames
  | atLeast u => rw [Threshold.atLeast.injEq]; exact Severity.name_inj

namespace Severity

variable {document s text : String} {v : Severity}

theorem lookup_names (t : String) (vs : List Severity) :
    (vs.map fun v => (v.name, v)).lookup t = vs.find? fun v => v.name == t := by
  induction vs with
  | nil => rfl
  | cons v vs ih =>
    rw [List.map_cons, List.lookup_cons, List.find?_cons, BEq.comm, ih]

theorem lookup_eq_some_iff : (all.map fun v => (v.name, v)).lookup s = some v ↔ s = v.name := by
  rw [lookup_names]
  exact ofName?_eq_some_iff

/-- A severity is decoded from its name, as a string or as a key. -/
theorem decode_eq_ok_iff :
    reader.decode document = .ok v ↔ IsString document v.name ∨ IsKey document v.name := by
  rw [reader, Reader.decode_eq_ok_iff (Reader.accepts_variant _), padded_choice_iff]
  simp only [lookup_eq_some_iff, exists_eq_left]
  rfl

theorem decode_string_iff (h : IsString document s) :
    reader.decode document = .ok v ↔ s = v.name := by
  rw [decode_eq_ok_iff]
  constructor
  · rintro (h' | h')
    · exact h.unique h'
    · exact absurd h' h.not_isKey
  · rintro rfl
    exact .inl h

theorem decode_string_unknown (h : IsString document s) (hs : ∀ v : Severity, s ≠ v.name) :
    ∃ place, reader.decode document = .error ⟨.unknownVariant s (all.map name), place⟩ := by
  refine Reader.decode_variant_unknown h (Option.eq_none_iff_forall_ne_some.2 fun v hv => ?_)
  exact hs v (lookup_eq_some_iff.1 hv)

theorem parse_name (v : Severity) : parse v.name = .ok v := by
  cases v <;> decide +kernel

theorem toJson_eq (v : Severity) : v.toJson = "\"" ++ v.name ++ "\"" := by
  cases v <;> decide +kernel

theorem isString_toJson (v : Severity) : IsString v.toJson v.name := isString_writeString v.name

end Severity

end HostLog
