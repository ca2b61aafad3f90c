import HostLog.FileStore
import HostLog.Proofs.PropertyDocuments
import HostLog.Proofs.Utf8

/-!
# Files of property sets

The content of a file is decoded before its document is looked at. `ofFile_eq_ofJson`: a file that
is UTF-8 holds what its text holds, with the same failure if there is one. A file that is not is
refused as such, also where the bytes before the fault are a whole document or already wrong as one.
A byte order mark is a character of the text like any other, and no document begins with it.
-/

namespace HostLog

open Text

variable {content : ByteArray} {text : String}

/-! ### Decoding -/

theorem decodeText_of_bytes (h : bytes text = content.data.toList) :
    decodeText content = .ok text := by
  rw [decodeText, fromUTF8?_eq_some_iff.2 h]

theorem decodeText_of_not_wellFormed (h : ¬WellFormed content.data.toList) :
    decodeText content = .error .notUtf8 := by
  unfold decodeText
  split
  · next text htext =>
    exact absurd (wellFormed_iff_exists_bytes.2 ⟨text, fromUTF8?_eq_some_iff.1 htext⟩) h
  · rfl

/-! ### Property sets -/

namespace Properties

theorem ofContent_of_bytes (h : bytes text = content.data.toList) :
    ofContent content = ofJson text := by
  rw [ofContent, decodeText_of_bytes h]
  rfl

theorem ofContent_of_not_wellFormed (h : ¬WellFormed content.data.toList) :
    ofContent content = .error (.io .notUtf8) := by
  rw [ofContent, decodeText_of_not_wellFormed h]
  rfl

theorem ofFile_of_read {store : FileStore} {path : String} (h : store.read path = .ok content) :
    ofFile store path = ofContent content := by
  rw [ofFile, h]
  rfl

theorem ofJson_ne_io (text : String) (e : FileError) : ofJson text ≠ .error (.io e) := by
  unfold ofJson
  cases reader.decode text <;> exact nofun

/-- A document begins with space or with its brace. -/
theorem Holds.head? {members : List (String × String)} (h : Holds text members) :
    ∃ c ∈ text.toList.head?, c ∈ Json.spaces ∨ c = '\x7b' := by
  unfold Holds at h
  generalize text.toList = s at h
  obtain @⟨w, t, w', _, hw, hobject, -⟩ := h
  cases w with
  | nil => cases hobject <;> exact ⟨'\x7b', rfl, .inr rfl⟩
  | cons c w => exact ⟨c, rfl, .inl (hw c List.mem_cons_self)⟩

theorem ofJson_of_mark (text : String) :
    ∃ failure, ofJson ("\ufeff" ++ text) = .error (.serialization failure) := by
  refine ofJson_eq_error fun members h => ?_
  obtain ⟨c, hc, hfirst⟩ := h.head?
  have hmark : ("\ufeff" ++ text).toList.head? = some '\ufeff' := by simp
  obtain rfl := Option.some.inj (hmark.symm.trans hc)
  exact absurd hfirst (by decide)

end Properties

theorem Text.bytes_mark (text : String) :
    bytes ("\ufeff" ++ text) = [0xEF, 0xBB, 0xBF] ++ bytes text := by
  have hmark : String.utf8EncodeChar '\ufeff' = [0xEF, 0xBB, 0xBF] := by decide
  rw [← hmark, ← bytes_cons]
  refine congrArg bytes (String.toList_inj.1 ?_)
  simp

namespace Properties

/-- Loading a file that can be read. If its bytes are a text, what comes of it is what comes of
loading the text, failures included. If they are not, it is an error of the file. They are a text
exactly if they are bytes of characters one after another, and otherwise there is a fault after the
bytes of some text: a stray tail, more bytes than the character takes, a surrogate, a code point
beyond the last one, or a character that ends too soon. A byte order mark is part of the text, which
then is no document. -/
theorem ofFile_eq_ofJson (store : FileStore) (path : String) (content : ByteArray)
    (h : store.read path = .ok content) :
    (∀ text, bytes text = content.data.toList → ofFile store path = ofJson text) ∧
      (¬WellFormed content.data.toList → ofFile store path = .error (.io .notUtf8)) ∧
      (WellFormed content.data.toList ↔ ∃ text, bytes text = content.data.toList) ∧
      (¬WellFormed content.data.toList ↔
        ∃ text rest, content.data.toList = bytes text ++ rest ∧ Fault rest) ∧
      ((∃ e, ofFile store path = .error (.io e)) ↔ ¬WellFormed content.data.toList) ∧
      ∀ text, content.data.toList = [0xEF, 0xBB, 0xBF] ++ bytes text →
        ofFile store path = ofJson ("\ufeff" ++ text) ∧
          ∃ failure, ofFile store path = .error (.serialization failure) := by
  rw [ofFile_of_read h]
  refine ⟨fun _ => ofContent_of_bytes, ofContent_of_not_wellFormed, wellFormed_iff_exists_bytes,
    not_wellFormed_iff_fault, ⟨?_, fun hfault => ⟨_, ofContent_of_not_wellFormed hfault⟩⟩, ?_⟩
  · rintro ⟨e, he⟩ hformed
    obtain ⟨text, htext⟩ := wellFormed_iff_exists_bytes.1 hformed
    rw [ofContent_of_bytes htext] at he
    exact ofJson_ne_io text e he
  · intro text htext
    rw [ofContent_of_bytes ((bytes_mark text).trans htext.symm)]
    exact ⟨rfl, ofJson_of_mark text⟩

/-- A whole document and a surrogate after it, the document after a byte order mark, and the
document alone. -/
theorem ofFile_eq_ofJson_surrogate :
    let broken := FileStore.single "p" (.file ⟨#[0x7b, 0x7d, 0xED, 0xA0, 0x80]⟩)
    let marked := FileStore.single "p" (.file ⟨#[0xEF, 0xBB, 0xBF, 0x7b, 0x7d]⟩)
    let plain := FileStore.single "p" (.file ⟨#[0x7b, 0x7d]⟩)
    broken.read "p" = .ok ⟨#[0x7b, 0x7d, 0xED, 0xA0, 0x80]⟩ ∧
      ofFile broken "p" = .error (.io .notUtf8) ∧
      marked.read "p" = .ok ⟨#[0xEF, 0xBB, 0xBF, 0x7b, 0x7d]⟩ ∧
      (∃ failure, ofFile marked "p" = .error (.serialization failure)) ∧
      plain.read "p" = .ok ⟨#[0x7b, 0x7d]⟩ ∧ ofFile plain "p" = ofJson "\x7b\x7d" ∧
      ofJson "\x7b\x7d" = .ok empty := by
  intro broken marked plain
  have hbroken : broken.read "p" = .ok ⟨#[0x7b, 0x7d, 0xED, 0xA0, 0x80]⟩ := by rfl
  have hmarked : marked.read "p" = .ok ⟨#[0xEF, 0xBB, 0xBF, 0x7b, 0x7d]⟩ := by rfl
  have hplain : plain.read "p" = .ok ⟨#[0x7b, 0x7d]⟩ := by rfl
  have htext : bytes "\x7b\x7d" = [0x7b, 0x7d] := by decide +kernel
  have hsurrogate : Fault [0xED, 0xA0, 0x80] := .surrogate rfl ⟨by decide, by decide⟩
  obtain ⟨-, hrefused, -, hfault, -, -⟩ := ofFile_eq_ofJson broken "p" _ hbroken
  obtain ⟨-, -, -, -, -, hmark⟩ := ofFile_eq_ofJson marked "p" _ hmarked
  obtain ⟨hsame, -, -, -, -, -⟩ := ofFile_eq_ofJson plain "p" _ hplain
  refine ⟨hbroken, hrefused (hfault.2 ⟨"\x7b\x7d", _, ?_, hsurrogate⟩), hmarked,
    (hmark "\x7b\x7d" ?_).2, hplain, hsame _ htext, by decide +kernel⟩
  · rw [htext]
    rfl
  · rw [htext]
    rfl

end Properties

end HostLog
