import HostLog.Record
import Std.Data.String.ToInt

/-!
# Codes in messages

A message tells the code of its event by a label: the symbol of the code's kind, or the number in
brackets if the code has no meaning. `CodeTable.label_inj`: the label tells the code exactly, for a
table whose symbols differ and do not look like a number in brackets. The tables of all three
sources are such.
-/

namespace HostLog

/-- In decimal, with a sign if need be, different codes are written differently. -/
theorem toString_code_inj {c d : Int32} : toString c = toString d ↔ c = d :=
  Int.repr_inj.trans Int32.toInt_inj

/-- The kinds of one source, by code and by symbol. -/
structure CodeTable (κ : Type) where
  ofCode? : Int32 → Option κ
  code : κ → Int32
  symbol : κ → String
  /-- What stands before the number of a code without a meaning. -/
  opening : String
  ofCode?_eq_some_iff : ∀ {c k}, ofCode? c = some k ↔ c = code k
  symbol_inj : ∀ {j k}, symbol j = symbol k → j = k
  symbol_ne : ∀ k rest, symbol k ≠ opening ++ rest

namespace CodeTable

variable {κ : Type} (T : CodeTable κ)

/-- How a code stands in a message. -/
def label (c : Int32) : String :=
  match T.ofCode? c with
  | some k => T.symbol k
  | none => T.opening ++ toString c ++ "]"

theorem label_code (k : κ) : T.label (T.code k) = T.symbol k := by
  rw [label, T.ofCode?_eq_some_iff.2 rfl]

theorem label_of_ofCode?_eq_none {c : Int32} (h : T.ofCode? c = none) :
    T.label c = T.opening ++ (toString c ++ "]") := by
  rw [label, h, String.append_assoc]

theorem label_inj {c d : Int32} : T.label c = T.label d ↔ c = d := by
  refine ⟨fun h => ?_, congrArg T.label⟩
  rcases hc : T.ofCode? c with _ | j <;> rcases hd : T.ofCode? d with _ | k
  · rw [T.label_of_ofCode?_eq_none hc, T.label_of_ofCode?_eq_none hd, String.append_right_inj,
      String.append_left_inj] at h
    exact toString_code_inj.1 h
  · rw [T.ofCode?_eq_some_iff.1 hd, T.label_code, T.label_of_ofCode?_eq_none hc] at h
    exact absurd h.symm (T.symbol_ne k _)
  · rw [T.ofCode?_eq_some_iff.1 hc, T.label_code, T.label_of_ofCode?_eq_none hd] at h
    exact absurd h (T.symbol_ne j _)
  · rw [T.ofCode?_eq_some_iff.1 hc, T.ofCode?_eq_some_iff.1 hd] at h ⊢
    rw [T.label_code, T.label_code] at h
    rw [T.symbol_inj h]

end CodeTable

/-- A text that starts with another letter than a bracket is no number in brackets. -/
theorem ne_bracket_append {t rest : String} (h : t.toList.head? ≠ some '[') :
    t ≠ "[unknown:" ++ rest := by
  rintro rfl
  exact h (by simp)

/-! ### The tables of the three sources -/

def ModuleChange.table : CodeTable ModuleChange where
  ofCode? := ofCode?
  code := code
  symbol := symbol
  opening := "[unknown: "
  ofCode?_eq_some_iff := ofCode?_eq_some_iff
  symbol_inj {j k} := by cases j <;> cases k <;> simp [symbol]
  symbol_ne k rest := by
    rw [show "[unknown: " = "[unknown:" ++ " " from rfl, String.append_assoc]
    exact ne_bracket_append (by cases k <;> simp [symbol])

def FrameworkChange.table : CodeTable FrameworkChange where
  ofCode? := ofCode?
  code := code
  symbol := symbol
  opening := "[unknown:"
  ofCode?_eq_some_iff := ofCode?_eq_some_iff
  symbol_inj {j k} := by cases j <;> cases k <;> simp [symbol]
  symbol_ne k _ := ne_bracket_append (by cases k <;> simp [symbol])

def ServiceChange.table : CodeTable ServiceChange where
  ofCode? := ofCode?
  code := code
  symbol := symbol
  opening := "[unknown:"
  ofCode?_eq_some_iff := ofCode?_eq_some_iff
  symbol_inj {j k} := by cases j <;> cases k <;> simp [symbol]
  symbol_ne k _ := ne_bracket_append (by cases k <;> simp [symbol])

/-! ### The messages -/

theorem ModuleEvent.message_classify (e : ModuleEvent) :
    e.classify.message = "BundleEvent " ++ ModuleChange.table.label e.code := by
  simp only [classify, kind?, CodeTable.label, ModuleChange.table]
  cases ModuleChange.ofCode? e.code <;> rfl

theorem FrameworkEvent.message_classify (e : FrameworkEvent) :
    e.classify.message = "FrameworkEvent " ++ FrameworkChange.table.label e.code := by
  simp only [classify, kind?, CodeTable.label, FrameworkChange.table]
  cases FrameworkChange.ofCode? e.code <;> rfl

theorem ServiceEvent.message_classify (e : ServiceEvent) :
    e.classify.message =
      "ServiceEvent " ++ ServiceChange.table.label e.code ++ " - " ++ e.service.describe := by
  simp only [classify, kind?, CodeTable.label, ServiceChange.table]
  cases ServiceChange.ofCode? e.code <;> rfl

/-! ### The code, read off the message -/

theorem ModuleEvent.message_inj {e f : ModuleEvent} :
    e.classify.message = f.classify.message ↔ e.code = f.code := by
  rw [message_classify, message_classify, String.append_right_inj, CodeTable.label_inj]

theorem FrameworkEvent.message_inj {e f : FrameworkEvent} :
    e.classify.message = f.classify.message ↔ e.code = f.code := by
  rw [message_classify, message_classify, String.append_right_inj, CodeTable.label_inj]

/-- Two changes of one registration end alike. -/
theorem ServiceEvent.message_inj {c d : Int32} {s : Service} :
    (ServiceEvent.mk c s).classify.message = (ServiceEvent.mk d s).classify.message ↔ c = d := by
  rw [message_classify, message_classify, String.append_left_inj, String.append_left_inj,
    String.append_right_inj, CodeTable.label_inj]

end HostLog
