import HostLog.Proofs.Admission
import Mathlib.Data.List.Basic
import Mathlib.Logic.Function.Basic

/-!
# What a message tells

A message is the source of its event, the label of the code and, for a service, how the service is
shown. Class names go into it as they are, whatever they contain, and yet it can be taken apart: no
label has a blank in it, so the first one ends the label, and no number has an equality sign, so the
last one begins the number of the service. `message_eq_iff_alike`: two events have the same message
exactly if they agree in source, code and, for services, in number and in the classes as joined.
-/

namespace HostLog

/-! ### Cutting at a separator -/

section

variable {α : Type} {c : α} {l l' r r' : List α}

theorem cut_first (hl : c ∉ l) (hl' : c ∉ l') :
    l ++ c :: r = l' ++ c :: r' ↔ l = l' ∧ r = r' := by
  refine ⟨fun h => ?_, fun ⟨hl, hr⟩ => hl ▸ hr ▸ rfl⟩
  induction l generalizing l' with
  | nil =>
    cases l' with
    | nil => exact ⟨rfl, (List.cons.inj h).2⟩
    | cons d l' => exact absurd ((List.cons.inj h).1 ▸ List.mem_cons_self) hl'
  | cons d l ih =>
    cases l' with
    | nil => exact absurd ((List.cons.inj h).1 ▸ List.mem_cons_self) hl
    | cons d' l' =>
      obtain ⟨rfl, htail⟩ := List.cons.inj h
      obtain ⟨rfl, rfl⟩ :=
        ih (mt (List.mem_cons_of_mem _) hl) (mt (List.mem_cons_of_mem _) hl') htail
      exact ⟨rfl, rfl⟩

theorem cut_last (hr : c ∉ r) (hr' : c ∉ r') :
    l ++ c :: r = l' ++ c :: r' ↔ l = l' ∧ r = r' := by
  have hreverse : r.reverse ++ c :: l.reverse = r'.reverse ++ c :: l'.reverse ↔
      r.reverse = r'.reverse ∧ l.reverse = l'.reverse :=
    cut_first (mt List.mem_reverse.1 hr) (mt List.mem_reverse.1 hr')
  rw [List.reverse_inj, List.reverse_inj] at hreverse
  rw [and_comm, ← hreverse, ← List.reverse_inj]
  simp

theorem eq_nil_of_cons_cons_eq {d : α} {m : List α} (hcd : c ≠ d) (hr : ∀ u v, r ≠ u ++ c :: d :: v)
    (h : c :: d :: r = m ++ c :: d :: r') : m = [] := by
  rcases m with _ | ⟨x, _ | ⟨y, m⟩⟩
  · rfl
  · obtain ⟨hdc, -⟩ := List.cons.inj (List.cons.inj h).2
    exact absurd hdc.symm hcd
  · obtain ⟨-, htail⟩ := List.cons.inj (List.cons.inj h).2
    exact absurd htail (hr m r')

theorem cut_last_pair {d : α} (hcd : c ≠ d) (hr : ∀ u v, r ≠ u ++ c :: d :: v)
    (hr' : ∀ u v, r' ≠ u ++ c :: d :: v) :
    l ++ c :: d :: r = l' ++ c :: d :: r' ↔ l = l' ∧ r = r' := by
  refine ⟨fun h => ?_, fun ⟨hl, hr⟩ => hl ▸ hr ▸ rfl⟩
  rcases List.append_eq_append_iff.1 h with ⟨m, rfl, hm⟩ | ⟨m, rfl, hm⟩
  · obtain rfl := eq_nil_of_cons_cons_eq hcd hr hm
    exact ⟨(List.append_nil l).symm, (List.cons.inj (List.cons.inj hm).2).2⟩
  · obtain rfl := eq_nil_of_cons_cons_eq hcd hr' hm
    exact ⟨List.append_nil l', (List.cons.inj (List.cons.inj hm).2).2.symm⟩

end

/-! ### Numbers -/

theorem isDigit_of_mem_repr {n : Nat} {c : Char} (h : c ∈ n.repr.toList) : c.isDigit := by
  rw [Nat.toList_repr] at h
  exact Nat.isDigit_of_mem_toDigits (by decide) (by decide) h

theorem mem_toString_code {code : Int32} {c : Char} (h : c ∈ (toString code).toList) :
    c = '-' ∨ c.isDigit := by
  have hrepr : toString code = code.toInt.repr := rfl
  rw [hrepr] at h
  cases hn : code.toInt with
  | ofNat n =>
    rw [hn] at h
    exact .inr (isDigit_of_mem_repr h)
  | negSucc n =>
    rw [hn, Int.repr, String.toList_append] at h
    rcases List.mem_append.1 h with h | h
    · exact .inl (List.mem_singleton.1 h)
    · exact .inr (isDigit_of_mem_repr h)

/-! ### Services -/

theorem ServiceChange.blank_notMem_label (code : Int32) : ' ' ∉ (table.label code).toList := by
  rcases hk : table.ofCode? code with _ | k
  · rw [table.label_of_ofCode?_eq_none hk]
    intro h
    simp only [String.toList_append, List.mem_append] at h
    rcases h with h | h | h
    · exact absurd h (by decide)
    · rcases mem_toString_code h with h | h <;> exact absurd h (by decide)
    · exact absurd h (by decide)
  · rw [table.ofCode?_eq_some_iff.1 hk, table.label_code]
    cases k <;> decide

namespace Service

/-- The classes as they stand in a message. -/
def joined (s : Service) : String := String.intercalate ", " s.classes

theorem toList_describe (s : Service) : s.describe.toList =
    ('[' :: (s.joined.toList ++ "] (service.id".toList)) ++
      '=' :: ((toString s.id).toList ++ [')']) := by
  simp [describe, joined]

theorem equals_notMem_id (id : UInt64) : '=' ∉ (toString id).toList ++ [')'] := by
  intro h
  rcases List.mem_append.1 h with h | h
  · exact absurd (isDigit_of_mem_repr (n := id.toNat) h) (by decide)
  · exact absurd h (by decide)

theorem describe_inj {s t : Service} :
    s.describe = t.describe ↔ s.id = t.id ∧ s.joined = t.joined := by
  have hid : (toString s.id).toList ++ [')'] = (toString t.id).toList ++ [')'] ↔ s.id = t.id := by
    rw [List.append_left_inj, String.toList_inj]
    exact Nat.repr_inj.trans UInt64.toNat_inj
  rw [← String.toList_inj, toList_describe, toList_describe,
    cut_last (equals_notMem_id s.id) (equals_notMem_id t.id), hid, List.cons_inj_right,
    List.append_left_inj, String.toList_inj, and_comm]

end Service

/-! ### Events -/

/-- The two events agree in all that a message tells. -/
inductive Event.Alike : Event → Event → Prop
  | module {e f : ModuleEvent} (code : e.code = f.code) : Alike (.module e) (.module f)
  | framework {e f : FrameworkEvent} (code : e.code = f.code) : Alike (.framework e) (.framework f)
  | service {e f : ServiceEvent} (code : e.code = f.code) (id : e.service.id = f.service.id)
      (classes : String.intercalate ", " e.service.classes =
        String.intercalate ", " f.service.classes) : Alike (.service e) (.service f)

theorem ServiceEvent.message_iff {e f : ServiceEvent} :
    e.classify.message = f.classify.message ↔
      e.code = f.code ∧ e.service.id = f.service.id ∧ e.service.joined = f.service.joined := by
  have htext (e : ServiceEvent) : e.classify.message.toList = "ServiceEvent ".toList ++
      ((ServiceChange.table.label e.code).toList ++
        ' ' :: ('-' :: ' ' :: e.service.describe.toList)) := by
    simp [message_classify]
  rw [← String.toList_inj, htext, htext, List.append_right_inj,
    cut_first (ServiceChange.blank_notMem_label _) (ServiceChange.blank_notMem_label _),
    List.cons_inj_right, List.cons_inj_right, String.toList_inj, String.toList_inj,
    CodeTable.label_inj, Service.describe_inj]

/-- The character that the messages of a source begin with. -/
def Category.initial : Category → Char
  | module => 'B'
  | framework => 'F'
  | service => 'S'

theorem Category.initial_inj {c d : Category} : c.initial = d.initial ↔ c = d := by
  cases c <;> cases d <;> decide

/-- What can be read off the message of an event. -/
structure Told where
  category : Category
  code : Int32
  /-- The symbol of the code, if it has a meaning. -/
  symbol : Option String
  service : Option UInt64

namespace Event

variable {a b : Event}

def told (e : Event) : Told where
  category := e.category
  code := e.code
  symbol := e.symbol?
  service := match e with
    | service e => some e.service.id
    | module _ | framework _ => none

theorem head?_message (e : Event) : e.classify.message.toList.head? = some e.category.initial := by
  cases e with
  | module e => simp [classify, category, Category.initial, ModuleEvent.message_classify]
  | framework e => simp [classify, category, Category.initial, FrameworkEvent.message_classify]
  | service e => simp [classify, category, Category.initial, ServiceEvent.message_classify]

theorem category_eq_of_message_eq (h : a.classify.message = b.classify.message) :
    a.category = b.category := by
  have hhead := a.head?_message
  rw [h, b.head?_message] at hhead
  exact (Category.initial_inj.1 (Option.some.inj hhead)).symm

theorem alike_of_message_eq (h : a.classify.message = b.classify.message) : a.Alike b := by
  have hcategory := category_eq_of_message_eq h
  cases a <;> cases b
  case module.module e f => exact .module (ModuleEvent.message_inj.1 h)
  case framework.framework e f => exact .framework (FrameworkEvent.message_inj.1 h)
  case service.service e f =>
    obtain ⟨hcode, hid, hclasses⟩ := ServiceEvent.message_iff.1 h
    exact .service hcode hid hclasses
  all_goals cases hcategory

theorem Alike.message_eq (h : a.Alike b) : a.classify.message = b.classify.message := by
  rcases h with hcode | hcode | ⟨hcode, hid, hclasses⟩
  · exact ModuleEvent.message_inj.2 hcode
  · exact FrameworkEvent.message_inj.2 hcode
  · exact ServiceEvent.message_iff.2 ⟨hcode, hid, hclasses⟩

theorem Alike.told_eq (h : a.Alike b) : a.told = b.told := by
  rcases h with @⟨⟨c, m⟩, ⟨d, n⟩, hcode⟩ | @⟨⟨c, m, e⟩, ⟨d, n, f⟩, hcode⟩ |
    @⟨⟨c, s⟩, ⟨d, t⟩, hcode, hid, -⟩
  · cases hcode; rfl
  · cases hcode; rfl
  · cases hcode
    exact congrArg (fun id => Told.mk .service c _ (some id)) hid

/-- Events have the same message exactly if they are of one source, have one code and, where they
are about services, one number and the same classes, with commas and blanks between them. So the
message is enough to know the source, the code, whether the code has a meaning and which, and the
number of the service. -/
theorem message_eq_iff_alike (a b : Event) :
    (a.classify.message = b.classify.message ↔ a.Alike b) ∧
      ∃ read : String → Told, ∀ e : Event, read e.classify.message = e.told := by
  refine ⟨⟨alike_of_message_eq, Alike.message_eq⟩, ?_⟩
  have hfactors : Function.FactorsThrough told fun e => e.classify.message :=
    fun _ _ h => (alike_of_message_eq h).told_eq
  have : Nonempty Told := ⟨⟨.module, 0, none, none⟩⟩
  obtain ⟨read, hread⟩ := (Function.factorsThrough_iff told).1 hfactors
  exact ⟨read, fun e => (congrFun hread e).symm⟩

end Event

/-- A class whose name has a separator in it cannot be told from two classes. -/
example : (ServiceEvent.mk 1 ⟨7, ["a, b"], none⟩).classify.message =
    (ServiceEvent.mk 1 ⟨7, ["a", "b"], none⟩).classify.message := by decide +kernel

end HostLog
