import HostLog.Proofs.CodeTable

/-!
# Classification loses nothing

Events and records are compared by contents, but an attached error only by its handle
(`Event.Same`, `Record.Same`). `classify_beq_iff`: two records are equal exactly when they come from
equal events. The category gives the source back, the message the code, and module and payload are
handed on.
-/

namespace HostLog

/-- The same event: of one source, with one code and the same contents. Attached errors are the same
if they are clones of one handle, whatever they say. -/
inductive Event.Same : Event → Event → Prop
  | module (e : ModuleEvent) : Same (.module e) (.module e)
  | framework {e f : FrameworkEvent} (code : e.code = f.code) (module : e.module = f.module)
      (error : e.error.map ErrorHandle.number = f.error.map ErrorHandle.number) :
      Same (.framework e) (.framework f)
  | service (e : ServiceEvent) : Same (.service e) (.service e)

/-- The same payload, where errors again are compared by handle. -/
inductive Payload.Same : Payload → Payload → Prop
  | error {e f : ErrorHandle} (number : e.number = f.number) : Same (.error e) (.error f)
  | service (s : Service) : Same (.service s) (.service s)

structure Record.Same (r s : Record) : Prop where
  severity : r.severity = s.severity
  category : r.category = s.category
  message : r.message = s.message
  module : r.module = s.module
  payload : Option.Rel Payload.Same r.payload s.payload

/-! ### What the comparisons decide -/

theorem ErrorHandle.beq_iff {e f : ErrorHandle} : e == f ↔ e.number = f.number :=
  beq_iff_eq (a := e.number) (b := f.number)

example : (ErrorHandle.mk 0 (.root "x") == ErrorHandle.mk 1 (.root "x")) = false := rfl

theorem ErrorHandle.option_beq_iff {e f : Option ErrorHandle} :
    e == f ↔ e.map number = f.map number := by
  cases e <;> cases f <;> simp [ErrorHandle.beq_iff]

theorem ModuleEvent.beq_iff {e f : ModuleEvent} : e == f ↔ e = f := by
  rw [show (e == f) = (e.code == f.code && e.module == f.module) from rfl]
  cases e; cases f
  simp

theorem ServiceEvent.beq_iff {e f : ServiceEvent} : e == f ↔ e = f := by
  rw [show (e == f) = (e.code == f.code && e.service == f.service) from rfl]
  cases e; cases f
  simp

theorem FrameworkEvent.beq_iff {e f : FrameworkEvent} : e == f ↔ e.code = f.code ∧
    e.module = f.module ∧ e.error.map ErrorHandle.number = f.error.map ErrorHandle.number := by
  rw [show (e == f) = (e.code == f.code && (e.module == f.module && e.error == f.error)) from rfl,
    Bool.and_eq_true, Bool.and_eq_true, beq_iff_eq, beq_iff_eq, ErrorHandle.option_beq_iff]

theorem Event.beq_iff_same {a b : Event} : a == b ↔ a.Same b := by
  constructor
  · intro h
    cases a <;> cases b
    case module.module e f => cases ModuleEvent.beq_iff.1 h; exact .module e
    case framework.framework e f =>
      obtain ⟨code, module, error⟩ := FrameworkEvent.beq_iff.1 h
      exact .framework code module error
    case service.service e f => cases ServiceEvent.beq_iff.1 h; exact .service e
    all_goals cases h
  · rintro (e | ⟨code, module, error⟩ | e)
    · exact ModuleEvent.beq_iff.2 rfl
    · exact FrameworkEvent.beq_iff.2 ⟨code, module, error⟩
    · exact ServiceEvent.beq_iff.2 rfl

theorem Payload.beq_iff_same {p q : Payload} : p == q ↔ p.Same q := by
  constructor
  · intro h
    cases p <;> cases q
    case error.error e f => exact .error (ErrorHandle.beq_iff.1 h)
    case service.service s t => cases eq_of_beq (show (s == t) = true from h); exact .service s
    all_goals cases h
  · rintro (h | s)
    · exact ErrorHandle.beq_iff.2 h
    · exact beq_self_eq_true s

theorem Payload.option_beq_iff_same {p q : Option Payload} : p == q ↔ Option.Rel Same p q := by
  rcases p with _ | p <;> rcases q with _ | q <;> simp [Payload.beq_iff_same]

theorem Record.beq_iff_same {r s : Record} : r == s ↔ r.Same s := by
  rw [show (r == s) = (r.severity == s.severity && (r.category == s.category &&
      (r.message == s.message && (r.module == s.module && r.payload == s.payload)))) from rfl]
  simp only [Bool.and_eq_true, beq_iff_eq, Payload.option_beq_iff_same]
  exact ⟨fun ⟨h₁, h₂, h₃, h₄, h₅⟩ => ⟨h₁, h₂, h₃, h₄, h₅⟩,
    fun ⟨h₁, h₂, h₃, h₄, h₅⟩ => ⟨h₁, h₂, h₃, h₄, h₅⟩⟩

/-! ### From events to records and back -/

theorem Payload.rel_same_error {e f : Option ErrorHandle} :
    Option.Rel Same (e.map .error) (f.map .error) ↔
      e.map ErrorHandle.number = f.map ErrorHandle.number := by
  rw [← ErrorHandle.option_beq_iff, ← option_beq_iff_same]
  cases e <;> cases f <;> rfl

theorem Payload.rel_same_service {s t : Service} :
    Option.Rel Same (some (.service s)) (some (.service t)) ↔ s = t := by
  refine ⟨fun h => ?_, fun h => h ▸ .some (.service s)⟩
  rcases h with ⟨⟨⟩⟩
  rfl

/-- Equal events become equal records: a label hangs on the code alone. -/
theorem Event.Same.classify {a b : Event} (h : a.Same b) : a.classify.Same b.classify := by
  rcases h with e | @⟨⟨c, m, e⟩, ⟨d, n, f⟩, code, module, error⟩ | e
  · exact ⟨rfl, rfl, rfl, rfl, .none⟩
  · cases code; cases module
    exact ⟨rfl, rfl, rfl, rfl, Payload.rel_same_error.2 error⟩
  · exact ⟨rfl, rfl, rfl, rfl, .some (.service e.service)⟩

/-- Equal records come from equal events. -/
theorem Event.same_of_classify {a b : Event} (h : a.classify.Same b.classify) : a.Same b := by
  cases a <;> cases b
  case module.module e f =>
    obtain ⟨c, m⟩ := e
    obtain ⟨d, n⟩ := f
    cases ModuleEvent.message_inj.1 h.message
    cases h.module
    exact .module ⟨c, m⟩
  case framework.framework e f =>
    exact .framework (FrameworkEvent.message_inj.1 h.message) h.module
      (Payload.rel_same_error.1 h.payload)
  case service.service e f =>
    obtain ⟨c, s⟩ := e
    obtain ⟨d, t⟩ := f
    -- the payload comes first: only with one service do the messages end alike
    cases Payload.rel_same_service.1 h.payload
    cases ServiceEvent.message_inj.1 h.message
    exact .service ⟨c, s⟩
  all_goals exact nomatch h.category

/-- Records are equal exactly when they come from equal events. Equality means the same on both
sides: all contents, whatever the code, and for an attached error the handle, in the event as in the
payload. Classifying an event twice gives equal records. -/
theorem Event.classify_beq_iff (a b : Event) :
    (a.classify == b.classify ↔ a == b) ∧ (a == b ↔ a.Same b) ∧
      (a.classify == b.classify ↔ a.classify.Same b.classify) ∧ a.classify == a.classify := by
  have hsame {a b : Event} : a.classify == b.classify ↔ a == b := by
    rw [Record.beq_iff_same, Event.beq_iff_same]
    exact ⟨Event.same_of_classify, Event.Same.classify⟩
  refine ⟨hsame, Event.beq_iff_same, Record.beq_iff_same, hsame.2 (Event.beq_iff_same.2 ?_)⟩
  cases a with
  | module e => exact .module e
  | framework e => exact .framework rfl rfl rfl
  | service e => exact .service e

end HostLog
