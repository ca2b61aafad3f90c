import HostLog.Proofs.Admission
import Mathlib.Data.List.Forall2

/-!
# Events of three sources at once

Module, framework and service events come in three streams of their own, and a logger gets them
mixed, in an order that nobody promises (`Interleaving`). Of each event the logger decides by that
event alone, and the category of a record is the source of its event. So the mixture can be undone:
`recorded_interleaving` finds the log of each stream in the log of the mixture, as a logger would
have made it that got nothing else.
-/

namespace HostLog

/-- The events `es` are the three streams, mixed in some way, with each stream in its own order. -/
inductive Interleaving :
    List ModuleEvent → List FrameworkEvent → List ServiceEvent → List Event → Prop
  | nil : Interleaving [] [] [] []
  | module {e ms fs ss es} (tail : Interleaving ms fs ss es) :
      Interleaving (e :: ms) fs ss (.module e :: es)
  | framework {e ms fs ss es} (tail : Interleaving ms fs ss es) :
      Interleaving ms (e :: fs) ss (.framework e :: es)
  | service {e ms fs ss es} (tail : Interleaving ms fs ss es) :
      Interleaving ms fs (e :: ss) (.service e :: es)

/-- The stream of one source by itself. -/
def Category.stream (ms : List ModuleEvent) (fs : List FrameworkEvent) (ss : List ServiceEvent) :
    Category → List Event
  | module => ms.map .module
  | framework => fs.map .framework
  | service => ss.map .service

/-- The action hands the event to the logger, which finds the source or is told it. -/
inductive Action.Brings : Action → Event → Prop
  | event {e : Event} : Brings (.event e) e
  | moduleChanged {e : ModuleEvent} : Brings (.moduleChanged e) (.module e)
  | frameworkReported {e : FrameworkEvent} : Brings (.frameworkReported e) (.framework e)
  | serviceChanged {e : ServiceEvent} : Brings (.serviceChanged e) (.service e)

theorem Event.category_classify (e : Event) : e.classify.category = e.category := by
  cases e <;> rfl

/-! ### Streams -/

namespace Interleaving

variable {ms : List ModuleEvent} {fs : List FrameworkEvent} {ss : List ServiceEvent}
variable {es : List Event}

theorem filter_category (h : Interleaving ms fs ss es) (c : Category) :
    es.filter (fun e => e.category = c) = c.stream ms fs ss := by
  induction h with
  | nil => cases c <;> rfl
  | module _ ih | framework _ ih | service _ ih =>
    rw [List.filter_cons, ih]
    cases c <;> rfl

theorem perm (h : Interleaving ms fs ss es) :
    es.Perm (Category.all.flatMap (Category.stream ms fs ss)) := by
  simp only [Category.all, List.flatMap_cons, List.flatMap_nil, List.append_nil]
  induction h with
  | nil => exact .nil
  | module _ ih => exact ih.cons _
  | framework _ ih => exact (ih.cons _).trans List.perm_middle.symm
  | service _ ih =>
    refine (ih.cons _).trans ?_
    rw [← List.append_assoc, ← List.append_assoc]
    exact List.perm_middle.symm

end Interleaving

/-! ### Logs -/

namespace Logger

variable {t : Threshold} {es es' : List Event}

theorem flatMap_calls_of_brings {as : List Action} (h : List.Forall₂ Action.Brings as es) :
    as.flatMap (Action.calls t) = es.flatMap fun e => e.classify.admitted t := by
  induction h with
  | nil => rfl
  | cons hbrings _ ih =>
    rw [List.flatMap_cons, List.flatMap_cons, ih]
    cases hbrings <;> rfl

theorem state_of_brings {as : List Action} (h : List.Forall₂ Action.Brings as es) :
    (performAll ⟨t, .recording, []⟩ as).1.state = recorded t es := by
  rw [performAll_recording, recorded_eq_flatMap, ← flatMap_calls_of_brings h]
  rfl

theorem filter_category_recorded (t : Threshold) (es : List Event) (c : Category) :
    (recorded t es).filter (fun x => x.record.category = c) =
      recorded t (es.filter fun e => e.category = c) := by
  rw [recorded_eq_filter, recorded_eq_filter, List.filter_map, List.filter_filter,
    List.filter_filter]
  simp only [Function.comp_def, Event.entry, Event.category_classify, Bool.and_comm]

theorem recorded_perm (h : es.Perm es') : (recorded t es).Perm (recorded t es') := by
  rw [recorded_eq_filter, recorded_eq_filter]
  exact (h.filter _).map _

/-- Three streams of events, mixed in any way and handed to one logger, each event as one of any
source or through the callback for its own. What is recorded of a category is what a logger with the
same threshold records of the stream of this source alone, in the same order, and besides the three
nothing is recorded. So two mixtures of the same streams give logs of the same length with the same
entries, which differ only in how the categories are mixed. -/
theorem recorded_interleaving (t : Threshold) {ms : List ModuleEvent} {fs : List FrameworkEvent}
    {ss : List ServiceEvent} {es : List Event} (h : Interleaving ms fs ss es) :
    (∀ as ds, List.Forall₂ Action.Brings as ds →
        (performAll ⟨t, .recording, []⟩ as).1.state = recorded t ds) ∧
      (∀ c : Category, (recorded t es).filter (fun x => x.record.category = c) =
        recorded t (c.stream ms fs ss)) ∧
      (recorded t es).Perm (recorded t (ms.map .module) ++ recorded t (fs.map .framework) ++
        recorded t (ss.map .service)) ∧
      ∀ es', Interleaving ms fs ss es' →
        (recorded t es').length = (recorded t es).length ∧
        (recorded t es').Perm (recorded t es) ∧
        ∀ c : Category, (recorded t es').filter (fun x => x.record.category = c) =
          (recorded t es).filter fun x => x.record.category = c := by
  have hcategory {es' : List Event} (h' : Interleaving ms fs ss es') (c : Category) :
      (recorded t es').filter (fun x => x.record.category = c) =
        recorded t (c.stream ms fs ss) := by
    rw [filter_category_recorded, h'.filter_category]
  refine ⟨fun _ _ => state_of_brings, hcategory h, ?_, fun es' h' => ?_⟩
  · have hperm := recorded_perm (t := t) h.perm
    simpa [Category.all, Category.stream, recorded_eq_flatMap] using hperm
  · have hperm := recorded_perm (t := t) (h'.perm.trans h.perm.symm)
    exact ⟨hperm.length_eq, hperm, fun c => (hcategory h' c).trans (hcategory h c).symm⟩

/-- Code 2 in all three streams, mixed in two ways. Of the four events the one of the service is not
admitted, the two of modules keep their order, and the two logs are not the same. -/
theorem recorded_interleaving_twice :
    let ms := [ModuleEvent.mk 2 none, ModuleEvent.mk 99 none]
    let fs := [FrameworkEvent.mk 2 none none]
    let ss := [ServiceEvent.mk 2 ⟨7, ["a"], none⟩]
    let es := [Event.module (.mk 2 none), .service (.mk 2 ⟨7, ["a"], none⟩),
      .framework (.mk 2 none none), .module (.mk 99 none)]
    let es' := [Event.framework (.mk 2 none none), .module (.mk 2 none), .module (.mk 99 none),
      .service (.mk 2 ⟨7, ["a"], none⟩)]
    let as := [Action.moduleChanged (.mk 2 none), .event (.service (.mk 2 ⟨7, ["a"], none⟩)),
      .frameworkReported (.mk 2 none none), .event (.module (.mk 99 none))]
    let t := Threshold.atLeast .info
    Interleaving ms fs ss es ∧ Interleaving ms fs ss es' ∧ List.Forall₂ Action.Brings as es ∧
      (performAll ⟨t, .recording, []⟩ as).1.state = recorded t es ∧
      ((recorded t es).filter fun x => x.record.category = .module) =
        recorded t (ms.map .module) ∧
      (recorded t es).map Entry.level = [.info, .error, .info] ∧
      (recorded t es').map Entry.level = [.error, .info, .info] ∧
      (recorded t es').Perm (recorded t es) := by
  intro ms fs ss es es' as t
  have h : Interleaving ms fs ss es := .module (.service (.framework (.module .nil)))
  have h' : Interleaving ms fs ss es' := .framework (.module (.module (.service .nil)))
  have hbrings : List.Forall₂ Action.Brings as es :=
    .cons .moduleChanged (.cons .event (.cons .frameworkReported (.cons .event .nil)))
  obtain ⟨hstate, hcategory, -, hmixed⟩ := recorded_interleaving t h
  exact ⟨h, h', hbrings, hstate as es hbrings, hcategory .module, by decide +kernel,
    by decide +kernel, (hmixed es' h').2.1⟩

end Logger

end HostLog
