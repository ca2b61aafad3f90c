import HostLog.Proofs.Lossless
import Mathlib.Logic.Function.Iterate

/-!
# What is told of an error and its causes

Errors of any kind say something and may have a cause, which is an error again (`Reporting`).
Telling one is a loop: what it says comes first, and after it one cause per round, as long as there
is a next one (`Reporting.advance`). `Incident.chain_told`: the loop ends exactly if the causes do
(`Reporting.Causes`), and what it has told then is the chain of the incident with the same texts.
That is also what the log is given for an event with this error.
-/

namespace HostLog

/-- Errors of some kind: what each of them says, and the one that caused it, if any. -/
structure Reporting (ε : Type) where
  text : ε → String
  cause? : ε → Option ε

namespace Reporting

variable {ε : Type} (R : Reporting ε)

/-- The errors behind `e`: its cause, the cause of that one, and so on to one that has none. -/
inductive Causes : ε → List ε → Prop
  | root {e : ε} (cause : R.cause? e = none) : Causes e []
  | causedBy {e c : ε} {cs : List ε} (cause : R.cause? e = some c) (tail : Causes c cs) :
      Causes e (c :: cs)

/-- The incident that says what `e` and then `cs` say. -/
def incident (e : ε) (cs : List ε) : Incident := .ofTexts (R.text e) (cs.map R.text)

/-- One round: of what has been told and the error that comes next. -/
def advance : String × Option ε → String × Option ε
  | (told, none) => (told, none)
  | (told, some e) => (told ++ ": " ++ R.text e, R.cause? e)

/-- After some rounds no error comes next, and `s` has been told. -/
def Tells (e : ε) (s : String) : Prop := ∃ n, R.advance^[n] (R.text e, R.cause? e) = (s, none)

end Reporting

/-! ### The chain of an incident -/

namespace Incident

theorem texts_ofTexts (t : String) (ts : List String) : (ofTexts t ts).texts = t :: ts := by
  induction ts generalizing t with
  | nil => rfl
  | cons u us ih => rw [ofTexts, texts, ih]

theorem texts_ne_nil (i : Incident) : i.texts ≠ [] := by
  cases i <;> simp [texts]

theorem chain_eq_intercalate (i : Incident) : i.chain = String.intercalate ": " i.texts := by
  induction i with
  | root t => simp [chain, texts]
  | causedBy t cause ih =>
    rw [chain, texts, String.intercalate_cons_of_ne_nil cause.texts_ne_nil, ih]

end Incident

/-! ### The loop -/

namespace Reporting

variable {ε : Type} {R : Reporting ε} {e c : ε} {cs ds : List ε} {s : String}

theorem Causes.unique (h : R.Causes e cs) (h' : R.Causes e ds) : cs = ds := by
  induction h generalizing ds with
  | root hnone =>
    cases h' with
    | root => rfl
    | causedBy hsome => cases hnone.symm.trans hsome
  | causedBy hsome _ ih =>
    cases h' with
    | root hnone => cases hnone.symm.trans hsome
    | causedBy hsome' htail =>
      cases hsome.symm.trans hsome'
      rw [ih htail]

theorem Causes.cause_eq_none_iff (h : R.Causes e cs) : R.cause? e = none ↔ cs = [] := by
  cases h with
  | root hnone => simp [hnone]
  | causedBy hsome => simp [hsome]

theorem chain_incident_cons (e c : ε) (cs : List ε) :
    (R.incident e (c :: cs)).chain = R.text e ++ ": " ++ (R.incident c cs).chain := rfl

theorem chain_incident_eq_text_iff :
    (R.incident e cs).chain = R.text e ↔ cs = [] := by
  cases cs with
  | nil => simp [incident, Incident.ofTexts, Incident.chain]
  | cons c cs =>
    refine ⟨fun h => ?_, nofun⟩
    have hlength := congrArg String.length h
    simp only [chain_incident_cons, String.length_append] at hlength
    have : (": ").length = 2 := rfl
    omega

/-- Rounds from `e` on add to what has been told the chain of `e` and its causes. -/
theorem Causes.iterate_advance (h : R.Causes e cs) (told : String) :
    R.advance^[cs.length + 1] (told, some e) =
      (told ++ ": " ++ (R.incident e cs).chain, none) := by
  induction h generalizing told with
  | root hnone => rw [← hnone]; rfl
  | @causedBy e c cs hsome _ ih =>
    rw [List.length_cons, Function.iterate_succ_apply, advance, hsome, ih, chain_incident_cons]
    simp only [String.append_assoc]

/-- Telling `e` takes as many rounds as it has causes. -/
theorem Causes.iterate_start (h : R.Causes e cs) :
    R.advance^[cs.length] (R.text e, R.cause? e) = ((R.incident e cs).chain, none) := by
  cases h with
  | root hnone => rw [hnone]; rfl
  | causedBy hsome htail => rw [hsome, List.length_cons, htail.iterate_advance, chain_incident_cons]

/-- Where no error comes next after some rounds, the causes have come to an end. -/
theorem exists_causes_of_iterate {n : Nat} {told : String}
    (h : R.advance^[n] (told, R.cause? e) = (s, none)) :
    ∃ cs, R.Causes e cs ∧ cs.length ≤ n := by
  induction n generalizing told e with
  | zero => exact ⟨[], .root (congrArg Prod.snd h), Nat.le_refl 0⟩
  | succ n ih =>
    cases hc : R.cause? e with
    | none => exact ⟨[], .root hc, Nat.zero_le _⟩
    | some c =>
      rw [hc, Function.iterate_succ_apply, advance] at h
      obtain ⟨cs, hcs, hle⟩ := ih h
      exact ⟨c :: cs, .causedBy hc hcs, Nat.succ_le_succ hle⟩

theorem tells_iff : R.Tells e s ↔ ∃ cs, R.Causes e cs ∧ s = (R.incident e cs).chain := by
  constructor
  · rintro ⟨n, hn⟩
    obtain ⟨cs, hcs, hle⟩ := exists_causes_of_iterate hn
    refine ⟨cs, hcs, ?_⟩
    -- further rounds find nothing to tell
    obtain ⟨k, rfl⟩ := Nat.exists_eq_add_of_le' hle
    rw [Function.iterate_add_apply, hcs.iterate_start, Function.iterate_fixed rfl] at hn
    exact (congrArg Prod.fst hn).symm
  · rintro ⟨cs, hcs, rfl⟩
    exact ⟨_, hcs.iterate_start⟩

theorem Causes.tells_iff (h : R.Causes e cs) : R.Tells e s ↔ s = (R.incident e cs).chain := by
  rw [Reporting.tells_iff]
  constructor
  · rintro ⟨ds, hds, hs⟩
    rwa [h.unique hds]
  · exact fun hs => ⟨cs, h, hs⟩

theorem exists_tells_iff : (∃ s, R.Tells e s) ↔ ∃ cs, R.Causes e cs := by
  simp only [tells_iff]
  constructor
  · rintro ⟨_, cs, hcs, -⟩
    exact ⟨cs, hcs⟩
  · rintro ⟨cs, hcs⟩
    exact ⟨_, cs, hcs, rfl⟩

end Reporting

/-! ### Incidents, handles and payloads -/

namespace Incident

/-- The incident behind this one, if any. -/
def cause? : Incident → Option Incident
  | root _ => none
  | causedBy _ cause => some cause

/-- All incidents behind this one. -/
def causes : Incident → List Incident
  | root _ => []
  | causedBy _ cause => cause :: cause.causes

/-- Incidents as errors of one kind. -/
def reporting : Reporting Incident := ⟨text, cause?⟩

theorem causes_reporting (i : Incident) : reporting.Causes i i.causes := by
  induction i with
  | root t => exact .root rfl
  | causedBy t cause ih => exact .causedBy rfl ih

theorem incident_reporting (i : Incident) : reporting.incident i i.causes = i := by
  induction i with
  | root t => rfl
  | causedBy t cause ih => exact congrArg (causedBy t) ih

theorem tells_reporting_iff {i : Incident} {s : String} :
    reporting.Tells i s ↔ s = i.chain := by
  rw [i.causes_reporting.tells_iff, incident_reporting]

end Incident

namespace ErrorHandle

variable {g h : ErrorHandle} {hs : List ErrorHandle}

/-- The handles that there are when some have been made and cloned, the latest first. A handle that
is made gets a number that no other one has. -/
inductive Issued : List ErrorHandle → Prop
  | nil : Issued []
  | make {h : ErrorHandle} {hs : List ErrorHandle} (fresh : ∀ g ∈ hs, g.number ≠ h.number)
      (tail : Issued hs) : Issued (h :: hs)
  | clone {h : ErrorHandle} {hs : List ErrorHandle} (mem : h ∈ hs) (tail : Issued hs) :
      Issued (h :: hs)

theorem Issued.eq_of_number (hhs : Issued hs) (hg : g ∈ hs) (hh : h ∈ hs)
    (hnumber : g.number = h.number) : g = h := by
  induction hhs with
  | nil => cases hg
  | make fresh _ ih =>
    rcases List.mem_cons.1 hg with rfl | hg' <;> rcases List.mem_cons.1 hh with rfl | hh'
    · rfl
    · exact absurd hnumber.symm (fresh h hh')
    · exact absurd hnumber (fresh g hg')
    · exact ih hg' hh'
  | @clone k hs mem _ ih =>
    -- a clone is one of the handles that there were before
    have hclone : ∀ f ∈ k :: hs, f ∈ hs := List.forall_mem_cons.2 ⟨mem, fun _ hf => hf⟩
    exact ih (hclone g hg) (hclone h hh)

theorem Issued.chain_eq (hhs : Issued hs) (hg : g ∈ hs) (hh : h ∈ hs) (hclone : g == h) :
    g.incident.chain = h.incident.chain := by
  rw [hhs.eq_of_number hg hh (beq_iff.1 hclone)]

theorem describe_payload (h : ErrorHandle) (code : Int32) (module : Option Module) :
    (Event.framework ⟨code, module, some h⟩).classify.payload.map Payload.describe =
      some h.incident.chain := rfl

end ErrorHandle

namespace Incident

/-- Telling an error and its causes ends exactly if the causes come to an end. What is told then is
the chain of the incident with the same texts: these texts in order, with `: ` between them. It is
what the error says itself exactly if nothing caused it, and otherwise has after that what is told
of the cause, whatever kind of error this is. Clones of a handle have one chain, and the payload of
a framework event shows it, whatever the code. Of the errors of the library a text that names no
level has no cause, a failure to decode is told with what failed after its message, and a failure to
read with all that is told of the error of the file.
-/
theorem chain_told :
    (∀ (ε : Type) (R : Reporting ε) (e : ε), (∃ s, R.Tells e s) ↔ ∃ cs, R.Causes e cs) ∧
      (∀ (ε : Type) (R : Reporting ε) (e : ε) (cs : List ε), R.Causes e cs →
        let told := (R.incident e cs).chain
        (∀ s, R.Tells e s ↔ s = told) ∧
          told = String.intercalate ": " (R.text e :: cs.map R.text) ∧
          (told = R.text e ↔ R.cause? e = none) ∧
          (∀ c, R.cause? e = some c → ∃ s, R.Tells c s ∧ told = R.text e ++ ": " ++ s) ∧
          ∀ h : ErrorHandle, h.incident = R.incident e cs → ∀ code module,
            (Event.framework ⟨code, module, some h⟩).classify.payload.map Payload.describe =
              some told) ∧
      (∀ i s, reporting.Tells i s ↔ s = i.chain) ∧
      (∀ hs, ErrorHandle.Issued hs → ∀ g ∈ hs, ∀ h ∈ hs, g == h →
        g.incident.chain = h.incident.chain) ∧
      (∀ text, (ofError (.invalidLevel text)).chain = (Error.invalidLevel text).message) ∧
      (∀ failure, (ofError (.serialization failure)).chain =
        (Error.serialization failure).message ++ ": " ++ (root failure.message).chain) ∧
      ∀ e, (ofError (.io e)).chain = (Error.io e).message ++ ": " ++ e.incident.chain := by
  refine ⟨fun ε R e => R.exists_tells_iff, fun ε R e cs hcs => ?_,
    fun _ _ => tells_reporting_iff, fun hs hhs g hg h hh => hhs.chain_eq hg hh,
    fun _ => rfl, fun _ => rfl, fun _ => rfl⟩
  refine ⟨fun s => hcs.tells_iff, ?_, ?_, fun c hc => ?_, fun h hh code module => ?_⟩
  · rw [chain_eq_intercalate, Reporting.incident, texts_ofTexts]
  · rw [Reporting.chain_incident_eq_text_iff, hcs.cause_eq_none_iff]
  · cases hcs with
    | root hnone => cases hnone.symm.trans hc
    | causedBy hsome htail =>
      cases hsome.symm.trans hc
      exact ⟨_, htail.tells_iff.2 rfl, rfl⟩
  · rw [h.describe_payload, hh]

/-- Three errors of which the second says nothing, in an event whose code has no meaning. Of three
handles one is a clone. A file that cannot be read because of these errors is told with all of them.
An error that is its own cause is never told to the end. -/
theorem chain_told_three :
    let R : Reporting Nat :=
      ⟨fun n => if n = 0 then "start" else if n = 1 then "" else "a: b",
        fun n => if n < 2 then some (n + 1) else none⟩
    let endless : Reporting Unit := ⟨fun _ => "again", fun _ => some ()⟩
    let h : ErrorHandle := ⟨1, R.incident 0 [1, 2]⟩
    let hs := [h, h, ⟨0, root "start"⟩]
    R.Causes 0 [1, 2] ∧ R.Tells 0 "start: : a: b" ∧ h.incident.chain ≠ "start" ∧
      (Event.framework ⟨-1, none, some h⟩).classify.payload.map Payload.describe =
        some "start: : a: b" ∧
      ErrorHandle.Issued hs ∧ (∀ g ∈ hs, g == h → g.incident.chain = "start: : a: b") ∧
      (ofError (.io (.other h.incident))).chain = "io error: start: start: : a: b" ∧
      ¬∃ s, endless.Tells () s := by
  intro R endless h hs
  obtain ⟨hends, htold, -, hclones, -, -, hfile⟩ := chain_told
  have hcauses : R.Causes 0 [1, 2] := .causedBy rfl (.causedBy rfl (.root rfl))
  obtain ⟨htells, hjoined, halone, -, hpayload⟩ := htold Nat R 0 [1, 2] hcauses
  have hchain : h.incident.chain = "start: : a: b" := hjoined.trans (by decide +kernel)
  have hissued : ErrorHandle.Issued hs :=
    .clone List.mem_cons_self (.make (by simp [h]) (.make nofun .nil))
  have hendless : ¬∃ cs, endless.Causes () cs := by
    rintro ⟨cs, hcs⟩
    have hlonger : endless.Causes () (() :: cs) := .causedBy rfl hcs
    simpa using congrArg List.length (hcs.unique hlonger)
  refine ⟨hcauses, (htells _).2 hchain.symm, mt halone.1 nofun, ?_, hissued, fun g hg hclone => ?_,
    ?_, mt (hends Unit endless ()).1 hendless⟩
  · rw [hpayload h rfl, ← hchain]
  · rw [hclones hs hissued g hg h List.mem_cons_self hclone, hchain]
  · rw [hfile, FileError.incident, hchain]
    decide +kernel

end Incident

end HostLog
