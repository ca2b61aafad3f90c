import HostLog.Properties

/-!
# A property set under change

A current set and a saved copy of it, and what changes them. Loading replaces the current set as a
whole, or not at all if the document cannot be decoded. The saved copy is only changed by saving.
-/

namespace HostLog

structure Store where
  current : Properties := .empty
  saved : Properties := .empty

inductive Change where
  | insert (key value : String)
  /-- Replaces the current set by the one in a document. -/
  | load (document : String)
  /-- Makes the current set the saved copy. -/
  | save

namespace Store

/-- The store after a change; a change that fails leaves it as it was. -/
def apply (s : Store) : Change → Store × Except Error Unit
  | .insert key value => ({ s with current := s.current.insert key value }, .ok ())
  | .load document =>
    match Properties.ofJson document with
    | .ok p => ({ s with current := p }, .ok ())
    | .error e => (s, .error e)
  | .save => ({ s with saved := s.current }, .ok ())

/-- The store after changes, whether they failed or not. -/
def run (s : Store) (cs : List Change) : Store := cs.foldl (fun s c => (s.apply c).1) s

/-! ### What changes leave as it is -/

theorem apply_load_of_error {document : String} {e : Error}
    (h : Properties.ofJson document = .error e) (s : Store) :
    s.apply (.load document) = (s, .error e) := by
  rw [apply, h]

theorem saved_apply {c : Change} (h : c ≠ .save) (s : Store) : (s.apply c).1.saved = s.saved := by
  cases c with
  | insert => rfl
  | load document => rw [apply]; split <;> rfl
  | save => exact absurd rfl h

theorem saved_run {cs : List Change} (h : Change.save ∉ cs) (s : Store) :
    (s.run cs).saved = s.saved := by
  induction cs generalizing s with
  | nil => rfl
  | cons c cs ih =>
    rw [List.mem_cons, not_or] at h
    rw [run, List.foldl_cons, ← saved_apply (Ne.symm h.1) s]
    exact ih h.2 _

end Store

end HostLog
