import HostLog.Proofs.ByteOrder
import HostLog.Proofs.PropertyDocuments
import HostLog.Source
import HostLog.Store

/-!
# What a store holds

`Bindings` is an account of a store without any map in it: the bindings made since the last document
was loaded, its own included, and those that were current when the last copy was saved. `Tells` says
what one change does to the account, `History` what many do. A store always holds what its account
says, under every view of it (`Properties.Shows`, `Store.run_history`).
-/

namespace HostLog

open Properties

structure Bindings where
  current : List (String × String) := []
  saved : List (String × String) := []

inductive Tells : Change → Bindings → Bindings → Prop
  | insert {key value : String} {b : Bindings} :
      Tells (.insert key value) b { b with current := b.current ++ [(key, value)] }
  | load {document : String} {members : List (String × String)} {b : Bindings}
      (holds : Holds document members) : Tells (.load document) b { b with current := members }
  | refused {document : String} {b : Bindings} (not_holds : ∀ members, ¬Holds document members) :
      Tells (.load document) b b
  | save {b : Bindings} : Tells .save b { b with saved := b.current }

inductive History : Bindings → List Change → Bindings → Prop
  | nil {b : Bindings} : History b [] b
  | cons {b b' b'' : Bindings} {c : Change} {cs : List Change} (change : Tells c b b')
      (tail : History b' cs b'') : History b (c :: cs) b''

/-- A property set shows nothing but the last values of `bindings`: when asked for one, when
counted, and when written. -/
structure Properties.Shows (p : Properties) (bindings : List (String × String)) : Prop where
  get? (key : String) : p.get? key = lastValue? bindings key
  property (key : String) : (Source.ofProperties p).property key = lastValue? bindings key
  size : p.size = (bindings.map Prod.fst).toFinset.card
  isEmpty : p.isEmpty ↔ p.size = 0
  toJson : ∃ entries : List (String × String),
    p.toJson = Json.writeObject (entries.map fun e => (e.1, Json.writeString e.2)) ∧
    (entries.map fun e => Text.bytes e.1).Pairwise (· < ·) ∧
    ∀ key value, (key, value) ∈ entries ↔ lastValue? bindings key = some value

/-! ### Property sets -/

theorem Properties.bytes_sorted (p : Properties) :
    (p.entries.map fun e => Text.bytes e.1).Pairwise (· < ·) :=
  p.sorted.map _ fun _ _ h => Text.bytes_lt_bytes h

theorem Properties.shows_ofList (bindings : List (String × String)) :
    (ofList bindings).Shows bindings := by
  refine ⟨get?_ofList bindings, get?_ofList bindings, size_ofList bindings, isEmpty_iff, ?_⟩
  refine ⟨(ofList bindings).entries, rfl, bytes_sorted _, fun key value => ?_⟩
  rw [← get?_eq_some_iff, get?_ofList]

theorem Properties.ofJson_toJson (p : Properties) : ofJson p.toJson = .ok p := by
  rw [ofJson_of_holds p.holds_toJson, ofList_entries]

theorem Properties.toJson_inj {p q : Properties} : p.toJson = q.toJson ↔ p = q := by
  refine ⟨fun h => ?_, fun h => h ▸ rfl⟩
  exact Except.ok.inj (p.ofJson_toJson.symm.trans (h ▸ q.ofJson_toJson))

/-! ### Accounts -/

namespace Tells

variable {c : Change} {b b' b'' : Bindings}

theorem exists_of_change (c : Change) (b : Bindings) : ∃ b', Tells c b b' := by
  cases c with
  | insert key value => exact ⟨_, .insert⟩
  | load document =>
    by_cases h : ∃ members, Holds document members
    · obtain ⟨members, h⟩ := h
      exact ⟨_, .load h⟩
    · exact ⟨_, .refused (not_exists.1 h)⟩
  | save => exact ⟨_, .save⟩

theorem unique (h : Tells c b b') (h' : Tells c b b'') : b'' = b' := by
  cases h with
  | insert => cases h'; rfl
  | load hm =>
    cases h' with
    | load hm' => rw [hm.unique hm']
    | refused hn => exact absurd hm (hn _)
  | refused hn =>
    cases h' with
    | load hm => exact absurd hm (hn _)
    | refused => rfl
  | save => cases h'; rfl

end Tells

namespace History

variable {b b' b'' : Bindings} {cs : List Change}

theorem exists_of_changes (b : Bindings) (cs : List Change) : ∃ b', History b cs b' := by
  induction cs generalizing b with
  | nil => exact ⟨b, .nil⟩
  | cons c cs ih =>
    obtain ⟨b', hc⟩ := Tells.exists_of_change c b
    obtain ⟨b'', hcs⟩ := ih b'
    exact ⟨b'', .cons hc hcs⟩

theorem unique (h : History b cs b') (h' : History b cs b'') : b'' = b' := by
  induction h with
  | nil => cases h'; rfl
  | cons hc _ ih =>
    cases h' with
    | cons hc' hcs' =>
      obtain rfl := hc.unique hc'
      exact ih hcs'

end History

/-! ### Stores -/

namespace Store

/-- The store that an account describes. -/
def ofBindings (b : Bindings) : Store := ⟨ofList b.current, ofList b.saved⟩

theorem apply_of_tells {c : Change} {b b' : Bindings} (h : Tells c b b') :
    ((ofBindings b).apply c).1 = ofBindings b' := by
  cases h with
  | insert =>
    simp only [apply, ofBindings, ofList, List.foldl_append, List.foldl_cons, List.foldl_nil]
  | load hm => simp only [apply, ofJson_of_holds hm, ofBindings]
  | refused hn =>
    obtain ⟨failure, hf⟩ := ofJson_eq_error hn
    rw [apply_load_of_error hf]
  | save => rfl

theorem run_of_history {b b' : Bindings} {cs : List Change} (h : History b cs b') :
    (ofBindings b).run cs = ofBindings b' := by
  induction h with
  | nil => rfl
  | cons hc _ ih => rw [run, List.foldl_cons, apply_of_tells hc]; exact ih

/-- After any changes a store holds what the one account of them says, in the current set and in
the saved one. The two are equal exactly if they have the same values, and exactly if they are
written alike. A document that cannot be loaded changes nothing, and only saving changes the saved
set. -/
theorem run_history (cs : List Change) :
    let s := Store.run {} cs
    (∃ b, History {} cs b ∧ (∀ b', History {} cs b' → b' = b) ∧ s.current.Shows b.current ∧
        s.saved.Shows b.saved) ∧
      (s.current = s.saved ↔ ∀ key, s.current.get? key = s.saved.get? key) ∧
      (s.current = s.saved ↔ s.current.toJson = s.saved.toJson) ∧
      (∀ document e, ofJson document = .error e →
        s.apply (.load document) = (s, .error e) ∧ Store.run {} (cs ++ [.load document]) = s) ∧
      ∀ later, Change.save ∉ later → (Store.run {} (cs ++ later)).saved = s.saved := by
  intro s
  have hrun (later : List Change) : Store.run {} (cs ++ later) = s.run later := List.foldl_append
  refine ⟨?_, eq_iff_get?, toJson_inj.symm, fun document e he => ?_, fun later hlater => ?_⟩
  · obtain ⟨b, hb⟩ := History.exists_of_changes {} cs
    have hs : s = ofBindings b := run_of_history hb
    refine ⟨b, hb, fun _ h => hb.unique h, ?_, ?_⟩
    · rw [hs]; exact shows_ofList b.current
    · rw [hs]; exact shows_ofList b.saved
  · have hload := apply_load_of_error he s
    refine ⟨hload, ?_⟩
    rw [hrun]
    exact congrArg Prod.fst hload
  · rw [hrun]
    exact saved_run hlater s

/-- A truncated document between two insertions and before a copy is saved: it leaves no trace,
neither there nor afterwards, and the copy stays as it is under another insertion. -/
theorem run_history_truncated :
    let cs := [Change.insert "b" "1", .load "\x7b\"a\"", .insert "a" "2", .save]
    let s := Store.run {} cs
    ∃ e, ofJson "\x7b\"a\"" = .error e ∧ s.apply (.load "\x7b\"a\"") = (s, .error e) ∧
      Store.run {} (cs ++ [.load "\x7b\"a\""]) = s ∧ Change.save ∉ [Change.insert "a" "3"] ∧
      (Store.run {} (cs ++ [.insert "a" "3"])).saved = s.saved ∧
      History {} cs ⟨[("b", "1"), ("a", "2")], [("b", "1"), ("a", "2")]⟩ ∧
      s.saved.get? "a" = some "2" := by
  intro cs s
  have herror : ofJson "\x7b\"a\"" = .error (.serialization ⟨.endInObject, ⟨1, 4⟩⟩) := by
    decide +kernel
  have hrefused : ∀ members, ¬Holds "\x7b\"a\"" members := ofJson_eq_error_iff.1 ⟨_, herror⟩
  have hhistory : History {} cs ⟨[("b", "1"), ("a", "2")], [("b", "1"), ("a", "2")]⟩ :=
    .cons .insert (.cons (.refused hrefused) (.cons .insert (.cons .save .nil)))
  have hsave : Change.save ∉ [Change.insert "a" "3"] := by simp
  obtain ⟨⟨b, -, hunique, -, hsaved⟩, -, -, hload, hlater⟩ := run_history cs
  obtain ⟨hanswer, hstore⟩ := hload _ _ herror
  refine ⟨_, herror, hanswer, hstore, hsave, hlater _ hsave, hhistory, ?_⟩
  rw [hsaved.get?, ← hunique _ hhistory]
  rfl

end Store

end HostLog
