import HostLog.Proofs.Json.Written
import HostLog.Proofs.LastValue

/-!
# Documents of property sets

`Properties.Holds text members` says that a text is one flat object of strings and nothing else but
space, and has these members in this order. `Properties.ofJson_eq_ok_iff_holds`: those are the texts
that can be loaded, and what is loaded is what inserting the members in order leaves.
-/

namespace HostLog.Properties

open Json

/-- `text` is an object of strings with these members. -/
def Holds (text : String) (members : List (String × String)) : Prop :=
  Padded (Object Quoted) text.toList members

variable {text text' : String} {members members' : List (String × String)} {p : Properties}

theorem decode_members_eq_ok_iff :
    (Reader.members .text).decode text = .ok members ↔ Holds text members :=
  Reader.decode_eq_ok_iff (Reader.accepts_members Reader.accepts_text)

/-- A text is an object in one way only. -/
theorem Holds.unique (h : Holds text members) (h' : Holds text members') : members' = members := by
  rw [← decode_members_eq_ok_iff] at h h'
  exact Except.ok.inj (h'.symm.trans h)

theorem object_toJson (p : Properties) : Object Quoted p.toJson.toList p.entries :=
  object_writeObject quoted_writeString p.entries

/-- A written set is such a text, with its entries as the members. -/
theorem holds_toJson (p : Properties) : Holds p.toJson p.entries := padded_self p.object_toJson

theorem ofJson_of_holds (h : Holds text members) : ofJson text = .ok (ofList members) := by
  rw [ofJson, reader, Reader.decode_map, decode_members_eq_ok_iff.2 h]
  rfl

theorem ofJson_eq_error (h : ∀ members, ¬Holds text members) :
    ∃ failure, ofJson text = .error (.serialization failure) := by
  rw [ofJson, reader, Reader.decode_map]
  cases hd : (Reader.members .text).decode text with
  | ok members => exact absurd (decode_members_eq_ok_iff.1 hd) (h members)
  | error failure => exact ⟨failure, rfl⟩

theorem ofJson_eq_ok_iff :
    ofJson text = .ok p ↔ ∃ members, Holds text members ∧ p = ofList members := by
  constructor
  · intro h
    by_cases hm : ∃ members, Holds text members
    · obtain ⟨members, hm⟩ := hm
      exact ⟨members, hm, Except.ok.inj (h.symm.trans (ofJson_of_holds hm))⟩
    · obtain ⟨failure, hf⟩ := ofJson_eq_error (not_exists.1 hm)
      exact nomatch h.symm.trans hf
  · rintro ⟨members, hm, rfl⟩
    exact ofJson_of_holds hm

theorem ofJson_eq_error_iff :
    (∃ failure, ofJson text = .error (.serialization failure)) ↔
      ∀ members, ¬Holds text members := by
  refine ⟨?_, ofJson_eq_error⟩
  rintro ⟨failure, hf⟩ members hm
  exact nomatch hf.symm.trans (ofJson_of_holds hm)

/-- Loading a text. It succeeds for the objects of strings and for nothing else, and what is loaded
is the empty set with the members inserted in order. So the last member with a key counts. Members
may change places with members of other keys, and in any way if no two keys are the same. -/
theorem ofJson_eq_ok_iff_holds (text : String) :
    (∀ p, ofJson text = .ok p ↔
        ∃ members, Holds text members ∧ p = members.foldl (fun p e => p.insert e.1 e.2) empty) ∧
      ((∃ failure, ofJson text = .error (.serialization failure)) ↔
        ∀ members, ¬Holds text members) ∧
      ∀ members, Holds text members → (∀ members', Holds text members' → members' = members) ∧
        ∃ p, ofJson text = .ok p ∧ (∀ key, p.get? key = lastValue? members key) ∧
          ∀ text' members', Holds text' members' →
            ((∀ key, (members'.filter fun e => e.1 = key) = members.filter fun e => e.1 = key) →
              ofJson text' = .ok p) ∧
            ((members.map Prod.fst).Nodup → members'.Perm members → ofJson text' = .ok p) := by
  refine ⟨fun _ => ofJson_eq_ok_iff, ofJson_eq_error_iff, fun members h => ?_⟩
  refine ⟨fun _ h' => h.unique h', ofList members, ofJson_of_holds h, get?_ofList members,
    fun text' members' h' => ?_⟩
  have hsame (hlast : ∀ key, lastValue? members' key = lastValue? members key) :
      ofJson text' = .ok (ofList members) := by
    rw [ofJson_of_holds h', ofList_congr hlast]
  exact ⟨fun hfilter => hsame fun key => lastValue?_congr (hfilter key),
    fun hnodup hperm => hsame (lastValue?_perm hnodup hperm)⟩

/-- `a` twice, once by an escape: the second value counts, and `b` may come first. In a text
with `a` and `b` alone the two change places. -/
theorem ofJson_escaped_key :
    let text := "\x7b\"a\":\"1\",\"\\u0061\":\"2\",\"b\":\"3\"\x7d"
    let text' := "\x7b \"b\": \"3\", \"a\": \"1\", \"a\": \"2\" \x7d\n"
    let members := [("a", "1"), ("a", "2"), ("b", "3")]
    let members' := [("b", "3"), ("a", "1"), ("a", "2")]
    let short := "\x7b\"a\":\"2\",\"b\":\"3\"\x7d"
    let short' := "\x7b\"b\":\"3\",\"a\":\"2\"\x7d"
    Holds text members ∧ Holds text' members' ∧ Holds short [("a", "2"), ("b", "3")] ∧
      Holds short' [("b", "3"), ("a", "2")] ∧ ∃ p q, ofJson text = .ok p ∧ ofJson text' = .ok p ∧
        p.get? "a" = some "2" ∧ ofJson short = .ok q ∧ ofJson short' = .ok q := by
  intro text text' members members' short short'
  have htext : Holds text members := decode_members_eq_ok_iff.1 (by decide +kernel)
  have htext' : Holds text' members' := decode_members_eq_ok_iff.1 (by decide +kernel)
  have hshort : Holds short [("a", "2"), ("b", "3")] :=
    decode_members_eq_ok_iff.1 (by decide +kernel)
  have hshort' : Holds short' [("b", "3"), ("a", "2")] :=
    decode_members_eq_ok_iff.1 (by decide +kernel)
  obtain ⟨-, -, hloaded⟩ := ofJson_eq_ok_iff_holds text
  obtain ⟨-, p, hp, hget, hsame⟩ := hloaded members htext
  obtain ⟨-, -, hloaded'⟩ := ofJson_eq_ok_iff_holds short
  obtain ⟨-, q, hq, -, hsame'⟩ := hloaded' _ hshort
  have hfilter (key : String) :
      (members'.filter fun e => e.1 = key) = members.filter fun e => e.1 = key := by
    by_cases ha : "a" = key <;> by_cases hb : "b" = key <;>
      simp [members, members', ha, hb]
    exact absurd (ha.trans hb.symm) (by decide)
  refine ⟨htext, htext', hshort, hshort', p, q, hp, (hsame _ _ htext').1 hfilter, ?_, hq, ?_⟩
  · rw [hget]; rfl
  · exact (hsame' _ _ hshort').2 (by decide) (.swap _ _ _)

end HostLog.Properties
