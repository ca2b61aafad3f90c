import HostLog.Logger
import HostLog.Proofs.LastValue
import HostLog.Proofs.Precedence
import HostLog.Proofs.Utf8

/-!
# Sources that can stand for each other

Whatever kind of map is filled with pairs, in their order, and also a reference to it, is the same
source: it answers with the last value (`Source.Filled`, `Source.property_of_filled`). So neither
the resolution of a threshold nor a logger can tell one from another. An environment filled with
the pairs answers by variable names, which several keys can share (`Source.property_ofEnvironment`).
-/

namespace HostLog

/-- The environment after setting the variable of each key to its value, in order. -/
def Environment.fill (env : Environment) (pairs : List (String × String)) : Environment :=
  pairs.foldl (fun env e => env.set (variableName e.1) e.2.toUTF8) env

namespace Source

variable {pairs : List (String × String)} {source source' : Source} {key : String}

/-- The sources that are made of maps filled with `pairs` in order, and references to them. -/
inductive Filled (pairs : List (String × String)) : Source → Prop
  | properties : Filled pairs (.ofProperties (pairs.foldl (fun p e => p.insert e.1 e.2) .empty))
  | hashMap : Filled pairs (.ofHashMap (pairs.foldl (fun m e => m.insert e.1 e.2) ∅))
  | treeMap : Filled pairs (.ofTreeMap (pairs.foldl (fun m e => m.insert e.1 e.2) ∅))
  | reference {source : Source} (filled : Filled pairs source) : Filled pairs source.reference

theorem property_of_filled (h : Filled pairs source) (key : String) :
    source.property key = lastValue? pairs key := by
  induction h with
  | properties => exact Properties.get?_ofList pairs key
  | hashMap =>
    have hput (m : Std.HashMap String String) (e : String × String) (_ : e ∈ pairs) :
        (m.insert e.1 e.2)[key]? = if key = e.1 then some e.2 else m[key]? := by
      rw [Std.HashMap.getElem?_insert]
      simp only [beq_iff_eq, @eq_comm _ key]
    have h := get_foldl_put (fun m => m[key]?) hput ∅
    rwa [Std.HashMap.getElem?_empty, Option.or_none] at h
  | treeMap =>
    have hput (m : Std.TreeMap String String) (e : String × String) (_ : e ∈ pairs) :
        (m.insert e.1 e.2)[key]? = if key = e.1 then some e.2 else m[key]? := by
      rw [Std.TreeMap.getElem?_insert]
      simp only [Std.LawfulEqCmp.compare_eq_iff_eq, @eq_comm _ key]
    have h := get_foldl_put (fun m => m[key]?) hput ∅
    rwa [Std.TreeMap.getElem?_emptyc, Option.or_none] at h
  | reference _ ih => exact ih

end Source

/-! ### Environments -/

namespace Environment

variable {env : Environment} {pairs : List (String × String)} {name value : String}

theorem get?_set (hname : isName name) (other : String) :
    (env.set name value.toUTF8).get? other =
      if other = name then some value else env.get? other := by
  unfold get? set
  rw [List.reverse_append, List.reverse_singleton, List.singleton_append, List.lookup_cons]
  by_cases h : other = name
  · subst h
    rw [if_pos hname, if_pos rfl, beq_self_eq_true]
    exact Text.fromUTF8?_eq_some_iff.2 rfl
  · rw [if_neg h, beq_eq_false_iff_ne.2 h]

theorem get?_fill (h : ∀ e ∈ pairs, isName (variableName e.1)) (env : Environment) (name : String) :
    (env.fill pairs).get? name =
      (lastValue? (pairs.map fun e => (variableName e.1, e.2)) name).or (env.get? name) := by
  have hfill : env.fill pairs = (pairs.map fun e => (variableName e.1, e.2)).foldl
      (fun env e => env.set e.1 e.2.toUTF8) env := by
    rw [List.foldl_map]
    rfl
  rw [hfill]
  refine get_foldl_put (fun env => env.get? name) (fun env e he => ?_) env
  obtain ⟨x, hx, rfl⟩ := List.mem_map.1 he
  exact get?_set (h x hx) name

theorem get?_empty (name : String) : empty.get? name = none := by
  unfold get?
  split <;> rfl

end Environment

namespace Source

variable {pairs : List (String × String)} {source source' : Source}

theorem resolve_filled (h : Filled pairs source) (h' : Filled pairs source') (key : String) :
    (∀ system, resolve (some source) system key = resolve (some source') system key) ∧
      ∀ context, resolve context source key = resolve context source' key := by
  have heq : source.property key = source'.property key := by
    rw [property_of_filled h, property_of_filled h']
  exact ⟨fun _ => Resolution.resolve_congr heq rfl, fun _ => Resolution.resolve_congr rfl heq⟩

theorem create_filled {σ : Type} (h : Filled pairs source) (h' : Filled pairs source')
    (sink : Sink σ) (state : σ) :
    (∀ system, Logger.create (some source) system sink state =
        Logger.create (some source') system sink state) ∧
      ∀ context, Logger.create context source sink state =
        Logger.create context source' sink state := by
  obtain ⟨hcontext, hsystem⟩ := resolve_filled h h' thresholdKey
  refine ⟨fun system => ?_, fun context => ?_⟩
  · rw [Logger.create, hcontext system]
    rfl
  · rw [Logger.create, hsystem context]
    rfl

/-- Sources filled with the same pairs answer with the last values, whatever they are made of, and
are exchangeable: in both positions of a resolution, which gives the same threshold and says the
same, and in making a logger, which is the same logger. An environment filled with the pairs
answers with the last value of all keys that share the variable, before it answers as it did without
them. That is the value in the other sources, if the key shares its variable with no other one. -/
theorem filled_interchangeable (pairs : List (String × String)) :
    (∀ source, Filled pairs source → ∀ key, source.property key = lastValue? pairs key) ∧
      (∀ source source', Filled pairs source → Filled pairs source' →
        (∀ key, (∀ system, resolve (some source) system key = resolve (some source') system key) ∧
          ∀ context, resolve context source key = resolve context source' key) ∧
        ∀ (σ : Type) (sink : Sink σ) (state : σ),
          (∀ system, Logger.create (some source) system sink state =
            Logger.create (some source') system sink state) ∧
          ∀ context, Logger.create context source sink state =
            Logger.create context source' sink state) ∧
      ((∀ e ∈ pairs, Environment.isName (Environment.variableName e.1)) → ∀ env key,
        (ofEnvironment (env.fill pairs)).property key =
          (lastValue? (pairs.map fun e => (Environment.variableName e.1, e.2))
            (Environment.variableName key)).or ((ofEnvironment env).property key) ∧
        ((∀ e ∈ pairs, Environment.variableName e.1 = Environment.variableName key → e.1 = key) →
          ∀ source, Filled pairs source → (ofEnvironment (env.fill pairs)).property key =
            (source.property key).or ((ofEnvironment env).property key))) ∧
      ∀ key, (ofEnvironment .empty).property key = none := by
  refine ⟨fun _ h => property_of_filled h, fun _ _ h h' => ?_, fun hnames env key => ?_,
    fun _ => Environment.get?_empty _⟩
  · exact ⟨resolve_filled h h', fun _ => create_filled h h'⟩
  · have hfill := Environment.get?_fill hnames env (Environment.variableName key)
    refine ⟨hfill, fun hshare source h => ?_⟩
    rw [lastValue?_map Environment.variableName hshare, ← property_of_filled h] at hfill
    exact hfill

/-- `a.b` is set twice, and `a-b`, which shares its variable, after it. The maps keep the two
apart, the environment does not; under `c` all agree. -/
theorem filled_interchangeable_shared :
    let pairs := [("a.b", "1"), ("c", "INFO"), ("a.b", "3"), ("a-b", "2")]
    let hash := Source.ofHashMap (pairs.foldl (fun m e => m.insert e.1 e.2) ∅)
    let tree := Source.ofTreeMap (pairs.foldl (fun m e => m.insert e.1 e.2) ∅)
    let env := Source.ofEnvironment (Environment.empty.fill pairs)
    Filled pairs hash ∧ Filled pairs tree.reference ∧
      (∀ e ∈ pairs, Environment.isName (Environment.variableName e.1)) ∧
      (∀ e ∈ pairs, Environment.variableName e.1 = Environment.variableName "c" → e.1 = "c") ∧
      hash.property "a.b" = some "3" ∧ tree.reference.property "a.b" = some "3" ∧
      env.property "a.b" = some "2" ∧ env.property "c" = hash.property "c" ∧
      resolve (some hash) hash "c" = resolve (some tree.reference) hash "c" := by
  intro pairs hash tree env
  have hhash : Filled pairs hash := .hashMap
  have htree : Filled pairs tree.reference := .reference .treeMap
  have hnames : ∀ e ∈ pairs, Environment.isName (Environment.variableName e.1) := by
    decide +kernel
  have hshare : ∀ e ∈ pairs,
      Environment.variableName e.1 = Environment.variableName "c" → e.1 = "c" := by
    decide +kernel
  obtain ⟨hproperty, hexchange, henv, hempty⟩ := filled_interchangeable pairs
  obtain ⟨hnamed, -⟩ := henv hnames .empty "a.b"
  obtain ⟨-, hagree⟩ := henv hnames .empty "c"
  refine ⟨hhash, htree, hnames, hshare, hproperty _ hhash "a.b", hproperty _ htree "a.b", ?_, ?_,
    ((hexchange _ _ hhash htree).1 "c").1 hash⟩
  · rw [hnamed, hempty, Option.or_none]
    decide +kernel
  · rw [hagree hshare hash hhash, hempty, Option.or_none]

end Source

end HostLog
