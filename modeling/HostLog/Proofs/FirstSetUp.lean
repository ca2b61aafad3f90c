import HostLog.Output.Console
import HostLog.Proofs.DirectiveCuts
import HostLog.Proofs.LetterCase
import HostLog.Proofs.ProcessLog

/-!
# The first set-up counts

A process may ask for its log to be set up any number of times, and later make a logger that speaks
in it. `shown_first`: what the process then shows is decided by the first call alone, by the filter
that this call puts in force (`InForce`) and the layout that it asks for. Of all that the logger
says, each diagnostic that the filter admits is printed, in order; if something else has taken the
log before, nothing is, and there is one notice. Calls with a filter of which a part splits a
character (`Splits`) do not count: one that is not guarded ends the process, and guarded ones leave
everything to the calls after them.
-/

namespace HostLog

/-- How a logger comes to its threshold. -/
inductive Making where
  | configured (context : Option Source) (system : Source)
  | given (threshold : Threshold)

namespace Making

variable {σ : Type}

def create : Making → Sink σ → σ → Creation σ
  | configured context system, sink, state => Logger.create context system sink state
  | given threshold, sink, state => Logger.withThreshold threshold sink state

/-- All that is said in a session over the process log, through `n` handles: first in making the
logger, then by the actions. -/
def said (m : Making) (n : Nat) (as : List Action) : List Diagnostic :=
  let c := m.create (Sink.shared^[n] .diagnostic) []
  c.diagnostics ++ (c.logger.performAll as).1.state

end Making

namespace Output

/-! ### The layout -/

def Settings.layout (s : Settings) : Layout := if s.jsonLogs then .json else .text

theorem Settings.jsonLogs_ofEnvironment_iff {env : Environment} :
    (ofEnvironment env).jsonLogs ↔ ∃ v, env.get? layoutVariable = some v ∧
      List.Forall₂ (fun c d => c = d ∨ c = d.toUpper) v.toList "json".toList := by
  have hsame (v : String) : sameButCase v "json" ↔
      List.Forall₂ (fun c d => c = d ∨ c = d.toUpper) v.toList "json".toList := by
    rw [sameButCase, beq_iff_eq, show "json".toList.map Char.toLower = "json".toList from rfl,
      Text.map_toLower_eq_iff (by simp)]
  unfold ofEnvironment
  cases env.get? layoutVariable with
  | none => simp
  | some v => simp [hsame]

theorem Call.settingsIn_of_settings {k : Call} {given : Settings} (h : k.settings = some given)
    (env : Environment) : k.settingsIn env = given := by
  rw [settingsIn, h, Option.getD_some]

namespace Console

/-! ### The filter in force -/

variable {env : Environment} {s : Settings}

/-- The environment has no filter, or one that cannot be understood. -/
def Unset (env : Environment) : Prop :=
  ∀ text, env.get? filterVariable = some text → Filter.parse text = .error .malformed

/-- The filter in force: that of the environment, if it has one that can be understood, else that of
the settings. -/
inductive InForce (env : Environment) (s : Settings) : Filter → Prop
  | environment {text f} (set : env.get? filterVariable = some text)
      (parse : Filter.parse text = .ok f) : InForce env s f
  | settings {f} (unset : Unset env) (ofText : Filter.ofText s.logLevel = some f) : InForce env s f

/-- A part of the filter that is read would begin or end inside a character. -/
inductive Splits (env : Environment) (s : Settings) : Prop
  | environment {text} (set : env.get? filterVariable = some text)
      (parse : Filter.parse text = .error .splitCharacter)
  | settings {part} (unset : Unset env) (mem : part ∈ Filter.parts s.logLevel)
      (parse : Directive.parse part = .error .splitCharacter)

theorem filter_of_unset (h : Unset env) : filter env s = Filter.ofText s.logLevel := by
  cases hv : env.get? filterVariable with
  | none => rw [filter, hv]; rfl
  | some text => rw [filter, hv, Option.map_some, h text hv]

theorem filter_of_parse {text : String} {f : Filter} (hv : env.get? filterVariable = some text)
    (hp : Filter.parse text = .ok f) : filter env s = some f := by
  rw [filter, hv, Option.map_some, hp]

theorem filter_of_split {text : String} (hv : env.get? filterVariable = some text)
    (hp : Filter.parse text = .error .splitCharacter) : filter env s = none := by
  rw [filter, hv, Option.map_some, hp]

theorem filter_of_inForce {f : Filter} (h : InForce env s f) : filter env s = some f := by
  rcases h with ⟨hv, hp⟩ | ⟨hunset, hf⟩
  · exact filter_of_parse hv hp
  · rw [filter_of_unset hunset, hf]

theorem filter_of_splits (h : Splits env s) : filter env s = none := by
  rcases h with ⟨hv, hp⟩ | ⟨hunset, hpart, hp⟩
  · exact filter_of_split hv hp
  · rw [filter_of_unset hunset, Filter.ofText_eq_none_iff]
    exact ⟨_, hpart, hp⟩

theorem inForce_or_splits (env : Environment) (s : Settings) :
    (∃ f, InForce env s f) ∨ Splits env s := by
  by_cases hunset : Unset env
  · cases hf : Filter.ofText s.logLevel with
    | some f => exact .inl ⟨f, .settings hunset hf⟩
    | none =>
      obtain ⟨part, hpart, hp⟩ := Filter.ofText_eq_none_iff.1 hf
      exact .inr (.settings hunset hpart hp)
  · -- then the environment has a filter that is not just malformed
    unfold Unset at hunset
    push Not at hunset
    obtain ⟨text, hv, hne⟩ := hunset
    cases hp : Filter.parse text with
    | ok f => exact .inl ⟨f, .environment hv hp⟩
    | error defect =>
      cases defect with
      | malformed => exact absurd hp hne
      | splitCharacter => exact .inr (.environment hv hp)

theorem splits_iff : Splits env s ↔ ∀ f, ¬InForce env s f := by
  refine ⟨fun h f hf => ?_, fun h => ?_⟩
  · exact nomatch (filter_of_splits h).symm.trans (filter_of_inForce hf)
  · rcases inForce_or_splits env s with ⟨f, hf⟩ | hsplits
    · exact absurd hf (h f)
    · exact hsplits

/-- Only a filter with a part that begins with white space splits a character. -/
theorem Splits.exists_blank (h : Splits env s) :
    ∃ text, (env.get? filterVariable = some text ∨ text = s.logLevel) ∧
      ∃ part ∈ Filter.parts text, ∃ c ∈ part.head?, Text.isBlank c := by
  rcases h with ⟨hv, hp⟩ | ⟨-, hpart, hp⟩
  · exact ⟨_, .inl hv, Filter.exists_blank_of_parse hp⟩
  · exact ⟨_, .inr rfl, _, hpart, Directive.exists_blank_of_parse hp⟩

theorem InForce.unique {f g : Filter} (hf : InForce env s f) (hg : InForce env s g) : g = f :=
  Option.some.inj ((filter_of_inForce hg).symm.trans (filter_of_inForce hf))

/-! ### Calls -/

section Calls

variable {c : Console} {k : Call} {calls : List Call} {taken : Bool} {f : Filter}

/-- Calls have no effect any more: the log has been set up, or the process has come to its end. -/
def Settled (c : Console) : Prop := c.started ∨ c.aborted

theorem setUp_of_settled (h : c.Settled) (settings : Option Settings) : c.setUp settings = c := by
  rw [setUp, if_pos (Bool.or_eq_true_iff.2 h)]

theorem call_of_settled (h : c.Settled) (k : Call) : c.call k = c := by
  rw [call, setUp_of_settled h]
  exact ite_self c

theorem foldl_call_of_settled (h : c.Settled) (calls : List Call) : calls.foldl call c = c := by
  induction calls with
  | nil => rfl
  | cons k calls ih => rw [List.foldl_cons, call_of_settled h, ih]

/-- The console once a call with the filter `f` has come to its end. -/
def finished (env : Environment) (taken : Bool) (f : Filter) (layout : Layout) : Console :=
  { env
    log := some (if taken then .discard else .print f layout)
    started := true
    notices := if taken then [skippedNotice] else [] }

theorem setUp_start_of_inForce {settings : Option Settings}
    (h : InForce env (settings.getD (.ofEnvironment env)) f) : (start env taken).setUp settings =
      finished env taken f (settings.getD (.ofEnvironment env)).layout := by
  cases taken <;> simp [setUp, start, filter_of_inForce h, finished, Settings.layout]

theorem setUp_start_of_splits {settings : Option Settings}
    (h : Splits env (settings.getD (.ofEnvironment env))) :
    (start env taken).setUp settings = { start env taken with aborted := true } := by
  simp [setUp, start, filter_of_splits h]

/-- A call that comes to its end does the same whether it is guarded or not. -/
theorem call_start_of_inForce (h : InForce env (k.settingsIn env) f) :
    (start env taken).call k = finished env taken f (k.settingsIn env).layout := by
  rw [call, setUp_start_of_inForce h]
  exact ite_self _

theorem call_start_of_splits_of_guarded (h : Splits env (k.settingsIn env)) (hk : k.guarded) :
    (start env taken).call k = start env taken := by
  rw [call, setUp_start_of_splits h, if_pos hk]

theorem call_start_of_splits_of_not_guarded (h : Splits env (k.settingsIn env))
    (hk : ¬k.guarded) : (start env taken).call k = { start env taken with aborted := true } := by
  rw [call, setUp_start_of_splits h, if_neg hk]

/-- Calls that are broken off leave the console of a process that goes on as it was. -/
theorem foldl_call_start_of_splits
    (h : ∀ k ∈ calls, k.guarded ∧ Splits env (k.settingsIn env)) :
    calls.foldl call (start env taken) = start env taken := by
  induction calls with
  | nil => rfl
  | cons k calls ih =>
    obtain ⟨⟨hk, hsplits⟩, hcalls⟩ := List.forall_mem_cons.1 h
    rw [List.foldl_cons, call_start_of_splits_of_guarded hsplits hk, ih hcalls]

end Calls

/-! ### What is shown -/

/-- What a process shows that asks for its log by `calls` and says `ds` afterwards: what is printed,
and the notices. -/
def shown (env : Environment) (taken : Bool) (calls : List Call) (ds : List Diagnostic) :
    List String × List String :=
  let c := calls.foldl call (start env taken)
  (c.printed ds, c.notices)

theorem printed_of_print {c : Console} {f : Filter} {layout : Layout}
    (h : c.log = some (.print f layout)) (ds : List Diagnostic) :
    c.printed ds = (ds.filter f.admits).map layout.print := by
  have hprint : c.print? = fun d => if f.admits d then some (layout.print d) else none := by
    funext d
    rw [print?, h]
  rw [printed, hprint, ← List.filterMap_eq_map, List.filterMap_filter]
  rfl

theorem printed_of_ne_print {c : Console} (h : ∀ f layout, c.log ≠ some (.print f layout))
    (ds : List Diagnostic) : c.printed ds = [] := by
  refine List.filterMap_eq_nil_iff.2 fun d _ => ?_
  unfold print?
  split
  · next heq => exact absurd heq (h _ _)
  · rfl

section Shown

variable {taken : Bool} {first : Call} {before rest : List Call} {ds : List Diagnostic} {f : Filter}

theorem shown_nil : shown env taken [] ds = ([], []) := by
  rw [shown, List.foldl_nil, printed_of_ne_print (by cases taken <;> exact nofun)]
  rfl

theorem shown_append_of_splits (h : ∀ k ∈ before, k.guarded ∧ Splits env (k.settingsIn env)) :
    shown env taken (before ++ rest) ds = shown env taken rest ds := by
  rw [shown, List.foldl_append, foldl_call_start_of_splits h, ← shown]

theorem shown_of_splits_of_not_guarded (h : Splits env (first.settingsIn env))
    (hfirst : ¬first.guarded) : shown env taken (first :: rest) ds = ([], []) := by
  rw [shown, List.foldl_cons, call_start_of_splits_of_not_guarded h hfirst,
    foldl_call_of_settled (.inr rfl), printed_of_ne_print (by cases taken <;> exact nofun)]
  rfl

theorem shown_of_inForce (h : InForce env (first.settingsIn env) f) :
    shown env taken (first :: rest) ds =
      ((if taken then [] else ds.filter f.admits).map (first.settingsIn env).layout.print,
        if taken then [skippedNotice] else []) := by
  rw [shown, List.foldl_cons, call_start_of_inForce h, foldl_call_of_settled (.inl rfl)]
  cases taken with
  | true => rw [printed_of_ne_print (by exact nofun)]; rfl
  | false => rw [printed_of_print rfl]; rfl

/-- Only the layout and the filter in force count of the first call. -/
theorem shown_congr {first' : Call} {rest' : List Call} (h : InForce env (first.settingsIn env) f)
    (h' : InForce env (first'.settingsIn env) f)
    (hjson : (first'.settingsIn env).jsonLogs = (first.settingsIn env).jsonLogs) :
    shown env taken (first' :: rest') ds = shown env taken (first :: rest) ds := by
  rw [shown_of_inForce h, shown_of_inForce h', Settings.layout, hjson, ← Settings.layout]

end Shown

/-- The filter in force is no matter of the layout. -/
theorem InForce.withLayout {f : Filter} (h : InForce env s f) (jsonLogs : Bool) :
    InForce env { s with jsonLogs } f := by
  rcases h with ⟨hv, hp⟩ | ⟨hunset, hf⟩
  · exact .environment hv hp
  · exact .settings hunset hf

/-- A process asks for its log, first by `first` and then any number of times, and later has a
session with a logger that speaks in it. With a filter in force for the first call, there is only
one, and what is shown is what would be shown after this call alone: if something else has taken the
log, nothing is printed and there is one notice, and otherwise all that the session says and the
filter admits is printed, in order and in the layout of the first call. The layout is JSON if the
settings say so, or for a call without settings the environment, and decides about nothing else.
There is no filter in force exactly if a part of it splits a character, for which some part has to
begin with white space. Then nothing is shown at all if the call is not guarded, and guarded ones
change nothing about what is shown after the calls that follow; without any call nothing is. A
filter of the environment that can be understood makes all settings alike but for the layout. -/
theorem shown_first (env : Environment) (taken : Bool) (first : Call) (rest : List Call)
    (m : Making) (n : Nat) (as : List Action) :
    let said := m.said n as
    let s := first.settingsIn env
    let out := shown env taken (first :: rest) said
    (∀ f, InForce env s f →
        let passed := if taken then [] else said.filter f.admits
        let notices := if taken then [skippedNotice] else []
        (∀ g, InForce env s g → g = f) ∧ out = shown env taken [first] said ∧
          out = (passed.map s.layout.print, notices) ∧
          ∀ given, first.settings = some given → ∀ jsonLogs,
            shown env taken ({ first with settings := some { given with jsonLogs } } :: rest) said =
              (passed.map (Settings.layout { given with jsonLogs }).print, notices)) ∧
      ((Settings.ofEnvironment env).jsonLogs ↔
        ∃ v, env.get? "FRAMEWORK_EVENTS_LOG_FORMAT" = some v ∧
          List.Forall₂ (fun c d => c = d ∨ c = d.toUpper) v.toList "json".toList) ∧
      (Splits env s ↔ ∀ f, ¬InForce env s f) ∧
      (Splits env s → ∃ text, (env.get? "RUST_LOG" = some text ∨ text = s.logLevel) ∧
        ∃ part ∈ Filter.parts text, ∃ c ∈ part.head?, Text.isBlank c) ∧
      (Splits env s → ¬first.guarded → out = ([], [])) ∧
      (∀ before : List Call, (∀ k ∈ before, k.guarded ∧ Splits env (k.settingsIn env)) →
        shown env taken (before ++ first :: rest) said = out ∧
          shown env taken before said = ([], [])) ∧
      ∀ text f, env.get? "RUST_LOG" = some text → Filter.parse text = .ok f →
        ∀ (first' : Call) (rest' : List Call), (first'.settingsIn env).jsonLogs = s.jsonLogs →
          shown env taken (first' :: rest') said = out := by
  intro said s out
  refine ⟨fun f hf => ⟨fun g => hf.unique, ?_, shown_of_inForce hf, ?_⟩,
    Settings.jsonLogs_ofEnvironment_iff, splits_iff, fun h => h.exists_blank,
    shown_of_splits_of_not_guarded,
    fun before hbefore => ⟨shown_append_of_splits hbefore, ?_⟩, ?_⟩
  · exact (shown_of_inForce hf).trans (shown_of_inForce hf).symm
  · intro given hgiven jsonLogs
    have hs : s = given := Call.settingsIn_of_settings hgiven env
    have hforce : InForce env
        (Call.settingsIn { first with settings := some { given with jsonLogs } } env) f :=
      (hs ▸ hf).withLayout jsonLogs
    exact shown_of_inForce hforce
  · rw [← List.append_nil before, shown_append_of_splits hbefore, shown_nil]
  · intro text f hv hp first' rest' hjson
    exact shown_congr (.environment hv hp) (.environment hv hp) hjson

/-- The environment asks for warnings, whatever the settings say: an error is printed, a change of a
module is not. Without this a first call is broken off; where it is guarded the second one counts,
for which the change is worth telling as well. -/
theorem shown_first_warn :
    let env : Environment := ⟨[("RUST_LOG", "warn".toUTF8)]⟩
    let as : List Action :=
      [.moduleChanged ⟨0x01, none⟩, .frameworkReported { code := 0x02, module := none }]
    let said := Making.said (.given (.atLeast .trace)) 1 as
    let changed := " INFO framework_events::sink: BundleEvent INSTALLED category=Events.Module"
    let failed := "ERROR framework_events::sink: FrameworkEvent ERROR category=Events.Framework"
    let failedJson := "\x7b\"level\":\"ERROR\",\"fields\":\x7b\"message\":\"FrameworkEvent ERROR\"," ++
      "\"category\":\"Events.Framework\"\x7d,\"target\":\"framework_events::sink\"\x7d"
    let first : Call := { settings := some {} }
    let rest : List Call := [{ settings := some { logLevel := "trace", jsonLogs := true } }]
    let splitting : Settings := { logLevel := "\u00a0x=info" }
    InForce env {} [{ level := some .warn }] ∧
      shown env false (first :: rest) said = ([failed], []) ∧
      shown env true (first :: rest) said = ([], [skippedNotice]) ∧
      shown env false ({ settings := some { jsonLogs := true } } :: rest) said =
        ([failedJson], []) ∧
      env.get? "RUST_LOG" = some "warn" ∧ Filter.parse "warn" = .ok [{ level := some .warn }] ∧
      shown env false [{ settings := some { logLevel := "off" } }] said =
        shown env false (first :: rest) said ∧
      Splits .empty splitting ∧
      shown .empty false [{ settings := some splitting }, { settings := none }] said = ([], []) ∧
      shown .empty false [{ settings := some splitting, guarded := true }, { settings := none }]
        said = ([changed, failed], []) := by
  intro env as said changed failed failedJson first rest splitting
  have hset : env.get? "RUST_LOG" = some "warn" := by decide +kernel
  have hparse : Filter.parse "warn" = .ok [{ level := some .warn }] := by decide +kernel
  have hforce : InForce env {} [{ level := some .warn }] := .environment hset hparse
  have hsplits : Splits .empty splitting :=
    .settings (fun _ h => nomatch h)
      (show "\u00a0x=info".toList ∈ Filter.parts "\u00a0x=info" by decide +kernel)
      (by decide +kernel)
  have hinfo : InForce .empty {} [{ level := some .info }] :=
    .settings (fun _ h => nomatch h) (by decide +kernel)
  have hbroken : ∀ k ∈ [({ settings := some splitting, guarded := true } : Call)],
      k.guarded ∧ Splits .empty (k.settingsIn .empty) :=
    List.forall_mem_singleton.2 ⟨rfl, hsplits⟩
  obtain ⟨hfree, -, -, -, -, -, halike⟩ :=
    shown_first env false first rest (.given (.atLeast .trace)) 1 as
  obtain ⟨-, -, hshown, hlayout⟩ := hfree _ hforce
  obtain ⟨htaken, -⟩ := shown_first env true first rest (.given (.atLeast .trace)) 1 as
  obtain ⟨-, -, -, -, hends, -⟩ := shown_first .empty false { settings := some splitting }
    [{ settings := none }] (.given (.atLeast .trace)) 1 as
  obtain ⟨hsecond, -, -, -, -, hbefore, -⟩ :=
    shown_first .empty false { settings := none } [] (.given (.atLeast .trace)) 1 as
  refine ⟨hforce, hshown.trans (by decide +kernel), (htaken _ hforce).2.2.1, ?_, hset, hparse,
    halike "warn" _ hset hparse { settings := some { logLevel := "off" } } [] rfl, hsplits,
    hends hsplits nofun, ?_⟩
  · exact (hlayout {} rfl true).trans (by decide +kernel)
  · exact (hbefore _ hbroken).1.trans ((hsecond _ hinfo).2.2.1.trans (by decide +kernel))

/-- Where a part of a filter splits a character, the first call does not count. The notice is missing
although something else has taken the log, and a second call sets the log up after a first one that
was guarded. After a first call with a filter that cannot be understood for another reason the
notice is there, and a second one changes nothing. -/
theorem shown_ne_of_split :
    let broken : Call := { settings := some { logLevel := "\u00a0x=info" }, guarded := true }
    let malformed : Call := { settings := some { logLevel := "(" } }
    let second : Call := { settings := some { logLevel := "trace" } }
    let d : Diagnostic := .ofMessage .warn Diagnostic.thresholdTarget "said"
    (shown .empty true [{ broken with guarded := false }] []).2 ≠ [skippedNotice] ∧
      shown .empty false [broken, second] [d] ≠ shown .empty false [broken] [d] ∧
      (shown .empty true [malformed] []).2 = [skippedNotice] ∧
      shown .empty false [malformed, second] [d] = shown .empty false [malformed] [d] := by
  decide +kernel

end Console

end Output

end HostLog
