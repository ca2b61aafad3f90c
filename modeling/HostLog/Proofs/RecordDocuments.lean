import HostLog.Output.Settings
import HostLog.Proofs.Json.Records
import HostLog.Service

/-!
# Documents of records

A module, a service and settings are decoded from objects of any values. What counts are the members
of the declared names: a required one stands there once, an optional one at most once, and its value
is of the kind of the field (`Module.Describes`, `Service.Describes`, `Output.Settings.Describes`).
`decode_objects`: just these objects are decoded, as just what they describe.
-/

namespace HostLog

namespace Json

/-- The document is one object, with these keys and values as they stand in it. -/
structure IsObject (document : String) (ms : List (List Char × List Char)) : Prop where
  form : Padded RawObject document.toList ms
  values : ∀ m ∈ ms, Value m.2

variable {α β : Type} {F : List Char → β → Prop} {name : String}
  {ns ns' : List (String × List Char)}

/-- One member has the name, and its value writes `b`. -/
def Once (ns : List (String × List Char)) (name : String) (F : List Char → β → Prop) (b : β) :
    Prop :=
  ∃ v, valuesOf name ns = [v] ∧ F v b

/-- No member has the name, or one, and its value is `null` or writes what there is. -/
def AtMostOnce (ns : List (String × List Char)) (name : String) (F : List Char → β → Prop)
    (o : Option β) : Prop :=
  valuesOf name ns = [] ∧ o = none ∨ ∃ v, valuesOf name ns = [v] ∧ Nullable F v o

theorem settles_none_some_iff {b : β} :
    Settles F none (valuesOf name ns) (some b) ↔ Once ns name F b := by
  rw [Once]
  constructor
  · generalize valuesOf name ns = vs
    rintro ⟨⟩
    exact ⟨_, rfl, ‹_›⟩
  · rintro ⟨v, hv, hb⟩
    rw [hv]
    exact .read hb

theorem exists_settles_join_iff {o : Option β} :
    (∃ x, Settles (Nullable F) none (valuesOf name ns) x ∧ x.join = o) ↔
      AtMostOnce ns name F o := by
  rw [AtMostOnce]
  constructor
  · generalize valuesOf name ns = vs
    rintro ⟨_, ⟨⟩, rfl⟩
    · exact .inl ⟨rfl, rfl⟩
    · exact .inr ⟨_, rfl, ‹_›⟩
  · rintro (⟨hv, rfl⟩ | ⟨v, hv, ho⟩)
    · rw [hv]
      exact ⟨none, .kept, rfl⟩
    · rw [hv]
      exact ⟨some o, .read ho, rfl⟩

/-- The same members of the names `declared`, in any order, and any others. -/
def SameDeclared (declared : List String) (ns ns' : List (String × List Char)) : Prop :=
  (ns.filter fun n => n.1 ∈ declared).Perm (ns'.filter fun n => n.1 ∈ declared)

theorem SameDeclared.perm {declared : List String} (h : SameDeclared declared ns ns')
    (hname : name ∈ declared) : (valuesOf name ns).Perm (valuesOf name ns') := by
  have hfilter (ns : List (String × List Char)) :
      valuesOf name (ns.filter fun n => n.1 ∈ declared) = valuesOf name ns := by
    rw [valuesOf, valuesOf, List.filter_filter]
    congr 1
    refine List.filter_congr fun n _ => ?_
    by_cases hn : n.1 = name <;> simp [hn, hname]
  have hvalues := (h.filter fun n => n.1 = name).map Prod.snd
  rw [← hfilter ns, ← hfilter ns']
  exact hvalues

theorem SameDeclared.symm {declared : List String} (h : SameDeclared declared ns ns') :
    SameDeclared declared ns' ns :=
  List.Perm.symm h

/-- No more than one value goes into a place, so their order does not matter. -/
theorem Settles.perm {o o' : Option β} {vs vs' : List (List Char)} (h : Settles F o vs o')
    (hperm : vs.Perm vs') : Settles F o vs' o' := by
  cases h with
  | kept => rw [List.nil_perm.1 hperm]; exact .kept
  | read hb => rw [← List.singleton_perm.1 hperm]; exact .read hb

theorem Loads.same {σ : Type} {l : Layout σ} {d e : σ} (h : Loads l d ns e)
    (hsame : SameDeclared (l.slots.map Slot.name) ns ns') : Loads l d ns' e := by
  rw [Layout.loads_iff] at h ⊢
  exact fun s hs => (h s hs).perm (hsame.perm (List.mem_map_of_mem hs))

/-- A well-formed object is decoded exactly if its keys can be read as names and its members then
describe something, and as that. The order of the members does not matter, nor which members of
other names there are. -/
structure Reader.ReadsObjects (r : Reader α) (declared : List String)
    (Describes : List (String × List Char) → α → Prop) : Prop where
  decode_iff {document : String} {ms : List (List Char × List Char)} (object : IsObject document ms)
    {a : α} : r.decode document = .ok a ↔ ∃ ns, Named ms ns ∧ Describes ns a
  independent {document document' : String} {ms ms' : List (List Char × List Char)}
    (object : IsObject document ms) (object' : IsObject document' ms')
    {ns ns' : List (String × List Char)} (named : Named ms ns) (named' : Named ms' ns')
    (same : SameDeclared declared ns ns') {a : α} :
    r.decode document = .ok a ↔ r.decode document' = .ok a

theorem Shape.readsObjects {σ : Type} {shape : Shape σ α} {l : Layout σ}
    {Describes : List (String × List Char) → α → Prop} (hl : shape.fields = l.fields)
    (hdescribes : ∀ {ns a},
      (∃ d, Loads l shape.start ns d ∧ shape.finish d = .ok a) ↔ Describes ns a) :
    shape.reader.ReadsObjects (l.slots.map Slot.name) Describes := by
  have hdecode {document : String} {ms : List (List Char × List Char)} {a : α}
      (h : IsObject document ms) :
      shape.reader.decode document = .ok a ↔ ∃ ns, Named ms ns ∧ Describes ns a := by
    rw [decode_object hl h.form h.values]
    exact exists_congr fun ns => and_congr_right fun _ => hdescribes
  have hsame {ns ns' : List (String × List Char)} {a : α}
      (h : SameDeclared (l.slots.map Slot.name) ns ns') (ha : Describes ns a) :
      Describes ns' a := by
    obtain ⟨d, hloads, hfinish⟩ := hdescribes.2 ha
    exact hdescribes.1 ⟨d, hloads.same h, hfinish⟩
  refine ⟨fun h => hdecode h, fun {_ _ _ _} h h' {ns ns'} hns hns' same {a} => ?_⟩
  rw [hdecode h, hdecode h']
  constructor
  · rintro ⟨_, hnamed, ha⟩
    cases hnamed.unique hns
    exact ⟨ns', hns', hsame same ha⟩
  · rintro ⟨_, hnamed, ha⟩
    cases hnamed.unique hns'
    exact ⟨ns, hns, hsame same.symm ha⟩

/-! ### Documents without space -/

/-- A member without space. -/
def rawText (m : List Char × List Char) : List Char := '"' :: (m.1 ++ '"' :: ':' :: m.2)

theorem rawObject_intercalate {ms : List (List Char × List Char)}
    (h : ∀ m ∈ ms, StringBody m.1) :
    RawObject ('\x7b' :: ([','].intercalate (ms.map rawText) ++ ['\x7d'])) ms := by
  cases ms with
  | nil => exact .empty space_nil
  | cons m ms =>
    exact .members (separated_intercalate (fun n hn => .intro (h n hn) space_nil space_nil)
      (List.cons_ne_nil m ms))

theorem isObject_of_named {document : String} {ms : List (List Char × List Char)}
    (hdocument : document.toList = '\x7b' :: ([','].intercalate (ms.map rawText) ++ ['\x7d']))
    (hns : Named ms ns) (hvalues : ∀ m ∈ ms, Value m.2) : IsObject document ms := by
  refine ⟨?_, hvalues⟩
  rw [hdocument]
  exact padded_self (rawObject_intercalate hns.body)

/-- `b` stands between the quotes of a key or of a string in the value, at any depth. -/
inductive Within : List Char → List Char → Prop
  | string {b : List Char} (body : StringBody b) : Within ('"' :: (b ++ ['"'])) b
  | element {t v b : List Char} {vs : List (List Char)} (form : Sequence Eq t vs) (mem : v ∈ vs)
      (within : Within v b) : Within t b
  | key {t : List Char} {ms : List (List Char × List Char)} {m : List Char × List Char}
      (form : RawObject t ms) (mem : m ∈ ms) : Within t m.1
  | value {t b : List Char} {ms : List (List Char × List Char)} {m : List Char × List Char}
      (form : RawObject t ms) (mem : m ∈ ms) (within : Within m.2 b) : Within t b

/-- A unit without its partner, as it stands between quotes. -/
def loneSurrogate : List Char := ['\\', 'u', 'd', '8', '0', '0']

theorem body_loneSurrogate : StringBody loneSurrogate := by
  have hread : readUnit ['d', '8', '0', '0'] = .ok (0xD800, []) := by decide +kernel
  obtain ⟨u, hu, hunit⟩ := readUnit_eq_ok_iff.1 hread
  rw [List.append_nil] at hu
  subst hu
  exact .unit hunit .nil

theorem not_spells_loneSurrogate (cs : List Char) : ¬Spells loneSurrogate cs := by
  intro h
  have hread := readString_of_spells h []
  have herror : readString (loneSurrogate ++ '"' :: []) =
      .error (.at .surrogateNotFollowed ['"']) := by decide +kernel
  cases herror.symm.trans hread

end Json

namespace Module

open Json

structure Describes (ns : List (String × List Char)) (m : Module) : Prop where
  id : Once ns "id" Natural m.id
  symbolicName : Once ns "symbolic_name" Quoted m.symbolicName
  version : AtMostOnce ns "version" Quoted m.version

def Draft.layout : Layout Draft where
  slots :=
    [⟨"id", true, .natural, Natural, recognizes_natural, Draft.id,
        fun v d => { d with id := some v }, fun _ _ => rfl⟩,
      ⟨"symbolic_name", true, .text, Quoted, Reader.recognizes_text, Draft.symbolicName,
        fun v d => { d with symbolicName := some v }, fun _ _ => rfl⟩,
      ⟨"version", false, .optional .text, Nullable Quoted,
        Reader.recognizes_text.optional nofun, Draft.version,
        fun v d => { d with version := some v }, fun _ _ => rfl⟩]
  apart := by
    simp only [List.pairwise_cons, List.mem_cons, List.not_mem_nil, or_false, forall_eq_or_imp,
      forall_eq, false_imp_iff, implies_true, List.Pairwise.nil, and_true]
    refine ⟨⟨?_, ?_⟩, ?_⟩ <;> exact ⟨by decide, fun _ _ => rfl, fun _ _ => rfl⟩
  ext {d e} h := by
    simp only [List.mem_cons, List.not_mem_nil, or_false, forall_eq_or_imp, forall_eq] at h
    obtain ⟨id, name, version⟩ := d
    obtain ⟨id', name', version'⟩ := e
    obtain ⟨rfl, rfl, rfl⟩ := h
    rfl

theorem Draft.finish_eq_ok_iff {d : Draft} {m : Module} : d.finish = .ok m ↔
    d.id = some m.id ∧ d.symbolicName = some m.symbolicName ∧ d.version.join = m.version := by
  obtain ⟨id, name, version⟩ := d
  obtain ⟨id', name', version'⟩ := m
  cases id <;> cases name <;> simp [finish]

theorem loads_iff {ns : List (String × List Char)} {d e : Draft} : Loads Draft.layout d ns e ↔
    Settles Natural d.id (valuesOf "id" ns) e.id ∧
      Settles Quoted d.symbolicName (valuesOf "symbolic_name" ns) e.symbolicName ∧
      Settles (Nullable Quoted) d.version (valuesOf "version" ns) e.version := by
  rw [Layout.loads_iff]
  simp only [Draft.layout, List.mem_cons, List.not_mem_nil, or_false, forall_eq_or_imp, forall_eq]

theorem describes_iff {ns : List (String × List Char)} {m : Module} :
    (∃ d, Loads Draft.layout {} ns d ∧ d.finish = .ok m) ↔ Describes ns m := by
  simp only [loads_iff, Draft.finish_eq_ok_iff]
  constructor
  · rintro ⟨⟨_, _, version⟩, ⟨hid, hname, hversion⟩, rfl, rfl, hjoin⟩
    exact ⟨settles_none_some_iff.1 hid, settles_none_some_iff.1 hname,
      exists_settles_join_iff.1 ⟨version, hversion, hjoin⟩⟩
  · rintro ⟨hid, hname, hversion⟩
    obtain ⟨version, hversion, hjoin⟩ := exists_settles_join_iff.2 hversion
    exact ⟨⟨some m.id, some m.symbolicName, version⟩, ⟨settles_none_some_iff.2 hid,
      settles_none_some_iff.2 hname, hversion⟩, rfl, rfl, hjoin⟩

theorem readsObjects :
    reader.ReadsObjects ["id", "symbolic_name", "version"] Describes :=
  Shape.readsObjects (l := Draft.layout) rfl describes_iff

theorem recognizes : reader.Recognizes fun t m => reader.decode (String.ofList t) = .ok m :=
  (Shape.recognizes (l := Draft.layout) rfl).decodes

theorem decode_null_ne (m : Module) : reader.decode (String.ofList ['n', 'u', 'l', 'l']) ≠ .ok m :=
  Shape.decode_scalar_ne (l := Draft.layout) rfl .null

end Module

namespace Service

open Json

structure Describes (ns : List (String × List Char)) (s : Service) : Prop where
  id : Once ns "service_id" Natural s.id
  classes : Once ns "object_classes" (Sequence Quoted) s.classes
  module : AtMostOnce ns "module"
    (fun t m => Module.reader.decode (String.ofList t) = .ok m) s.module

def Draft.layout : Layout Draft where
  slots :=
    [⟨"service_id", true, .natural, Natural, recognizes_natural, Draft.id,
        fun v d => { d with id := some v }, fun _ _ => rfl⟩,
      ⟨"object_classes", true, .list .text, Sequence Quoted, Reader.recognizes_texts, Draft.classes,
        fun v d => { d with classes := some v }, fun _ _ => rfl⟩,
      ⟨"module", false, .optional Module.reader, Nullable _,
        Module.recognizes.optional Module.decode_null_ne, Draft.module,
        fun v d => { d with module := some v }, fun _ _ => rfl⟩]
  apart := by
    simp only [List.pairwise_cons, List.mem_cons, List.not_mem_nil, or_false, forall_eq_or_imp,
      forall_eq, false_imp_iff, implies_true, List.Pairwise.nil, and_true]
    refine ⟨⟨?_, ?_⟩, ?_⟩ <;> exact ⟨by decide, fun _ _ => rfl, fun _ _ => rfl⟩
  ext {d e} h := by
    simp only [List.mem_cons, List.not_mem_nil, or_false, forall_eq_or_imp, forall_eq] at h
    obtain ⟨id, classes, module⟩ := d
    obtain ⟨id', classes', module'⟩ := e
    obtain ⟨rfl, rfl, rfl⟩ := h
    rfl

theorem Draft.finish_eq_ok_iff {d : Draft} {s : Service} : d.finish = .ok s ↔
    d.id = some s.id ∧ d.classes = some s.classes ∧ d.module.join = s.module := by
  obtain ⟨id, classes, module⟩ := d
  obtain ⟨id', classes', module'⟩ := s
  cases id <;> cases classes <;> simp [finish]

theorem loads_iff {ns : List (String × List Char)} {d e : Draft} : Loads Draft.layout d ns e ↔
    Settles Natural d.id (valuesOf "service_id" ns) e.id ∧
      Settles (Sequence Quoted) d.classes (valuesOf "object_classes" ns) e.classes ∧
      Settles (Nullable fun t m => Module.reader.decode (String.ofList t) = .ok m) d.module
        (valuesOf "module" ns) e.module := by
  rw [Layout.loads_iff]
  simp only [Draft.layout, List.mem_cons, List.not_mem_nil, or_false, forall_eq_or_imp, forall_eq]

theorem describes_iff {ns : List (String × List Char)} {s : Service} :
    (∃ d, Loads Draft.layout {} ns d ∧ d.finish = .ok s) ↔ Describes ns s := by
  simp only [loads_iff, Draft.finish_eq_ok_iff]
  constructor
  · rintro ⟨⟨_, _, module⟩, ⟨hid, hclasses, hmodule⟩, rfl, rfl, hjoin⟩
    exact ⟨settles_none_some_iff.1 hid, settles_none_some_iff.1 hclasses,
      exists_settles_join_iff.1 ⟨module, hmodule, hjoin⟩⟩
  · rintro ⟨hid, hclasses, hmodule⟩
    obtain ⟨module, hmodule, hjoin⟩ := exists_settles_join_iff.2 hmodule
    exact ⟨⟨some s.id, some s.classes, module⟩, ⟨settles_none_some_iff.2 hid,
      settles_none_some_iff.2 hclasses, hmodule⟩, rfl, rfl, hjoin⟩

theorem readsObjects :
    reader.ReadsObjects ["service_id", "object_classes", "module"] Describes :=
  Shape.readsObjects (l := Draft.layout) rfl describes_iff

end Service

namespace Output.Settings

open Json

structure Describes (ns : List (String × List Char)) (s : Settings) : Prop where
  logLevel : Once ns "log_level" Quoted s.logLevel
  jsonLogs : Once ns "json_logs" Truth s.jsonLogs

def Draft.layout : Layout Draft where
  slots :=
    [⟨"log_level", true, .text, Quoted, Reader.recognizes_text, Draft.logLevel,
        fun v d => { d with logLevel := some v }, fun _ _ => rfl⟩,
      ⟨"json_logs", true, .truth, Truth, recognizes_truth, Draft.jsonLogs,
        fun v d => { d with jsonLogs := some v }, fun _ _ => rfl⟩]
  apart := List.pairwise_pair.2 ⟨by decide, fun _ _ => rfl, fun _ _ => rfl⟩
  ext {d e} h := by
    simp only [List.mem_cons, List.not_mem_nil, or_false, forall_eq_or_imp, forall_eq] at h
    obtain ⟨logLevel, jsonLogs⟩ := d
    obtain ⟨logLevel', jsonLogs'⟩ := e
    obtain ⟨rfl, rfl⟩ := h
    rfl

theorem Draft.finish_eq_ok_iff {d : Draft} {s : Settings} : d.finish = .ok s ↔
    d.logLevel = some s.logLevel ∧ d.jsonLogs = some s.jsonLogs := by
  obtain ⟨logLevel, jsonLogs⟩ := d
  obtain ⟨logLevel', jsonLogs'⟩ := s
  cases logLevel <;> cases jsonLogs <;> simp [finish]

theorem loads_iff {ns : List (String × List Char)} {d e : Draft} : Loads Draft.layout d ns e ↔
    Settles Quoted d.logLevel (valuesOf "log_level" ns) e.logLevel ∧
      Settles Truth d.jsonLogs (valuesOf "json_logs" ns) e.jsonLogs := by
  rw [Layout.loads_iff]
  simp only [Draft.layout, List.mem_cons, List.not_mem_nil, or_false, forall_eq_or_imp, forall_eq]

theorem describes_iff {ns : List (String × List Char)} {s : Settings} :
    (∃ d, Loads Draft.layout {} ns d ∧ d.finish = .ok s) ↔ Describes ns s := by
  simp only [loads_iff, Draft.finish_eq_ok_iff]
  constructor
  · rintro ⟨⟨_, _⟩, ⟨hlevel, hjson⟩, rfl, rfl⟩
    exact ⟨settles_none_some_iff.1 hlevel, settles_none_some_iff.1 hjson⟩
  · rintro ⟨hlevel, hjson⟩
    exact ⟨⟨some s.logLevel, some s.jsonLogs⟩, ⟨settles_none_some_iff.2 hlevel,
      settles_none_some_iff.2 hjson⟩, rfl, rfl⟩

theorem readsObjects :
    reader.ReadsObjects ["log_level", "json_logs"] Describes :=
  Shape.readsObjects (l := Draft.layout) rfl describes_iff

end Output.Settings

/-- Decoding objects as modules, services and settings: which ones are decoded, and as what. Values of
any kind and depth may stand under names that are not declared. -/
theorem decode_objects :
    Module.reader.ReadsObjects ["id", "symbolic_name", "version"] Module.Describes ∧
      Service.reader.ReadsObjects ["service_id", "object_classes", "module"] Service.Describes ∧
      Output.Settings.reader.ReadsObjects ["log_level", "json_logs"] Output.Settings.Describes :=
  ⟨Module.readsObjects, Service.readsObjects, Output.Settings.readsObjects⟩

open Json in
/-- A member is named by an escape, an unknown one holds half a surrogate pair, and the largest
number is read as itself; the members may also change places. -/
theorem decode_objects_escaped :
    let text := "\x7b\"\\u0069d\":18446744073709551615,\"x\":[\"\\ud800\"]," ++
      "\"symbolic_name\":\"a\"\x7d"
    let text' := "\x7b\"symbolic_name\":\"a\",\"id\":18446744073709551615\x7d"
    ∃ ms ms' ns ns', IsObject text ms ∧ IsObject text' ms' ∧ Named ms ns ∧ Named ms' ns' ∧
      SameDeclared ["id", "symbolic_name", "version"] ns ns' ∧
      Module.reader.decode text = .ok ⟨18446744073709551615, "a", none⟩ ∧
      Module.reader.decode text' = .ok ⟨18446744073709551615, "a", none⟩ := by
  intro text text'
  let id := (writeNatural 18446744073709551615).toList
  let x := '[' :: ('"' :: (loneSurrogate ++ ['"']) ++ [']'])
  let name := ['"', 'a', '"']
  let ms := [("\\u0069d".toList, id), ("x".toList, x), ("symbolic_name".toList, name)]
  let ms' := [("symbolic_name".toList, name), ("id".toList, id)]
  let ns := [("id", id), ("x", x), ("symbolic_name", name)]
  let ns' := [("symbolic_name", name), ("id", id)]
  have htext : text.toList = '\x7b' :: ([','].intercalate (ms.map rawText) ++ ['\x7d']) := by
    decide +kernel
  have htext' : text'.toList = '\x7b' :: ([','].intercalate (ms'.map rawText) ++ ['\x7d']) := by
    decide +kernel
  have hid : Natural id 18446744073709551615 := natural_writeNatural _
  have hx : Value x := by
    refine .list (.elements (.last (padded_self rfl))) (List.forall_mem_singleton.2 ?_)
    exact .scalar (.string body_loneSurrogate)
  have hname : Quoted name "a" := .intro (.plain (by decide) (by decide) (by decide) .nil)
  have hkey : Spells "\\u0069d".toList "id".toList := spells_of_read (by decide +kernel)
  have hkey' : Spells "id".toList "id".toList := spells_of_read (by decide +kernel)
  have hkeyName : Spells "symbolic_name".toList "symbolic_name".toList :=
    spells_of_read (by decide +kernel)
  have hkeyX : Spells "x".toList "x".toList := spells_of_read (by decide +kernel)
  have hns : Named ms ns := .cons ⟨hkey, rfl⟩ (.cons ⟨hkeyX, rfl⟩ (.cons ⟨hkeyName, rfl⟩ .nil))
  have hns' : Named ms' ns' := .cons ⟨hkeyName, rfl⟩ (.cons ⟨hkey', rfl⟩ .nil)
  have hobject : IsObject text ms := by
    refine isObject_of_named htext hns ?_
    simp only [ms, List.forall_mem_cons]
    exact ⟨value_of_natural hid, hx, (Reader.value_of_quoted hname).1, nofun⟩
  have hobject' : IsObject text' ms' := by
    refine isObject_of_named htext' hns' ?_
    simp only [ms', List.forall_mem_cons]
    exact ⟨(Reader.value_of_quoted hname).1, value_of_natural hid, nofun⟩
  have hsame : SameDeclared ["id", "symbolic_name", "version"] ns ns' := List.Perm.swap _ _ _
  have hdescribes : Module.Describes ns ⟨18446744073709551615, "a", none⟩ :=
    ⟨⟨id, rfl, hid⟩, ⟨name, rfl, hname⟩, .inl ⟨rfl, rfl⟩⟩
  have hdecode := (decode_objects.1.decode_iff hobject).2 ⟨ns, hns, hdescribes⟩
  have hdecode' := (decode_objects.1.independent hobject hobject' hns hns' hsame).1 hdecode
  exact ⟨ms, ms', ns, ns', hobject, hobject', hns, hns', hsame, hdecode, hdecode'⟩

open Json in
/-- Not every string in a declared member has to be spelt well: one that a module in a service holds
under an unknown name is passed over. -/
theorem decodes_lone_surrogate :
    let text := "\x7b\"service_id\":1,\"object_classes\":[],\"module\":" ++
      "\x7b\"id\":1,\"symbolic_name\":\"x\",\"extra\":\"\\ud800\"\x7d\x7d"
    ∃ ms ns v b, IsObject text ms ∧ Named ms ns ∧ ("module", v) ∈ ns ∧ Within v b ∧
      (∀ cs, ¬Spells b cs) ∧ Service.reader.decode text = .ok ⟨1, [], some ⟨1, "x", none⟩⟩ := by
  intro text
  let one := (writeNatural 1).toList
  let extra := '"' :: (loneSurrogate ++ ['"'])
  let inner := [("id".toList, one), ("symbolic_name".toList, ['"', 'x', '"']),
    ("extra".toList, extra)]
  let v := '\x7b' :: ([','].intercalate (inner.map rawText) ++ ['\x7d'])
  let ms := [("service_id".toList, one), ("object_classes".toList, ['[', ']']),
    ("module".toList, v)]
  let ns := [("service_id", one), ("object_classes", ['[', ']']), ("module", v)]
  have hplain {s : String} (h : readString (s.toList ++ ['"']) = .ok (s.toList, [])) :
      Spells s.toList s.toList := spells_of_read h
  have htext : text.toList = '\x7b' :: ([','].intercalate (ms.map rawText) ++ ['\x7d']) := by
    decide +kernel
  have hone : Value one := value_of_natural (natural_writeNatural 1)
  have hextra : StringBody loneSurrogate := body_loneSurrogate
  have hx : Quoted ['"', 'x', '"'] "x" := .intro (.plain (by decide) (by decide) (by decide) .nil)
  have hinner : RawObject v inner := by
    refine rawObject_intercalate ?_
    simp only [inner, List.forall_mem_cons]
    exact ⟨(hplain (by decide +kernel)).body, (hplain (by decide +kernel)).body,
      (hplain (by decide +kernel)).body, nofun⟩
  have hv : Value v := by
    refine .object hinner ?_
    simp only [inner, List.forall_mem_cons]
    exact ⟨hone, (Reader.value_of_quoted hx).1, .scalar (.string hextra), nofun⟩
  have hns : Named ms ns := .cons ⟨hplain (by decide +kernel), rfl⟩
    (.cons ⟨hplain (by decide +kernel), rfl⟩ (.cons ⟨hplain (by decide +kernel), rfl⟩ .nil))
  have hobject : IsObject text ms := by
    refine isObject_of_named htext hns ?_
    simp only [ms, List.forall_mem_cons]
    exact ⟨hone, .list (.empty space_nil) nofun, hv, nofun⟩
  have hwithin : Within v loneSurrogate := by
    refine .value hinner (m := ("extra".toList, extra)) ?_ (.string hextra)
    simp [inner]
  refine ⟨ms, ns, v, loneSurrogate, hobject, hns, ?_, hwithin, not_spells_loneSurrogate, ?_⟩
  · simp [ns]
  · decide +kernel

end HostLog
