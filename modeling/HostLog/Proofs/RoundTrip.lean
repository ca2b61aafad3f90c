import HostLog.Output.Settings
import HostLog.Proofs.Json.Choice
import HostLog.Proofs.PropertyDocuments
import HostLog.Service
import HostLog.Severity

/-!
# Documents give back what was written

`Json.Lossless r write` says that a document that `write` made is decoded by `r` as the value it was
made of. `lossless_documents`: that is so for property sets, modules, services, settings and
severities, whatever they contain.
-/

namespace HostLog

open Json

namespace Json

/-- Every written value is decoded as itself, and so different values are written differently.
What is accepted in another spelling is written in a canonical one, which decoding and writing leave
as it is. -/
structure Lossless {α : Type} (r : Reader α) (write : α → String) : Prop where
  decode_write (x : α) : r.decode (write x) = .ok x
  write_inj {x y : α} : write x = write y ↔ x = y
  canonical {document : String} {x : α} :
    r.decode document = .ok x → (r.decode (write x)).map write = .ok (write x)

theorem Lossless.of_takes {α : Type} {r : Reader α} {write : α → String}
    (h : ∀ x, r.Takes (write x).toList x) : Lossless r write := by
  have hdecode (x : α) : r.decode (write x) = .ok x := (h x).decode
  refine ⟨hdecode, fun {x y} => ⟨fun hxy => ?_, fun hxy => hxy ▸ rfl⟩, fun {_ x} _ => ?_⟩
  · exact Except.ok.inj ((hdecode x).symm.trans (hxy ▸ hdecode y))
  · rw [hdecode x]
    rfl

end Json

theorem Properties.takes_toJson (p : Properties) : reader.Takes p.toJson.toList p := by
  have h := ((Reader.accepts_members Reader.accepts_text).takes p.object_toJson).map ofList
  rwa [ofList_entries] at h

theorem Module.takes_toJson (m : Module) : reader.Takes m.toJson.toList m := by
  obtain ⟨id, symbolicName, version⟩ := m
  have hfinish : shape.finish ⟨id, symbolicName, version.map some⟩ =
      .ok ⟨id, symbolicName, version⟩ := by
    cases version <;> rfl
  refine Shape.takes_of_fills (object_verbatim _) ?_ hfinish
  refine .of rfl rfl (takes_natural (natural_writeNatural id)) ?_
  refine .of rfl rfl (takes_text symbolicName) ?_
  cases version with
  | none => exact .nil
  | some v =>
    have hv := (takes_text v).optional (toList_writeString v) (by decide) (by decide)
    exact .of rfl rfl hv .nil

theorem Service.takes_toJson (s : Service) : reader.Takes s.toJson.toList s := by
  obtain ⟨id, classes, module⟩ := s
  have hclasses := (Reader.accepts_list Reader.accepts_text begins_quoted).takes
    (sequence_writeList quoted_writeString classes)
  have hmodule : (Reader.optional Module.reader).Takes
      ((module.map Module.toJson).getD "null").toList module := by
    cases module with
    | none => exact Module.reader.takes_null
    | some m =>
      obtain ⟨ms, hms⟩ : ∃ ms, Object Verbatim m.toJson.toList ms := ⟨_, object_verbatim _⟩
      obtain ⟨u, hu, -⟩ := object_iff.1 hms
      exact m.takes_toJson.optional hu (by decide) (by decide)
  refine Shape.takes_of_fills (d := ⟨id, classes, some module⟩) (object_verbatim _) ?_ rfl
  refine .of rfl rfl (takes_natural (natural_writeNatural id)) ?_
  exact .of rfl rfl hclasses (.of rfl rfl hmodule .nil)

theorem Output.Settings.takes_toJson (s : Settings) : reader.Takes s.toJson.toList s := by
  obtain ⟨logLevel, jsonLogs⟩ := s
  refine Shape.takes_of_fills (d := ⟨logLevel, jsonLogs⟩) (object_verbatim _) ?_ rfl
  exact .of rfl rfl (takes_text logLevel) (.of rfl rfl (takes_truth jsonLogs) .nil)

theorem Severity.takes_toJson (s : Severity) : reader.Takes s.toJson.toList s := by
  refine (Reader.accepts_variant _).takes (.text (quoted_writeString s.name) ?_)
  cases s <;> rfl

/-- Whatever a property set, a module, a service, settings or a severity contain, decoding what was
written gives them back. -/
theorem lossless_documents : Lossless Properties.reader Properties.toJson ∧
    Lossless Module.reader Module.toJson ∧ Lossless Service.reader Service.toJson ∧
    Lossless Output.Settings.reader Output.Settings.toJson ∧
    Lossless Severity.reader Severity.toJson :=
  ⟨.of_takes Properties.takes_toJson, .of_takes Module.takes_toJson,
    .of_takes Service.takes_toJson, .of_takes Output.Settings.takes_toJson,
    .of_takes Severity.takes_toJson⟩

end HostLog
