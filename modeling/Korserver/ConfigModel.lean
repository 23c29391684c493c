import Korserver.Config
import Korserver.ConfigMapping

/-!
What the models make of a mapping, as far as the upstream code reads it: `AppConfig` and
`UpstreamProfileConfig` of `config/models.py` validate it and dump it.
-/

namespace Korserver

open PythonText PythonValue

/-- A configuration and a profile with what the services read of them, and what the model of a profile
makes of an item of the list. -/
structure ConfigModel (Config Profile : Type) extends ProfileModel Config Profile where
  appConfig : Config → AppConfig
  typed : Profile → UpstreamProfileConfig
  item : Json → Option UpstreamProfileConfig

def numberingFields : List String := ["name", "interface", "routing_offset"]

def SameFields (left right : Json) : Prop :=
  ∀ key ∈ numberingFields, dictGet key (oldEntries left) = dictGet key (oldEntries right)

/-- The models validate every field on its own, and what was dumped validates to what it was. The
mappings that are read have each key once. -/
structure ModelLaws {Config Profile : Type} (model : ConfigModel Config Profile)
    (context : ConfigContext Config) : Prop where
  listed : ∀ config, (model.appConfig config).upstream.profiles = (model.profiles config).map model.typed
  named : ∀ profile, (model.typed profile).name = model.name profile
  active : ∀ config, (model.appConfig config).upstream.activeProfile = model.activeProfile config
  validProfile : ∀ profile, (model.typed profile).validate = .ok ()
  dumped : ∀ profile, model.item (model.modelDump profile) = some (model.typed profile)
  dumpedFields : ∀ profile, dictGet "name" (oldEntries (model.modelDump profile)) =
      some (.str (model.typed profile).name) ∧
    dictGet "interface" (oldEntries (model.modelDump profile)) =
      some (optionalText (model.typed profile).interface) ∧
    dictGet "routing_offset" (oldEntries (model.modelDump profile)) =
      some ((model.typed profile).routingOffset.elim .null fun offset => .int offset)
  fields : ∀ left right profile other, model.item left = some profile → model.item right = some other →
    SameFields left right → profile.name = other.name ∧ profile.interface = other.interface ∧
      profile.routingOffset = other.routingOffset
  valid : ∀ data config, context.modelValidate data = .ok config → (model.appConfig config).Valid
  items : ∀ data config, context.modelValidate data = .ok config →
    (oldItems (upstreamValue "profiles" data)).map model.item =
      (model.appConfig config).upstream.profiles.map some
  interface : ∀ data config, context.modelValidate data = .ok config →
    upstreamValue "interface" data = .str (model.appConfig config).upstream.interface
  activeProfile : ∀ data config, context.modelValidate data = .ok config →
    upstreamValue "active_profile" data = optionalText (model.appConfig config).upstream.activeProfile
  routing : ∀ data other config after, context.modelValidate data = .ok config →
    context.modelValidate other = .ok after → dictGet "routing" data = dictGet "routing" other →
      (model.appConfig config).routing = (model.appConfig after).routing
  yaml : ∀ text entries, context.yamlLoad text = .ok (.dict entries) → IsMapping entries
  json : ∀ text value, context.jsonLoads text = .value value → DistinctKeys value

section

variable {Config Profile : Type} {model : ConfigModel Config Profile} {context : ConfigContext Config}

/-- The overrides of the environment, and the mapping that the models validate. -/
structure Validated (context : ConfigContext Config) (data : List (String × Json)) (config : Config)
    (overrides resolved : List (String × Json)) : Prop where
  made : envOverrides context.jsonLoads context.environment = .ok overrides
  resolves : resolveEntries context.environment (mergedConfig overrides data) = .ok resolved
  valid : context.modelValidate resolved = .ok config

def PlainDefault (key : String) : Prop :=
  isDict (upstreamDefault key) = false ∧
    ∀ secrets, resolveSecretRefs secrets (upstreamDefault key) = .ok (upstreamDefault key)

namespace Validated

variable {data other overrides resolved otherResolved : List (String × Json)} {config after : Config}

theorem mapping (laws : ModelLaws model context) (validated : Validated context data config overrides resolved) :
    IsMapping overrides := mapping_envOverrides laws.json validated.made

theorem field (laws : ModelLaws model context) (validated : Validated context data config overrides resolved)
    (mapping : IsMapping data) {key : String} (plain : PlainDefault key) :
    resolveSecretRefs context.environment (effectiveValue overrides key (dictGet key (upstreamOf data))) =
      .ok (upstreamValue key resolved) := by
  rw [← upstreamValue_merged (validated.mapping laws) mapping plain.1]
  exact upstreamValue_resolved validated.resolves (plain.2 _)

end Validated

end

end Korserver
