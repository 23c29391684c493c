import Korserver.ConfigModel

/-!
Models of a configuration and of a profile that leave out what neither selection nor numbering
depends on.
-/

namespace Korserver

open PythonText PythonValue

structure ProfileFields where
  name : String
  enabled : Bool
  interface : Option String
  routingOffset : Option Nat
  deriving DecidableEq

def ProfileFields.typed (fields : ProfileFields) : UpstreamProfileConfig where
  name := fields.name
  server := "vpn.example.net"
  enabled := fields.enabled
  interface := fields.interface
  username := some "korserver"
  routingOffset := fields.routingOffset

abbrev MinimalProfile : Type := { fields : ProfileFields // fields.typed.validate = .ok () }

def readName : Option Json → Option String
  | some (.str name) => some name
  | _ => none

def readEnabled : Option Json → Option Bool
  | none => some true
  | some (.bool enabled) => some enabled
  | _ => none

def readInterface : Option Json → Option (Option String)
  | none => some none
  | some .null => some none
  | some (.str interface) => some (some interface)
  | _ => none

def readOffset : Option Json → Option (Option Nat)
  | none => some none
  | some .null => some none
  | some (.int offset) => if 1 ≤ offset then some (some offset.toNat) else none
  | _ => none

def readFields (item : Json) : Option ProfileFields := do
  let name ← readName (dictGet "name" (oldEntries item))
  let enabled ← readEnabled (dictGet "enabled" (oldEntries item))
  let interface ← readInterface (dictGet "interface" (oldEntries item))
  let routingOffset ← readOffset (dictGet "routing_offset" (oldEntries item))
  return { name, enabled, interface, routingOffset }

def MinimalProfile.ofItem (item : Json) : Option MinimalProfile := do
  let fields ← readFields item
  if valid : fields.typed.validate = .ok () then return ⟨fields, valid⟩ else none

def MinimalProfile.typed (profile : MinimalProfile) : UpstreamProfileConfig := profile.val.typed

def MinimalProfile.dump (profile : MinimalProfile) : Json := .dict [
  ("name", .str profile.val.name), ("enabled", .bool profile.val.enabled),
  ("interface", optionalText profile.val.interface),
  ("routing_offset", profile.val.routingOffset.elim .null fun offset => .int offset)]

/-- What the configuration that the services read is made of. -/
def minimalApp (profiles : List MinimalProfile) (interface : String) (active : Option String) : AppConfig where
  upstream := { interface, activeProfile := active, profiles := profiles.map MinimalProfile.typed }

structure MinimalConfig where
  profiles : List MinimalProfile
  interface : String
  active : Option String
  valid : (minimalApp profiles interface active).Valid

def MinimalConfig.appConfig (config : MinimalConfig) : AppConfig :=
  minimalApp config.profiles config.interface config.active

def readActive : Json → Option (Option String)
  | .null => some none
  | .str name => some (some name)
  | _ => none

def readConfig (data : List (String × Json)) : Option (List MinimalProfile × String × Option String) := do
  let profiles ← (oldItems (upstreamValue "profiles" data)).mapM MinimalProfile.ofItem
  let interface ← readName (some (upstreamValue "interface" data))
  let active ← readActive (upstreamValue "active_profile" data)
  return (profiles, interface, active)

def MinimalConfig.modelValidate (data : List (String × Json)) : Except PyError MinimalConfig :=
  match readConfig data with
  | some (profiles, interface, active) =>
      match valid : (minimalApp profiles interface active).validate fun _ => false with
      | .ok () => .ok ⟨profiles, interface, active, _, valid⟩
      | .error problem => .error (.valueError problem)
  | none => .error (.valueError "Input should be valid")

def MinimalProfile.modelValidate (data : List (String × Json)) : Except PyError MinimalProfile :=
  match MinimalProfile.ofItem (.dict data) with
  | some profile => .ok profile
  | none => .error (.valueError "Input should be valid")

theorem MinimalProfile.ofItem_some {item : Json} {profile : MinimalProfile}
    (found : MinimalProfile.ofItem item = some profile) : readFields item = some profile.val := by
  obtain ⟨fields, read, made⟩ := Option.bind_eq_some_iff.mp found
  split at made
  · rw [read, ← Option.some.inj made]
  · nomatch made

theorem readFields_some {item : Json} {fields : ProfileFields} (read : readFields item = some fields) :
    dictGet "name" (oldEntries item) = some (.str fields.name) ∧
      readInterface (dictGet "interface" (oldEntries item)) = some fields.interface ∧
        readOffset (dictGet "routing_offset" (oldEntries item)) = some fields.routingOffset := by
  obtain ⟨name, readsName, rest⟩ := Option.bind_eq_some_iff.mp read
  obtain ⟨enabled, -, rest⟩ := Option.bind_eq_some_iff.mp rest
  obtain ⟨interface, readsInterface, rest⟩ := Option.bind_eq_some_iff.mp rest
  obtain ⟨offset, readsOffset, same⟩ := Option.bind_eq_some_iff.mp rest
  obtain rfl := Option.some.inj same
  refine ⟨?_, readsInterface, readsOffset⟩
  cases found : dictGet "name" (oldEntries item) with
  | none => rw [found] at readsName; nomatch readsName
  | some value =>
      rw [found] at readsName
      cases value with
      | str text => exact congrArg (fun name => some (Json.str name)) (Option.some.inj readsName)
      | _ => nomatch readsName

theorem MinimalProfile.ofItem_dump (profile : MinimalProfile) :
    MinimalProfile.ofItem profile.dump = some profile := by
  obtain ⟨⟨name, enabled, interface, offset⟩, valid⟩ := profile
  have read : readFields (MinimalProfile.dump ⟨⟨name, enabled, interface, offset⟩, valid⟩) =
      some ⟨name, enabled, interface, offset⟩ := by
    have device : readInterface (some (optionalText interface)) = some interface := by
      cases interface <;> rfl
    have number : readOffset (some (offset.elim .null fun offset => .int offset)) = some offset := by
      cases offset with
      | none => rfl
      | some offset =>
          have positive : 1 ≤ (offset : Int) :=
            Int.ofNat_le.mpr ((UpstreamProfileConfig.validate_ok valid).2.2 offset rfl)
          simp [readOffset, positive]
    simp [readFields, MinimalProfile.dump, oldEntries, dictGet, readName, readEnabled, device, number]
  simp [MinimalProfile.ofItem, read, valid]

def minimalModel : ConfigModel MinimalConfig MinimalProfile where
  profiles := MinimalConfig.profiles
  activeProfile := MinimalConfig.active
  name profile := profile.val.name
  field profile key := valueAt key profile.dump
  modelValidate := MinimalProfile.modelValidate
  modelDump := MinimalProfile.dump
  keepsName data profile valid := by
    rw [MinimalProfile.modelValidate] at valid
    split at valid
    · rename_i made
      obtain rfl := Except.ok.inj valid
      exact (readFields_some (MinimalProfile.ofItem_some made)).1
    · nomatch valid
  appConfig := MinimalConfig.appConfig
  typed := MinimalProfile.typed
  item item := (MinimalProfile.ofItem item).map MinimalProfile.typed

theorem MinimalConfig.modelValidate_ok {data : List (String × Json)} {config : MinimalConfig}
    (valid : MinimalConfig.modelValidate data = .ok config) :
    (oldItems (upstreamValue "profiles" data)).mapM MinimalProfile.ofItem = some config.profiles ∧
      upstreamValue "interface" data = .str config.interface ∧
        upstreamValue "active_profile" data = optionalText config.active := by
  rw [MinimalConfig.modelValidate] at valid
  split at valid
  · rename_i profiles interface active read
    split at valid
    · obtain rfl := Except.ok.inj valid
      obtain ⟨_, listed, rest⟩ := Option.bind_eq_some_iff.mp read
      obtain ⟨_, named, rest⟩ := Option.bind_eq_some_iff.mp rest
      obtain ⟨_, activated, same⟩ := Option.bind_eq_some_iff.mp rest
      obtain ⟨rfl, rfl, rfl⟩ : _ ∧ _ ∧ _ := by simpa using same
      refine ⟨listed, ?_, ?_⟩
      · revert named
        cases upstreamValue "interface" data <;> simp [readName]
      · revert activated
        cases upstreamValue "active_profile" data <;> simp [readActive, optionalText] <;> grind
    · nomatch valid
  · nomatch valid

theorem mapM_ofItem {items : List Json} {profiles : List MinimalProfile}
    (made : items.mapM MinimalProfile.ofItem = some profiles) :
    items.map MinimalProfile.ofItem = profiles.map some := by
  induction items generalizing profiles with
  | nil => cases profiles <;> simp_all
  | cons item rest ih =>
      rw [List.mapM_cons] at made
      obtain ⟨first, read, made⟩ := Option.bind_eq_some_iff.mp made
      obtain ⟨others, later, same⟩ := Option.bind_eq_some_iff.mp made
      obtain rfl := Option.some.inj same
      rw [List.map_cons, List.map_cons, read, ih later]

theorem minimalModel_laws {context : ConfigContext MinimalConfig}
    (validates : context.modelValidate = MinimalConfig.modelValidate)
    (yaml : ∀ text entries, context.yamlLoad text = .ok (.dict entries) → IsMapping entries)
    (json : ∀ text value, context.jsonLoads text = .value value → DistinctKeys value) :
    ModelLaws minimalModel context where
  listed _ := rfl
  named _ := rfl
  active _ := rfl
  validProfile profile := profile.property
  dumped profile := by
    change (MinimalProfile.ofItem profile.dump).map _ = _
    rw [MinimalProfile.ofItem_dump]
    rfl
  dumpedFields _ := ⟨rfl, rfl, rfl⟩
  fields left right profile other leftRead rightRead same := by
    obtain ⟨first, made, rfl⟩ := Option.map_eq_some_iff.mp leftRead
    obtain ⟨second, otherMade, rfl⟩ := Option.map_eq_some_iff.mp rightRead
    obtain ⟨name, interface, offset⟩ := readFields_some (MinimalProfile.ofItem_some made)
    obtain ⟨name', interface', offset'⟩ := readFields_some (MinimalProfile.ofItem_some otherMade)
    rw [same "name" (by decide), name'] at name
    rw [same "interface" (by decide), interface'] at interface
    rw [same "routing_offset" (by decide), offset'] at offset
    exact ⟨(Json.str.inj (Option.some.inj name)).symm, (Option.some.inj interface).symm,
      (Option.some.inj offset).symm⟩
  valid _ config _ := config.valid
  items data config valid := by
    rw [validates] at valid
    have made := congrArg (List.map (Option.map MinimalProfile.typed))
      (mapM_ofItem (MinimalConfig.modelValidate_ok valid).1)
    simpa [minimalModel, MinimalConfig.appConfig, minimalApp, Function.comp_def] using made
  interface data config valid := (MinimalConfig.modelValidate_ok (validates ▸ valid)).2.1
  activeProfile data config valid := (MinimalConfig.modelValidate_ok (validates ▸ valid)).2.2
  routing _ _ _ _ _ _ _ := rfl
  yaml := yaml
  json := json

structure Rewrite where
  text : String
  source : List (String × Json)
  newText : String
  newSource : List (String × Json)

def Rewrite.context (rewrite : Rewrite) : ConfigContext MinimalConfig where
  path := "/etc/korserver/config.yaml"
  yamlLoad text := .ok (.dict (if text = rewrite.text then rewrite.source else rewrite.newSource))
  yamlDump _ := rewrite.newText
  jsonLoads _ := .undecodable
  environment := []
  modelValidate := MinimalConfig.modelValidate
  writeRendered _ := .ok []

def Rewrite.Writes (rewrite : Rewrite) (changes : List (String × Json)) : Prop :=
  deepMerge rewrite.source changes = rewrite.newSource ∧ rewrite.newText ≠ rewrite.text

namespace Rewrite

variable (rewrite : Rewrite) {changes : List (String × Json)}

theorem laws (mapping : IsMapping rewrite.source) (newMapping : IsMapping rewrite.newSource) :
    ModelLaws minimalModel rewrite.context := by
  refine minimalModel_laws rfl (fun text entries read => ?_) nofun
  obtain rfl := Json.dict.inj (Except.ok.inj read)
  split
  · exact mapping
  · exact newMapping

theorem loads : rewrite.context.loadExistingMapping (.text rewrite.text) = .ok rewrite.source := by
  change Except.ok (if rewrite.text = rewrite.text then rewrite.source else _) = _
  rw [if_pos rfl]

theorem inUse {config : MinimalConfig} (valid : rewrite.context.validateYamlConfig rewrite.source = .ok config) :
    rewrite.context.loadConfig (.text rewrite.text) = .ok config :=
  bind_ok.mpr ⟨rewrite.source, rewrite.loads, valid⟩

variable {rewrite}

theorem Writes.reads (writes : rewrite.Writes changes) :
    rewrite.context.yamlLoad (rewrite.context.yamlDump (deepMerge rewrite.source changes)) =
      .ok (.dict (deepMerge rewrite.source changes)) := by
  rw [writes.1]
  exact congrArg (fun entries => Except.ok (Json.dict entries)) (if_neg writes.2)

theorem Writes.readsBack (writes : rewrite.Writes changes) :
    (SettingsRequest.patch changes true).ReadsBack rewrite.context (.text rewrite.text) := by
  intro data merged
  obtain ⟨stored, loaded, same⟩ := bind_ok.mp merged
  obtain rfl := Except.ok.inj (rewrite.loads.symm.trans loaded)
  obtain rfl := pure_ok.mp same
  exact writes.reads

end Rewrite

end Korserver
