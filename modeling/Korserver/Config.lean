import Korserver.ConfigCore
import Mathlib.Data.List.Nodup

/-! What validation guarantees, one fact at a time, and the derived profile functions. -/

namespace Korserver

open PythonText IpAddress

theorem check_ok {condition : Prop} [Decidable condition] {message : String} :
    check condition message = .ok () ↔ condition := by
  unfold check
  split <;> simp_all

theorem andThen_ok {first second : Except String Unit} :
    (first >>= fun _ => second) = .ok () ↔ first = .ok () ∧ second = .ok () := by
  cases first with
  | error message => simp [bind, Except.bind]
  | ok _ => simp [bind, Except.bind]

theorem checkAll_ok {α : Type} {validate : α → Except String Unit} {items : List α} :
    checkAll validate items = .ok () ↔ ∀ item ∈ items, validate item = .ok () := by
  induction items with
  | nil => simp [checkAll]
  | cons item rest ih => simp [checkAll, andThen_ok, ih]

theorem UpstreamProfileConfig.validate_ok {profile : UpstreamProfileConfig}
    (valid : profile.validate = .ok ()) :
    matchesIdentifier isAlnum isNameChar 63 profile.name = true ∧
      (∀ route ∈ profile.routes, (ipNetwork route).isSome = true) ∧
      ∀ offset ∈ profile.routingOffset, 1 ≤ offset := by
  simp only [UpstreamProfileConfig.validate, UpstreamProfileConfig.validateName, validateCidr,
    andThen_ok, checkAll_ok, check_ok] at valid
  exact ⟨valid.1, valid.2.1, valid.2.2.2.2.2.2.2.1⟩

theorem UpstreamConfig.selectedProfile_some {upstream : UpstreamConfig}
    {profile : UpstreamProfileConfig} (selected : upstream.selectedProfile = some profile) :
    profile ∈ upstream.profiles ∧ profile.enabled = true := by
  unfold UpstreamConfig.selectedProfile at selected
  split at selected
  · rename_i configured found
    split at selected
    · rename_i enabled
      obtain rfl := Option.some.inj selected
      obtain ⟨name, -, search⟩ := Option.bind_eq_some_iff.mp found
      exact ⟨List.mem_of_find?_eq_some search, enabled⟩
    · simp at selected
  · exact ⟨List.mem_of_find?_eq_some selected, by simpa using List.find?_some selected⟩

theorem UpstreamConfig.profileRoutingOffset_pos {upstream : UpstreamConfig}
    {profile : UpstreamProfileConfig} (positive : ∀ offset ∈ profile.routingOffset, 1 ≤ offset) :
    1 ≤ upstream.profileRoutingOffset profile := by
  unfold UpstreamConfig.profileRoutingOffset
  cases explicit : profile.routingOffset with
  | some offset => exact positive offset explicit
  | none => cases upstream.profileIndex profile <;> simp

/-- The facts about names, devices and numbers that validation establishes. -/
structure AppConfig.Facts (config : AppConfig) : Prop where
  profiles : ∀ profile ∈ config.upstream.profiles, profile.validate = .ok ()
  names : (config.upstream.profiles.map (·.name)).Nodup
  interfaces : (config.upstream.profiles.map config.upstream.profileInterface).Nodup
  safeNames : (config.upstream.profiles.map fun profile => profileSafeName profile.name).Nodup
  offsets : (config.upstream.profiles.map config.upstream.profileRoutingOffset).Nodup
  network : (ipNetwork config.server.ipv4Network).isSome = true
  fwmarkReadable : (intLiteral config.routing.fwmark).isSome = true
  fwmarkNonzero : intLiteral config.routing.fwmark ≠ some 0
  tableId : 1 ≤ config.routing.tableId
  tableIdFree : config.routing.tableId ∉ reservedRoutingTableIds
  derivedTableIds : config.upstream.enabled = true → ∀ profile ∈ config.upstream.profiles,
    config.routing.tableId + config.upstream.profileRoutingOffset profile ∉
      reservedRoutingTableIds

theorem AppConfig.validateRoutingCompatibility_ok {pathExists : String → Bool} {config : AppConfig}
    (valid : config.validateRoutingCompatibility pathExists = .ok ())
    (enabled : config.upstream.enabled = true) :
    ∀ profile ∈ config.upstream.profiles,
      config.routing.tableId + config.upstream.profileRoutingOffset profile ∉
        reservedRoutingTableIds := by
  simp only [AppConfig.validateRoutingCompatibility, enabled, if_true, andThen_ok, checkAll_ok,
    validateRoutingTableId, check_ok] at valid
  exact valid.2.2.1

theorem AppConfig.Valid.facts {config : AppConfig} (valid : config.Valid) : config.Facts := by
  obtain ⟨pathExists, valid⟩ := valid
  simp only [AppConfig.validate, andThen_ok] at valid
  obtain ⟨network, -, -, upstream, routing, compatibility⟩ := valid
  simp only [UpstreamConfig.validate, UpstreamConfig.validateProfiles, andThen_ok, checkAll_ok,
    check_ok] at upstream
  obtain ⟨profiles, -, -, -, names, -, -, interfaces, safeNames, offsets⟩ := upstream
  simp only [RoutingConfig.validate, RoutingConfig.validateFwmark, RoutingConfig.validateTableId,
    validateRoutingTableId, andThen_ok, check_ok] at routing
  obtain ⟨⟨readable, nonzero⟩, ⟨tableId, tableIdFree⟩, -⟩ := routing
  exact {
    profiles, names, interfaces, safeNames, offsets
    network := check_ok.mp network
    fwmarkReadable := readable
    fwmarkNonzero := nonzero
    tableId, tableIdFree
    derivedTableIds := AppConfig.validateRoutingCompatibility_ok compatibility }

theorem AppConfig.Facts.profile_unique {config : AppConfig} (facts : config.Facts)
    {profile other : UpstreamProfileConfig} (member : profile ∈ config.upstream.profiles)
    (otherMember : other ∈ config.upstream.profiles)
    (same : config.upstream.profileInterface profile = config.upstream.profileInterface other) :
    profile = other :=
  List.inj_on_of_nodup_map facts.interfaces member otherMember same

theorem AppConfig.Facts.profile_unique_name {config : AppConfig} (facts : config.Facts)
    {profile other : UpstreamProfileConfig} (member : profile ∈ config.upstream.profiles)
    (otherMember : other ∈ config.upstream.profiles) (same : profile.name = other.name) :
    profile = other :=
  List.inj_on_of_nodup_map facts.names member otherMember same

theorem AppConfig.Facts.fwmark {config : AppConfig} (facts : config.Facts) :
    ∃ base, intLiteral config.routing.fwmark = some base ∧ base ≠ 0 := by
  obtain ⟨base, readable⟩ := Option.isSome_iff_exists.mp facts.fwmarkReadable
  refine ⟨base, readable, ?_⟩
  rintro rfl
  exact facts.fwmarkNonzero readable

theorem AppConfig.Facts.offset_pos {config : AppConfig} (facts : config.Facts)
    {profile : UpstreamProfileConfig} (member : profile ∈ config.upstream.profiles) :
    1 ≤ config.upstream.profileRoutingOffset profile :=
  UpstreamConfig.profileRoutingOffset_pos
    (UpstreamProfileConfig.validate_ok (facts.profiles profile member)).2.2

end Korserver
