import Korserver.Nftables
import Korserver.HexText

/-!
Marks and tables of the targets: base plus offset, with the mark written in hexadecimal to
the width of the configured text and read back by every consumer.
-/

namespace Korserver

open PythonText PythonValue

def PushedRouting.WellFormed (pushed : PushedRouting) : Prop :=
  ∃ routes domains dns, pushed.routes = texts routes ∧ pushed.domains = texts domains ∧
    pushed.dns = texts dns

/-- The list files can be read, and the stored pushed lists are lists of texts. -/
structure InputsReadable (files : Files) (config : AppConfig) : Prop where
  routes : ∃ routes, listRoutes files config = .ok routes
  domains : ∃ domains, defaultDomains files config = .ok domains
  pushed : ∀ profile ∈ config.upstream.profiles, (files.loadPushed config profile).WellFormed

theorem PushedRouting.WellFormed.hostLists {pushed : PushedRouting} (formed : pushed.WellFormed)
    (profile : UpstreamProfileConfig) : ∃ lists, hostLists profile pushed = .ok lists := by
  obtain ⟨routes, domains, dns, routesEq, domainsEq, dnsEq⟩ := formed
  have dnsRoutes : ∃ servers, pushedDnsRoutes pushed = .ok servers := by
    unfold pushedDnsRoutes
    split
    · rw [PushedRouting.dnsHostRoutes, dnsEq]
      exact ⟨_, rfl⟩
    · exact ⟨[], rfl⟩
  obtain ⟨servers, listed⟩ := dnsRoutes
  refine ⟨{ routes := mergeUnique [profile.hostRoutes, routes, servers]
            domains := mergeUnique [profile.hostDomains, domains] }, ?_⟩
  simp only [Korserver.hostLists, bind_ok, pure_ok]
  refine ⟨servers, listed, routes.map .str, by rw [routesEq]; rfl, routes, textsOf_map_str routes,
    domains.map .str, by rw [domainsEq]; rfl, domains, textsOf_map_str domains, rfl⟩

theorem InputsReadable.hostLists {files : Files} {config : AppConfig}
    (readable : InputsReadable files config) {profile : UpstreamProfileConfig}
    (member : profile ∈ config.upstream.profiles) :
    ∃ lists, Korserver.hostLists profile (files.effectivePushed config profile) = .ok lists := by
  unfold Files.effectivePushed
  split
  · exact (readable.pushed profile member).hostLists profile
  · have formed : PushedRouting.WellFormed {} := ⟨[], [], [], rfl, rfl, rfl⟩
    exact formed.hostLists profile

structure SoundNumbers (config : AppConfig) (targets : List RoutingTarget) : Prop where
  marks : (targets.map fun target => intLiteral target.fwmark).Nodup
  marksInRange : ∀ target ∈ targets, ∃ mark, intLiteral target.fwmark = some mark ∧
    mark ≠ 0 ∧ mark < 2 ^ 32
  defaultMark : ∀ target ∈ targets.head?, intLiteral target.fwmark = intLiteral config.routing.fwmark
  namedMarks : ∀ target ∈ targets.tail, ∃ base, intLiteral config.routing.fwmark = some base ∧
    ∃ profile ∈ config.upstream.profiles, profile.name = target.name ∧
      intLiteral target.fwmark = some (base + config.upstream.profileRoutingOffset profile)
  tables : (targets.map (·.tableId)).Nodup
  tablesInRange : ∀ target ∈ targets, 0 < target.tableId ∧ target.tableId < 2 ^ 32 ∧
    target.tableId ∉ reservedRoutingTableIds

/-- Room for the offset of a profile: in the text of the mark and in 32 bits. -/
structure RoomFor (config : AppConfig) (base : Int) (profile : UpstreamProfileConfig) : Prop where
  width : 2 ≤ config.routing.fwmark.toList.length
  positive : 0 < base + config.upstream.profileRoutingOffset profile
  mark : base + config.upstream.profileRoutingOffset profile < 2 ^ 32
  table : config.routing.tableId + config.upstream.profileRoutingOffset profile < 2 ^ 32

theorem offsetFwmark_ok {text fwmark : String} {base : Int} {offset : Nat}
    (formatted : offsetFwmark text base offset = .ok fwmark) :
    2 ≤ text.toList.length ∧
      intLiteral fwmark = if base + offset < 0 then none else some (base + offset) := by
  unfold offsetFwmark at formatted
  split at formatted
  · simp at formatted
  · rename_i wide
    obtain rfl := Except.ok.inj formatted
    exact ⟨by omega, intLiteral_formatHex _ _⟩

/-! The loop over the profiles raises nothing when every mark it formats is wide enough. -/

theorem profileTarget_total {files : Files} {config : AppConfig} {base : Int}
    {profile : UpstreamProfileConfig}
    (listed : ∃ lists, hostLists profile (files.effectivePushed config profile) = .ok lists)
    (wide : HasOwnTraffic files config profile → 2 ≤ config.routing.fwmark.toList.length) :
    ∃ result, profileTarget files config base profile = .ok result := by
  obtain ⟨lists, listed⟩ := listed
  by_cases idle : (!clientActive profile && !hostActive profile lists) = true
  · refine ⟨none, ?_⟩
    simp only [profileTarget, bind_ok]
    exact ⟨lists, listed, by rw [if_pos idle]; rfl⟩
  · have traffic : HasOwnTraffic files config profile := by
      refine ⟨lists, listed, ?_⟩
      cases client : clientActive profile
      · right
        simpa [client] using idle
      · exact Or.inl rfl
    have width := wide traffic
    refine ⟨some (namedTarget config profile lists (files.effectivePushed config profile)
      ("0x" ++ String.ofList (formatHex (config.routing.fwmark.toList.length - 2)
        (base + config.upstream.profileRoutingOffset profile)))), ?_⟩
    simp only [profileTarget, bind_ok]
    refine ⟨lists, listed, ?_⟩
    rw [if_neg idle]
    simp only [bind_ok]
    refine ⟨_, ?_, rfl⟩
    rw [offsetFwmark, if_neg (by omega)]

theorem profileTargets_total {files : Files} {config : AppConfig} {base : Int}
    {profiles : List UpstreamProfileConfig}
    (listed : ∀ profile ∈ profiles, ∃ lists,
      hostLists profile (files.effectivePushed config profile) = .ok lists)
    (wide : ∀ profile ∈ profiles, HasOwnTraffic files config profile →
      2 ≤ config.routing.fwmark.toList.length) :
    ∃ targets, profileTargets files config base profiles = .ok targets := by
  induction profiles with
  | nil => exact ⟨[], rfl⟩
  | cons profile rest ih =>
      obtain ⟨result, first⟩ := @profileTarget_total files config base profile
        (listed profile (by simp)) (wide profile (by simp))
      obtain ⟨targets, others⟩ := ih (fun other member => listed other (by simp [member]))
        (fun other member => wide other (by simp [member]))
      refine ⟨result.toList ++ targets, ?_⟩
      simp only [profileTargets, bind_ok]
      exact ⟨result, first, targets, others, rfl⟩

section Sound

variable {files : Files} {config : AppConfig} {kept : List UpstreamProfileConfig}
  {named : List RoutingTarget} {base : Int}

theorem NamedFrom.mark {profile : UpstreamProfileConfig} {target : RoutingTarget}
    (from' : NamedFrom files config profile target)
    (readable : intLiteral config.routing.fwmark = some base) :
    2 ≤ config.routing.fwmark.toList.length ∧
      intLiteral target.fwmark =
        if base + config.upstream.profileRoutingOffset profile < 0 then none
        else some (base + config.upstream.profileRoutingOffset profile) := by
  obtain ⟨base', lists, fwmark, readable', -, -, formatted, rfl⟩ := from'
  obtain rfl : base = base' := by simpa [readable] using readable'
  exact offsetFwmark_ok formatted

theorem NamedFrom.roomFor {profile : UpstreamProfileConfig} {target : RoutingTarget} {mark : Int}
    (from' : NamedFrom files config profile target)
    (readable : intLiteral config.routing.fwmark = some base)
    (written : intLiteral target.fwmark = some mark) (nonzero : mark ≠ 0) (bounded : mark < 2 ^ 32)
    (table : target.tableId < 2 ^ 32) : RoomFor config base profile := by
  obtain ⟨width, literal⟩ := from'.mark readable
  rw [written] at literal
  split at literal
  · simp at literal
  · have value := Option.some.inj literal
    rw [from'.tableId] at table
    exact ⟨width, by omega, by omega, table⟩

theorem RoomFor.mark_eq {profile : UpstreamProfileConfig} {target : RoutingTarget}
    (room : RoomFor config base profile) (from' : NamedFrom files config profile target)
    (readable : intLiteral config.routing.fwmark = some base) :
    intLiteral target.fwmark = some (base + config.upstream.profileRoutingOffset profile) := by
  have positive := room.positive
  rw [(from'.mark readable).2, if_neg (by omega)]

theorem Kept.marks_nodup (pairs : Kept files config kept named) (facts : config.Facts)
    (readable : intLiteral config.routing.fwmark = some base)
    (rooms : ∀ profile ∈ kept, RoomFor config base profile) :
    (intLiteral config.routing.fwmark :: named.map fun target => intLiteral target.fwmark).Nodup := by
  have marks : named.map (fun target => intLiteral target.fwmark) =
      kept.map fun profile => some (base + config.upstream.profileRoutingOffset profile) :=
    pairs.map_eq _ _ fun profile member target from' =>
      (rooms profile member).mark_eq from' readable
  rw [List.nodup_cons, marks, readable]
  constructor
  · intro member
    obtain ⟨profile, inKept, same⟩ := List.mem_map.mp member
    have positive := facts.offset_pos (pairs.sublist.subset inKept)
    have value := Option.some.inj same
    omega
  · have injective : Function.Injective fun offset : Nat => some (base + (offset : Int)) := by
      intro first second same
      have value := Option.some.inj same
      omega
    have distinct := (pairs.sublist.map config.upstream.profileRoutingOffset).nodup facts.offsets
    have shifted := (List.nodup_map_iff injective).mpr distinct
    rw [List.map_map] at shifted
    exact shifted

end Sound

/-- `list_targets` returns sound numbers exactly if the base mark and table fit 32 bits and
every profile with traffic of its own has room for its offset. -/
theorem soundNumbers_iff {files : Files} {config : AppConfig} (valid : config.Valid)
    (enabled : config.upstream.enabled = true) (readable : InputsReadable files config)
    (interface : String) :
    (∃ targets, listTargets files config interface = .ok targets ∧ SoundNumbers config targets) ↔
      ∃ base, intLiteral config.routing.fwmark = some base ∧ base < 2 ^ 32 ∧
        config.routing.tableId < 2 ^ 32 ∧
        ∀ profile ∈ config.upstream.profiles, HasOwnTraffic files config profile →
          RoomFor config base profile := by
  have facts := valid.facts
  obtain ⟨base, literal, nonzero⟩ := facts.fwmark
  constructor
  · rintro ⟨targets, listed, sound⟩
    obtain ⟨routes, domains, named, -, namedListed, rfl⟩ := listTargets_ok listed
    obtain ⟨kept, pairs⟩ := namedTargets_kept namedListed
    obtain ⟨mark, written, -, bounded⟩ := sound.marksInRange _ (List.mem_cons_self ..)
    obtain rfl : base = mark :=
      Option.some.inj (literal.symm.trans ((sound.defaultMark _ rfl).symm.trans written))
    refine ⟨base, literal, bounded, (sound.tablesInRange _ (List.mem_cons_self ..)).2.1, ?_⟩
    intro profile inProfiles traffic
    obtain ⟨target, member, from'⟩ := pairs.targetOf (pairs.complete enabled profile inProfiles traffic)
    obtain ⟨mark', written', nonzero', bounded'⟩ :=
      sound.marksInRange target (List.mem_cons_of_mem _ member)
    have table := (sound.tablesInRange target (List.mem_cons_of_mem _ member)).2.1
    exact from'.roomFor literal written' nonzero' bounded' table
  · rintro ⟨base', literal', bounded, table, rooms⟩
    obtain rfl : base = base' := by simpa [literal] using literal'
    obtain ⟨routes, routesListed⟩ := readable.routes
    obtain ⟨domains, domainsListed⟩ := readable.domains
    obtain ⟨named, targetsListed⟩ := @profileTargets_total files config base
      config.upstream.profiles (fun profile member => readable.hostLists member)
      (fun profile member traffic => (rooms profile member traffic).width)
    have namedListed : namedTargets files config = .ok named := by
      rw [namedTargets, if_pos enabled, intOrValueError, literal]
      exact targetsListed
    obtain ⟨kept, pairs⟩ := namedTargets_kept namedListed
    have keptRooms : ∀ profile ∈ kept, RoomFor config base profile := by
      intro profile member
      obtain ⟨target, -, from'⟩ := pairs.targetOf member
      exact rooms profile (pairs.sublist.subset member) from'.hasOwnTraffic
    have profiled : ∀ target ∈ named, ∃ profile ∈ config.upstream.profiles,
        NamedFrom files config profile target ∧ RoomFor config base profile := by
      intro target member
      obtain ⟨profile, inProfiles, from'⟩ := pairs.profileOf member
      exact ⟨profile, inProfiles, from', rooms profile inProfiles from'.hasOwnTraffic⟩
    refine ⟨defaultTarget config interface routes domains :: named, ?_, ?_⟩
    · simp only [listTargets, bind_ok, pure_ok]
      exact ⟨routes, routesListed, domains, domainsListed, named, namedListed, rfl⟩
    · refine {
        marks := pairs.marks_nodup facts literal keptRooms
        marksInRange := ?_
        defaultMark := ?_
        namedMarks := ?_
        tables := pairs.tableIds_nodup facts
        tablesInRange := ?_ }
      · intro target member
        rcases List.mem_cons.mp member with rfl | inNamed
        · exact ⟨base, literal, nonzero, bounded⟩
        · obtain ⟨profile, -, from', room⟩ := profiled target inNamed
          have positive := room.positive
          exact ⟨_, room.mark_eq from' literal, by omega, room.mark⟩
      · intro target first
        obtain rfl := Option.some.inj first
        rfl
      · intro target inNamed
        obtain ⟨profile, inProfiles, from', room⟩ := profiled target inNamed
        exact ⟨base, literal, profile, inProfiles, from'.name.symm, room.mark_eq from' literal⟩
      · intro target member
        rcases List.mem_cons.mp member with rfl | inNamed
        · exact ⟨facts.tableId, table, facts.tableIdFree⟩
        · obtain ⟨profile, inProfiles, from', room⟩ := profiled target inNamed
          rw [from'.tableId]
          have free := facts.derivedTableIds enabled profile inProfiles
          have positive := facts.tableId
          exact ⟨by omega, room.table, free⟩

theorem soundNumbers_iff_sample :
    (∃ targets, listTargets {} sampleConfig "oc-middle0" = .ok targets ∧
        SoundNumbers sampleConfig targets) ↔
      ∃ base, intLiteral sampleConfig.routing.fwmark = some base ∧ base < 2 ^ 32 ∧
        sampleConfig.routing.tableId < 2 ^ 32 ∧
        ∀ profile ∈ sampleConfig.upstream.profiles, HasOwnTraffic {} sampleConfig profile →
          RoomFor sampleConfig base profile :=
  soundNumbers_iff sampleConfig_valid rfl
    ⟨⟨[], rfl⟩, ⟨[], rfl⟩, fun _ _ => ⟨[], [], [], rfl, rfl, rfl⟩⟩ "oc-middle0"

def shortFwmarkConfig : AppConfig := { sampleConfig with routing := { fwmark := "7" } }

theorem shortFwmark_raises :
    shortFwmarkConfig.Valid ∧ shortFwmarkConfig.upstream.enabled = true ∧
      InputsReadable {} shortFwmarkConfig ∧
      listTargets {} shortFwmarkConfig "oc-middle0" =
        .error (.valueError "Invalid format specifier") ∧
      ¬∃ targets, listTargets {} shortFwmarkConfig "oc-middle0" = .ok targets ∧
        SoundNumbers shortFwmarkConfig targets := by
  have raises : listTargets {} shortFwmarkConfig "oc-middle0" =
      .error (.valueError "Invalid format specifier") := rfl
  refine ⟨⟨fun _ => false, by decide⟩, rfl,
    ⟨⟨[], rfl⟩, ⟨[], rfl⟩, fun _ _ => ⟨[], [], [], rfl, rfl, rfl⟩⟩, raises, ?_⟩
  rintro ⟨targets, listed, -⟩
  rw [raises] at listed
  simp at listed

end Korserver
