import Korserver.SetNames

/-!
Where the entries of the route lists end up. The host lists of a profile are split by
family; the other lists go into the IPv4 set as they are.
-/

namespace Korserver

open PythonText PythonValue IpAddress PacketFilter

@[simp] theorem mem_addElements {set name : String} {elements added : List String} :
    SetCommand.add name added ∈ addElements set elements ↔
      added ≠ [] ∧ name = set ∧ added = elements := by
  unfold addElements
  split
  · rename_i empty
    rw [List.isEmpty_iff] at empty
    subst empty
    simp only [List.not_mem_nil, false_iff, not_and]
    intro present _
    exact present
  · rename_i present
    rw [List.isEmpty_iff] at present
    simp only [List.mem_singleton, SetCommand.add.injEq]
    constructor
    · rintro ⟨rfl, rfl⟩
      exact ⟨present, rfl, rfl⟩
    · exact fun same => same.2

@[simp] theorem flush_mem_addElements {set name : String} {elements : List String} :
    SetCommand.flush name ∉ addElements set elements := by
  unfold addElements
  split <;> simp

def behindSlash (text : String) : List Char := (text.toList.dropWhile (· != '/')).drop 1

/-- No zone, and a number for the length of a network. -/
def numericNotation (text : String) : Bool :=
  !text.toList.contains '%' && (behindSlash text).all Char.isDigit

/-- Besides, no IPv4 address inside an IPv6 one and no zero before the length. -/
def plainNotation (text : String) : Bool :=
  numericNotation text && !(text.toList.contains ':' && text.toList.contains '.') &&
    (behindSlash text == ['0'] || (behindSlash text).head? != some '0')

/-- `nft` on the elements of typed sets that are addresses or networks: none of the other family, no
netmask and no zone. -/
structure NftElements where
  accepts : Family → String → Bool
  refuses : ∀ type text found, familyOf text = some found → accepts type text = true →
    found = type ∧ numericNotation text = true
  takes : ∀ type text, familyOf text = some type → plainNotation text = true → accepts type text = true

/-- The lists that go into an IPv4 set without being split. -/
inductive UnsplitList (files : Files) (config : AppConfig) : List String → String → Prop
  | default {routes : List String} (listed : listRoutes files config = .ok routes) :
      UnsplitList files config routes "split_v6_static"
  | clients {profile : UpstreamProfileConfig} (enabled : config.upstream.enabled = true)
      (member : profile ∈ config.upstream.profiles) (traffic : HasOwnTraffic files config profile)
      (routed : profile.routeClientsEnabled = true) :
      UnsplitList files config profile.routes ("split_v6_" ++ profileSafeName profile.name ++ "_static")
  | hostSplit {routes : List String} (active : hostSplitActive config = true)
      (listed : listHostRoutes files config = .ok routes) :
      UnsplitList files config routes "host_split_v6_static"

/-- A profile's own and pushed host routes, which are split. -/
inductive SplitList (files : Files) (config : AppConfig) : List String → String → Prop
  | hosts {profile : UpstreamProfileConfig} {lists : HostLists}
      (enabled : config.upstream.enabled = true) (member : profile ∈ config.upstream.profiles)
      (listed : hostLists profile (files.effectivePushed config profile) = .ok lists)
      (active : hostActive profile lists = true) :
      SplitList files config lists.routes ("host_v6_" ++ profileSafeName profile.name ++ "_static")

/-- The lists that are not split hold IPv4 entries only, and `nft` takes every entry in use. -/
structure EntriesTaken (nft : NftElements) (files : Files) (config : AppConfig) : Prop where
  unsplit : ∀ entries name, UnsplitList files config entries name →
    ∀ route ∈ entries, familyOf route = some .v4 ∧ nft.accepts .v4 route = true
  split : ∀ entries name, SplitList files config entries name →
    ∀ route ∈ entries, ∀ family, familyOf route = some family → nft.accepts family route = true

section Sets

variable {files : Files} {config : AppConfig} {kept : List UpstreamProfileConfig}
  {named : List RoutingTarget} {routes hostSplitRoutes : List String}

theorem splitByFamily_v4 {entries : List String} {route : String} :
    route ∈ (splitByFamily entries).1 ↔ route ∈ entries ∧ familyOf route = some .v4 := by
  simp [splitByFamily]

theorem splitByFamily_v6 {entries : List String} {route : String} :
    route ∈ (splitByFamily entries).2 ↔ route ∈ entries ∧ familyOf route = some .v6 := by
  simp [splitByFamily]

/-- A declared set holds an unsplit list as it is, or only entries of its own family from a list that is
split. -/
theorem Kept.set_cases (pairs : Kept files config kept named)
    (namedListed : namedTargets files config = .ok named)
    (routesListed : listRoutes files config = .ok routes)
    (splitListed : hostSplitRoutesOf files config = .ok hostSplitRoutes)
    {interface : String} {domains : List String} {set : SetDeclaration}
    (declared : set ∈ tableSets config (defaultTarget config interface routes domains :: named)
      hostSplitRoutes) :
    (set.type = .v4 ∧ ∃ name, UnsplitList files config set.elements name) ∨
      ∀ route ∈ set.elements, familyOf route = some set.type ∧
        ∃ entries name, SplitList files config entries name ∧ route ∈ entries := by
  rcases List.mem_append.mp declared with perTarget | split
  · obtain ⟨target, member, declared⟩ := List.mem_flatMap.mp perTarget
    rcases List.mem_append.mp declared with client | host
    · simp only [clientSets, List.mem_cons, List.not_mem_nil, or_false] at client
      rcases client with rfl | rfl | rfl | rfl
      · rcases List.mem_cons.mp member with rfl | inNamed
        · exact Or.inl ⟨rfl, _, UnsplitList.default routesListed⟩
        · obtain ⟨profile, inProfiles, from'⟩ := pairs.profileOf inNamed
          have traffic := from'.hasOwnTraffic
          obtain ⟨base, lists, fwmark, -, -, -, -, rfl⟩ := from'
          by_cases routed : profile.routeClientsEnabled = true
          · left
            refine ⟨rfl, "split_v6_" ++ profileSafeName profile.name ++ "_static", ?_⟩
            simp only [namedTarget, routed, if_true]
            exact UnsplitList.clients (namedTargets_enabled namedListed inNamed) inProfiles traffic routed
          · right
            simp [namedTarget, routed]
      · exact Or.inr (by simp)
      · exact Or.inr (by simp)
      · exact Or.inr (by simp)
    · right
      unfold hostSets at host
      split at host
      · rename_i enabled
        rcases List.mem_cons.mp member with rfl | inNamed
        · simp [RoutingTarget.hostEnabled, defaultTarget, truthy] at enabled
        · obtain ⟨profile, inProfiles, base, lists, fwmark, -, listed, -, -, rfl⟩ := pairs.profileOf inNamed
          have isOn := namedTargets_enabled namedListed inNamed
          simp only [List.mem_cons, List.not_mem_nil, or_false] at host
          rcases host with rfl | rfl | rfl | rfl
          · intro route member
            simp only [namedTarget] at member
            split at member
            · rename_i active
              obtain ⟨inList, family⟩ := splitByFamily_v4.mp member
              exact ⟨family, _, _, SplitList.hosts isOn inProfiles listed active, inList⟩
            · simp at member
          · simp
          · intro route member
            simp only [namedTarget] at member
            split at member
            · rename_i active
              obtain ⟨inList, family⟩ := splitByFamily_v6.mp member
              exact ⟨family, _, _, SplitList.hosts isOn inProfiles listed active, inList⟩
            · simp at member
          · simp
      · simp at host
  · unfold hostSplitSets at split
    split at split
    · rename_i active
      rw [hostSplitRoutesOf, if_pos active] at splitListed
      simp only [List.mem_cons, List.not_mem_nil, or_false] at split
      rcases split with rfl | rfl | rfl | rfl
      · exact Or.inl ⟨rfl, _, UnsplitList.hostSplit active splitListed⟩
      · exact Or.inr (by simp)
      · exact Or.inr (by simp)
      · exact Or.inr (by simp)
    · simp at split

end Sets

theorem EntriesTaken.of_plain (nft : NftElements) {files : Files} {config : AppConfig}
    (unsplit : ∀ entries name, UnsplitList files config entries name →
      ∀ route ∈ entries, familyOf route = some .v4 ∧ plainNotation route = true)
    (split : ∀ entries name, SplitList files config entries name →
      ∀ route ∈ entries, (familyOf route).isSome = true → plainNotation route = true) :
    EntriesTaken nft files config where
  unsplit entries name list route member :=
    ⟨(unsplit entries name list route member).1, nft.takes _ _ (unsplit entries name list route member).1
      (unsplit entries name list route member).2⟩
  split entries name list route member family isFamily :=
    nft.takes _ _ isFamily (split entries name list route member (by rw [isFamily]; rfl))

theorem EntriesTaken.numeric {nft : NftElements} {files : Files} {config : AppConfig}
    (taken : EntriesTaken nft files config) {entries : List String} {name : String}
    (list : UnsplitList files config entries name ∨ SplitList files config entries name) {route : String}
    (member : route ∈ entries) {family : Family} (isFamily : familyOf route = some family) :
    numericNotation route = true := by
  rcases list with list | list
  · exact (nft.refuses _ _ _ isFamily (taken.unsplit entries name list route member).2).2
  · exact (nft.refuses _ _ _ isFamily (taken.split entries name list route member family isFamily)).2

example : numericNotation "10.0.0.0/255.0.0.0" = false ∧ numericNotation "fe80::1%a b" = false := by decide

end Korserver
