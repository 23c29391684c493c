import Korserver.Dnsmasq
import Korserver.LoadedSets
import Korserver.PushedRulesCore
import Korserver.UniqueLines

/-!
What the rules take from a pushed list, and that the fingerprint's input tells it.
-/

namespace Korserver

open PythonText PythonValue IpAddress

def PushedRouting.hostRoutes (pushed : PushedRouting) : Except PyError (List String) := do
  let dnsRoutes ← pushedDnsRoutes pushed
  let routes ← pushed.routes.items
  let routes ← textsOf routes
  return mergeUnique [routes, dnsRoutes]

def PushedRouting.hostDomains (pushed : PushedRouting) : Except PyError (List String) := do
  let domains ← pushed.domains.items
  let domains ← textsOf domains
  return mergeUnique [domains]

def PushedRouting.Resolves (repr : Json → String) (pushed : PushedRouting) (domain address : String) :
    Prop :=
  ∃ domains servers, pushed.domains.items = .ok domains ∧ pushed.dns.items = .ok servers ∧
    domain ∈ domains.map (Json.pyStr repr) ∧ address ∈ servers.map (Json.pyStr repr)

def listed (items : Except PyError (List String)) (entry : String) : Prop :=
  ∃ entries, items = .ok entries ∧ entry ∈ entries

theorem hostLists_ok {profile : UpstreamProfileConfig} {pushed : PushedRouting} {lists : HostLists}
    (found : hostLists profile pushed = .ok lists) :
    (∀ route, route ∈ lists.routes ↔
        route ∈ mergeUnique [profile.hostRoutes] ∨ listed pushed.hostRoutes route) ∧
      ∀ domain, domain ∈ lists.domains ↔
        domain ∈ mergeUnique [profile.hostDomains] ∨ listed pushed.hostDomains domain := by
  obtain ⟨dnsRoutes, dnsListed, items, itemsListed, routes, routesListed, domainItems, domainItemsListed,
    domains, domainsListed, rfl⟩ := by simpa only [hostLists, bind_ok, pure_ok] using found
  have hostRoutes : pushed.hostRoutes = .ok (mergeUnique [routes, dnsRoutes]) := by
    simp only [PushedRouting.hostRoutes, bind_ok, pure_ok]
    exact ⟨dnsRoutes, dnsListed, items, itemsListed, routes, routesListed, rfl⟩
  have hostDomains : pushed.hostDomains = .ok (mergeUnique [domains]) := by
    simp only [PushedRouting.hostDomains, bind_ok, pure_ok]
    exact ⟨domainItems, domainItemsListed, domains, domainsListed, rfl⟩
  constructor
  · intro route
    simp only [listed, hostRoutes, Except.ok.injEq, exists_eq_left', mem_mergeUnique]
    grind
  · intro domain
    simp only [listed, hostDomains, Except.ok.injEq, exists_eq_left', mem_mergeUnique]
    grind

theorem items_falsy {value : Json} (falsy : value.truthy = false) :
    value.items = .ok [] ∨ value.items = .error .typeError := by
  cases value <;> simp_all [Json.truthy, Json.items]

theorem hostRoutes_empty {pushed : PushedRouting} (empty : pushed.isEmpty = true) (route : String) :
    ¬listed pushed.hostRoutes route := by
  simp only [PushedRouting.isEmpty, Bool.not_eq_true', Bool.or_eq_false_iff] at empty
  rintro ⟨entries, found, member⟩
  simp only [PushedRouting.hostRoutes, pushedDnsRoutes, empty.2, bind_ok, pure_ok] at found
  obtain ⟨dnsRoutes, dnsListed, items, itemsListed, routes, routesListed, rfl⟩ := found
  obtain rfl := Except.ok.inj dnsListed
  rcases items_falsy empty.1 with none | failed
  · obtain rfl := Except.ok.inj (none.symm.trans itemsListed)
    obtain rfl := Except.ok.inj routesListed
    simp [mem_mergeUnique] at member
  · simp [failed] at itemsListed

theorem hostDomains_empty {pushed : PushedRouting} (empty : pushed.isEmpty = true) (domain : String) :
    ¬listed pushed.hostDomains domain := by
  simp only [PushedRouting.isEmpty, Bool.not_eq_true', Bool.or_eq_false_iff] at empty
  rintro ⟨entries, found, member⟩
  simp only [PushedRouting.hostDomains, bind_ok, pure_ok] at found
  obtain ⟨items, itemsListed, domains, domainsListed, rfl⟩ := found
  rcases items_falsy empty.2 with none | failed
  · obtain rfl := Except.ok.inj (none.symm.trans itemsListed)
    obtain rfl := Except.ok.inj domainsListed
    simp [mem_mergeUnique] at member
  · simp [failed] at itemsListed

theorem resolves_empty {repr : Json → String} {pushed : PushedRouting} (empty : pushed.isEmpty = true)
    (domain address : String) : ¬pushed.Resolves repr domain address := by
  simp only [PushedRouting.isEmpty, Bool.not_eq_true', Bool.or_eq_false_iff] at empty
  rintro ⟨domains, servers, domainsListed, -, member, -⟩
  rcases items_falsy empty.2 with none | failed
  · obtain rfl := Except.ok.inj (none.symm.trans domainsListed)
    simp at member
  · simp [failed] at domainsListed

def listsOf (parts : List PushedPart) (profile : UpstreamProfileConfig) : PushedRouting :=
  match parts.find? (·.profile = profile.name) with
  | some part => { routes := part.routes, domains := part.domains, dns := part.dns }
  | none => {}

theorem fingerprintPart_profile {files : Files} {config : AppConfig} {profile : UpstreamProfileConfig}
    {part : PushedPart} (isPart : fingerprintPart files config profile = some part) :
    part.profile = profile.name := by
  simp only [fingerprintPart] at isPart
  split at isPart
  · simp at isPart
  · obtain rfl := Option.some.inj isPart
    rfl

theorem find_fingerprintPart {files : Files} {config : AppConfig} {profiles : List UpstreamProfileConfig}
    (distinct : (profiles.map (·.name)).Nodup) {profile : UpstreamProfileConfig}
    (member : profile ∈ profiles) :
    (profiles.filterMap (fingerprintPart files config)).find? (·.profile = profile.name) =
      fingerprintPart files config profile := by
  induction profiles with
  | nil => simp at member
  | cons first rest ih =>
      rw [List.map_cons, List.nodup_cons] at distinct
      rcases List.mem_cons.mp member with rfl | later
      · cases isPart : fingerprintPart files config profile with
        | some part =>
            rw [List.filterMap_cons_some isPart, List.find?_cons_of_pos]
            simpa using fingerprintPart_profile isPart
        | none =>
            rw [List.filterMap_cons_none isPart, List.find?_eq_none]
            intro part inParts
            obtain ⟨other, inRest, isOther⟩ := List.mem_filterMap.mp inParts
            have name := fingerprintPart_profile isOther
            simp only [decide_eq_true_eq]
            intro same
            exact distinct.1 (name.symm.trans same ▸ List.mem_map_of_mem inRest)
      · have other : first.name ≠ profile.name := by
          intro same
          exact distinct.1 (same ▸ List.mem_map_of_mem later)
        cases isPart : fingerprintPart files config first with
        | some part =>
            rw [List.filterMap_cons_some isPart, List.find?_cons_of_neg]
            · exact ih distinct.2 later
            · simpa [fingerprintPart_profile isPart] using other
        | none =>
            rw [List.filterMap_cons_none isPart]
            exact ih distinct.2 later

/-- Two lists that agree in what the rules take from them, or have nothing for them. -/
def SamePushed (first second : PushedRouting) : Prop :=
  (first.routes = second.routes ∧ first.domains = second.domains ∧ first.dns = second.dns) ∨
    (first.isEmpty = true ∧ second.isEmpty = true)

section

variable {first second : PushedRouting} (same : SamePushed first second)

include same

theorem SamePushed.hostRoutes (route : String) :
    listed first.hostRoutes route ↔ listed second.hostRoutes route := by
  rcases same with ⟨routes, domains, dns⟩ | ⟨empty, alsoEmpty⟩
  · simp only [PushedRouting.hostRoutes, pushedDnsRoutes, PushedRouting.dnsHostRoutes, routes, domains, dns]
  · exact iff_of_false (hostRoutes_empty empty route) (hostRoutes_empty alsoEmpty route)

theorem SamePushed.hostDomains (domain : String) :
    listed first.hostDomains domain ↔ listed second.hostDomains domain := by
  rcases same with ⟨-, domains, -⟩ | ⟨empty, alsoEmpty⟩
  · simp only [PushedRouting.hostDomains, domains]
  · exact iff_of_false (hostDomains_empty empty domain) (hostDomains_empty alsoEmpty domain)

theorem SamePushed.resolves (repr : Json → String) (domain address : String) :
    first.Resolves repr domain address ↔ second.Resolves repr domain address := by
  rcases same with ⟨-, domains, dns⟩ | ⟨empty, alsoEmpty⟩
  · simp only [PushedRouting.Resolves, domains, dns]
  · exact iff_of_false (resolves_empty empty domain address) (resolves_empty alsoEmpty domain address)

end

theorem listsOf_samePushed {files : Files} {config : AppConfig} (facts : config.Facts)
    {profile : UpstreamProfileConfig} (member : profile ∈ config.upstream.profiles) :
    SamePushed (listsOf (fingerprintParts files config) profile)
      (files.effectivePushed config profile) := by
  unfold listsOf fingerprintParts
  rw [find_fingerprintPart facts.names member]
  simp only [fingerprintPart]
  split
  · rename_i part isPart
    split at isPart
    · simp at isPart
    · obtain rfl := Option.some.inj isPart
      exact Or.inl ⟨rfl, rfl, rfl⟩
  · rename_i noPart
    split at noPart
    · rename_i empty
      exact Or.inr ⟨rfl, empty⟩
    · simp at noPart

end Korserver
