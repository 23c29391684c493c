import Korserver.DnsmasqCore
import Korserver.Nftables

/-!
dnsmasq and nftables: which domains dnsmasq resolves into which sets, whether these are the
sets of the ruleset, and whether dnsmasq runs at all.
-/

namespace Korserver

open PythonText IpAddress PythonValue PacketFilter

/-- A domain that a feature resolves, with the dynamic sets of its target and kind. -/
inductive ActiveDomain (files : Files) (config : AppConfig) : String → String → String → Prop
  | client {named : List RoutingTarget} {target : RoutingTarget} {domain : String}
      (listed : namedTargets files config = .ok named) (member : target ∈ named)
      (active : domain ∈ target.domains) :
      ActiveDomain files config domain target.setV4Dynamic target.setV6Dynamic
  | host {named : List RoutingTarget} {target : RoutingTarget} {domain setV4 setV6 : String}
      (listed : namedTargets files config = .ok named) (member : target ∈ named)
      (active : domain ∈ target.hostDomains)
      (v4 : target.hostSetV4Dynamic = some setV4) (v6 : target.hostSetV6Dynamic = some setV6) :
      ActiveDomain files config domain setV4 setV6
  | hostSplit {domains : List String} {domain : String}
      (enabled : hostSplitActive config = true) (listed : listHostDomains files config = .ok domains)
      (active : domain ∈ domains) :
      ActiveDomain files config domain "host_split_v4_dynamic" "host_split_v6_dynamic"
  | split {domains : List String} {domain : String}
      (enabled : splitDnsActive config = true) (listed : listDomains files config = .ok domains)
      (active : domain ∈ domains) :
      ActiveDomain files config domain "split_v4_dynamic" "split_v6_dynamic"

def hostSplitDomainsGiven (pathExists : String → Bool) (config : AppConfig) : Prop :=
  config.routing.hostSplit.domains ≠ [] ∨ config.routing.hostSplit.domainsFiles ≠ [] ∨
    config.routing.hostSplit.domainsUrls ≠ [] ∨ pathExists config.routing.hostSplit.domainsFile = true

def resolvesDomains (profile : UpstreamProfileConfig) : Prop :=
  (profile.routeClientsEnabled = true ∧ profile.domains ≠ []) ∨
    (profile.routeHostEnabled = true ∧ (profile.hostDomains ≠ [] ∨ profile.acceptServerRoutes = true))

def NeedsDnsmasq (pathExists : String → Bool) (config : AppConfig) : Prop :=
  config.internalDns.resolverEnabled = true ∨ config.internalDns.blocklistEnabled = true ∨
    config.internalDns.localRecordsEnabled = true ∨ splitDnsActive config = true ∨
    (hostSplitActive config = true ∧ hostSplitDomainsGiven pathExists config) ∨
    (config.upstream.enabled = true ∧
      ∃ profile ∈ config.upstream.profiles, profile.enabled = true ∧ resolvesDomains profile)

theorem localRecordsFrom_mem {records : List String} {directives : List Directive}
    (listed : localRecordsFrom records = .ok directives) {directive : Directive} (member : directive ∈ directives) :
    ∃ host ip, directive = .address host ip := by
  induction records generalizing directives with
  | nil =>
      obtain rfl := pure_ok.mp listed
      cases member
  | cons record rest ih =>
      obtain ⟨first, single, others, listedRest, same⟩ := by
        simpa only [localRecordsFrom, bind_ok] using listed
      obtain rfl := pure_ok.mp same
      rcases List.mem_cons.mp member with rfl | later
      · unfold localRecord at single
        split at single
        · cases single
        · cases single
        · exact ⟨_, _, (Except.ok.inj single).symm⟩
        · cases single
      · exact ih listedRest later

theorem localRecords_mem {config : AppConfig} {directives : List Directive}
    (listed : localRecords config = .ok directives) {directive : Directive} (member : directive ∈ directives) :
    ∃ host ip, directive = .address host ip := by
  unfold localRecords at listed
  split at listed
  · exact localRecordsFrom_mem listed member
  · obtain rfl := pure_ok.mp listed
    cases member

theorem hostDirectivesOf_mem {repr : Json → String} {config : AppConfig} {directive : Directive}
    {holds : RoutingTarget → Prop}
    (each : ∀ target block, hostDirectives repr config target = .ok block → (directive ∈ block ↔ holds target))
    {targets : List RoutingTarget} {directives : List Directive}
    (rendered : hostDirectivesOf repr config targets = .ok directives) :
    directive ∈ directives ↔ ∃ target ∈ targets, holds target := by
  induction targets generalizing directives with
  | nil =>
      obtain rfl := pure_ok.mp rendered
      simp
  | cons target rest ih =>
      obtain ⟨first, renderedFirst, others, renderedRest, same⟩ := by
        simpa only [hostDirectivesOf, bind_ok] using rendered
      obtain rfl := pure_ok.mp same
      simp only [List.mem_append, each target first renderedFirst, ih renderedRest, List.mem_cons, exists_eq_or_imp]

section Lines

variable {repr : Json → String} {files : Files} {config : AppConfig} {domain table setV4 setV6 : String}

theorem nftset_general : .nftset domain table setV4 setV6 ∉ generalDirectives config := by
  cases logs : config.internalDns.logQueries <;> by_cases direct : upstreamDns config = [] <;>
    simp [generalDirectives, logs, direct]

theorem nftset_split {domains : List String} :
    .nftset domain table setV4 setV6 ∈ splitDirectives config domains ↔
      (upstreamDns config ≠ [] ∧ splitDnsActive config = true) ∧ domain ∈ domains ∧
        table = filterTable config ∧ setV4 = "split_v4_dynamic" ∧ setV6 = "split_v6_dynamic" := by
  unfold splitDirectives
  cases upstreamDns config with
  | nil => simp
  | cons dns rest =>
      by_cases active : splitDnsActive config = true
      · simp only [active, if_true, List.mem_flatMap, List.mem_append, List.mem_singleton,
          Directive.nftset.injEq]
        constructor
        · rintro ⟨other, member, server | ⟨rfl, rest⟩⟩
          · split at server <;> simp at server
          · exact ⟨⟨by simp, trivial⟩, member, rest⟩
        · rintro ⟨-, member, rest⟩
          exact ⟨domain, member, Or.inr ⟨rfl, rest⟩⟩
      · simp [active]

theorem nftset_client {target : RoutingTarget} :
    .nftset domain table setV4 setV6 ∈ clientDirectives config target ↔
      target.name ≠ "default" ∧ domain ∈ target.domains ∧ table = filterTable config ∧
        setV4 = target.setV4Dynamic ∧ setV6 = target.setV6Dynamic := by
  unfold clientDirectives
  split
  · simp_all
  · simp only [List.mem_map, Directive.nftset.injEq]
    constructor
    · rintro ⟨other, member, rfl, rfl, rfl, rfl⟩
      exact ⟨‹_›, member, rfl, rfl, rfl⟩
    · rintro ⟨-, member, rfl, rfl, rfl⟩
      exact ⟨domain, member, rfl, rfl, rfl, rfl⟩

theorem nftset_server {target : RoutingTarget} {pushed : List Json} {directives : List Directive}
    (rendered : serverDirectives repr config target pushed = .ok directives) :
    .nftset domain table setV4 setV6 ∉ directives := by
  induction pushed generalizing directives with
  | nil =>
      obtain rfl := pure_ok.mp rendered
      simp
  | cons item rest ih =>
      obtain ⟨servers, -, others, renderedRest, same⟩ := by
        simpa only [serverDirectives, bind_ok] using rendered
      obtain rfl := pure_ok.mp same
      simp [ih renderedRest]

theorem nftset_host {target : RoutingTarget} {directives : List Directive}
    (rendered : hostDirectives repr config target = .ok directives) :
    .nftset domain table setV4 setV6 ∈ directives ↔
      target.hostEnabled = true ∧ domain ∈ target.hostDomains ∧ table = filterTable config ∧
        setV4 = target.hostSetV4Dynamic.getD "None" ∧ setV6 = target.hostSetV6Dynamic.getD "None" := by
  unfold hostDirectives at rendered
  split at rendered
  · rename_i enabled
    simp only [Bool.and_eq_true] at enabled
    obtain ⟨pushed, -, servers, renderedServers, same⟩ := by simpa only [bind_ok] using rendered
    obtain rfl := pure_ok.mp same
    simp only [List.mem_append, nftset_server renderedServers, false_or, List.mem_map,
      Directive.nftset.injEq]
    constructor
    · rintro ⟨other, member, rfl, rfl, rfl, rfl⟩
      exact ⟨enabled.1, member, rfl, rfl, rfl⟩
    · rintro ⟨-, member, rfl, rfl, rfl⟩
      exact ⟨domain, member, rfl, rfl, rfl, rfl⟩
  · rename_i disabled
    obtain rfl := pure_ok.mp rendered
    simp only [Bool.and_eq_true, Bool.not_eq_true', List.isEmpty_eq_false_iff, not_and, not_not]
      at disabled
    constructor
    · simp
    · rintro ⟨enabled, member, -⟩
      simp [disabled enabled] at member

theorem nftset_hosts {targets : List RoutingTarget} {directives : List Directive}
    (rendered : hostDirectivesOf repr config targets = .ok directives) :
    .nftset domain table setV4 setV6 ∈ directives ↔ ∃ target ∈ targets,
      target.hostEnabled = true ∧ domain ∈ target.hostDomains ∧ table = filterTable config ∧
        setV4 = target.hostSetV4Dynamic.getD "None" ∧ setV6 = target.hostSetV6Dynamic.getD "None" := by
  exact hostDirectivesOf_mem (fun _ _ => nftset_host) rendered

/-- The `nftset=` lines of a rendered file, by the block they stand in. -/
theorem nftset_mem {directives : List Directive}
    (rendered : renderDnsmasq repr files config = .ok directives) :
    ∃ targets splitDomains hostSplitDomains,
      listTargets files config config.routing.mainInterface = .ok targets ∧
      splitDomainsOf files config = .ok splitDomains ∧
      hostSplitDomainsOf files config = .ok hostSplitDomains ∧
      ∀ domain table setV4 setV6, .nftset domain table setV4 setV6 ∈ directives ↔
        table = filterTable config ∧
          (((upstreamDns config ≠ [] ∧ splitDnsActive config = true) ∧ domain ∈ splitDomains ∧
              setV4 = "split_v4_dynamic" ∧ setV6 = "split_v6_dynamic") ∨
            (∃ target ∈ targets, target.name ≠ "default" ∧ domain ∈ target.domains ∧
              setV4 = target.setV4Dynamic ∧ setV6 = target.setV6Dynamic) ∨
            (∃ target ∈ targets, target.hostEnabled = true ∧ domain ∈ target.hostDomains ∧
              setV4 = target.hostSetV4Dynamic.getD "None" ∧
              setV6 = target.hostSetV6Dynamic.getD "None") ∨
            (domain ∈ hostSplitDomains ∧ setV4 = "host_split_v4_dynamic" ∧
              setV6 = "host_split_v6_dynamic")) := by
  obtain ⟨records, listed, targets, targetsListed, splitDomains, splitListed, hostSplitDomains,
    hostListed, hosts, hostsRendered, same⟩ := by simpa only [renderDnsmasq, bind_ok] using rendered
  obtain rfl := pure_ok.mp same
  refine ⟨targets, splitDomains, hostSplitDomains, targetsListed, splitListed, hostListed, ?_⟩
  intro domain table setV4 setV6
  have noRecord : Directive.nftset domain table setV4 setV6 ∉ records := fun member => by
    obtain ⟨host, ip, same⟩ := localRecords_mem listed member
    cases same
  have noBlocklist : Directive.nftset domain table setV4 setV6 ∉ blocklistDirectives config := by
    unfold blocklistDirectives
    split <;> simp
  simp only [List.mem_append, nftset_general, nftset_split, List.mem_flatMap, nftset_client,
    nftset_hosts hostsRendered, hostSplitDirectives, List.mem_map, Directive.nftset.injEq, noRecord,
    noBlocklist, false_or, or_false]
  grind

end Lines

section Targets

variable {files : Files} {config : AppConfig} {profile : UpstreamProfileConfig}
  {target : RoutingTarget}

/-- A profile has domains of its own to resolve, for its clients or for the host. -/
def HasOwnDomains (files : Files) (config : AppConfig) (profile : UpstreamProfileConfig) : Prop :=
  (profile.routeClientsEnabled = true ∧ profile.domains ≠ []) ∨
    (profile.routeHostEnabled = true ∧ ∃ lists,
      hostLists profile (files.effectivePushed config profile) = .ok lists ∧ lists.domains ≠ [])

theorem NamedFrom.clientDomains (named : NamedFrom files config profile target) :
    target.domains = if profile.routeClientsEnabled then profile.domains else [] := by
  obtain ⟨-, -, -, -, -, -, -, rfl⟩ := named
  rfl

theorem NamedFrom.hostDomains (named : NamedFrom files config profile target) {domain : String}
    (member : domain ∈ target.hostDomains) :
    profile.routeHostEnabled = true ∧ target.hostEnabled = true ∧
      (∃ lists, hostLists profile (files.effectivePushed config profile) = .ok lists ∧
        lists.domains = target.hostDomains) := by
  obtain ⟨base, lists, fwmark, -, listed, -, -, rfl⟩ := named
  by_cases active : hostActive profile lists = true
  · have enabled : profile.routeHostEnabled = true := by
      simp only [hostActive, Bool.and_eq_true] at active
      exact active.1
    exact ⟨enabled, by simp [namedTarget, RoutingTarget.hostEnabled, active, truthy],
      lists, listed, by simp [namedTarget, active]⟩
  · simp [namedTarget, active] at member

theorem NamedFrom.hostSetNames (named : NamedFrom files config profile target)
    (enabled : target.hostEnabled = true) :
    target.hostSetV4Dynamic = some ("host_v4_" ++ profileSafeName profile.name ++ "_dynamic") ∧
      target.hostSetV6Dynamic = some ("host_v6_" ++ profileSafeName profile.name ++ "_dynamic") := by
  obtain ⟨base, lists, fwmark, -, listed, -, -, rfl⟩ := named
  by_cases active : hostActive profile lists = true
  · simp [namedTarget, active]
  · simp [namedTarget, RoutingTarget.hostEnabled, active, truthy] at enabled

theorem NamedFrom.hasOwnDomains_client (named : NamedFrom files config profile target)
    {domain : String} (member : domain ∈ target.domains) :
    profile.routeClientsEnabled = true ∧ profile.domains ≠ [] := by
  rw [named.clientDomains] at member
  split at member
  · exact ⟨‹_›, List.ne_nil_of_mem member⟩
  · simp at member

end Targets

/-- Split domains have an upstream server to resolve through, no profile with client domains
has the reserved name, and disabled profiles with domains find dnsmasq running anyway. -/
structure DnsCondition (files : Files) (config : AppConfig) : Prop where
  split : splitDnsActive config = true →
    listDomains files config = .ok [] ∨ ∃ dns ∈ config.server.dns, dns ≠ config.internalDns.listen
  reserved : config.upstream.enabled = true → ∀ profile ∈ config.upstream.profiles,
    profile.name = "default" → profile.routeClientsEnabled = true → profile.domains = []
  running : NeedsDnsmasq files.pathExists config ∨ (config.upstream.enabled = true →
    ∀ profile ∈ config.upstream.profiles, profile.enabled = false →
      ¬HasOwnDomains files config profile)

section Agreement

variable {files : Files} {config : AppConfig} {kept : List UpstreamProfileConfig}
  {named : List RoutingTarget}

end Agreement

theorem NamedFrom.setV4Dynamic {files : Files} {config : AppConfig}
    {profile : UpstreamProfileConfig} {target : RoutingTarget}
    (named : NamedFrom files config profile target) :
    target.setV4Dynamic = "split_v4_" ++ profileSafeName profile.name ++ "_dynamic" := by
  obtain ⟨-, -, -, -, -, -, -, rfl⟩ := named
  rfl

theorem profileTargets_hostLists {files : Files} {config : AppConfig} {base : Int}
    {profiles : List UpstreamProfileConfig} {targets : List RoutingTarget}
    (found : profileTargets files config base profiles = .ok targets) :
    ∀ profile ∈ profiles, ∃ lists,
      hostLists profile (files.effectivePushed config profile) = .ok lists := by
  induction profiles generalizing targets with
  | nil => simp
  | cons profile rest ih =>
      simp only [profileTargets, profileTarget, bind_ok] at found
      obtain ⟨result, ⟨lists, listed, -⟩, more, others, -⟩ := found
      intro other member
      rcases List.mem_cons.mp member with rfl | later
      · exact ⟨lists, listed⟩
      · exact ih others other later

theorem namedTargets_hostLists {files : Files} {config : AppConfig} {named : List RoutingTarget}
    (found : namedTargets files config = .ok named) (enabled : config.upstream.enabled = true) :
    ∀ profile ∈ config.upstream.profiles, ∃ lists,
      hostLists profile (files.effectivePushed config profile) = .ok lists := by
  rw [namedTargets, if_pos enabled] at found
  obtain ⟨base, -, listed⟩ := bind_ok.mp found
  exact profileTargets_hostLists listed

section Sources

variable {repr : Json → String} {files : Files} {config : AppConfig} {directives : List Directive}
  (rendered : renderDnsmasq repr files config = .ok directives)

include rendered

theorem DnsCondition.covered (condition : DnsCondition files config) {domain setV4 setV6 : String}
    (active : ActiveDomain files config domain setV4 setV6) :
    .nftset domain (filterTable config) setV4 setV6 ∈ directives := by
  obtain ⟨targets, splitDomains, hostSplitDomains, targetsListed, splitListed, hostListed, lines⟩ :=
    nftset_mem rendered
  obtain ⟨routes, domains, named, -, namedListed, rfl⟩ := listTargets_ok targetsListed
  obtain ⟨kept, pairs⟩ := namedTargets_kept namedListed
  refine (lines _ _ _ _).mpr ⟨rfl, ?_⟩
  cases active with
  | client listed member inDomains =>
      obtain rfl : named = _ := by simpa [namedListed] using listed
      refine Or.inr (Or.inl ⟨_, List.mem_cons_of_mem _ member, ?_, inDomains, rfl, rfl⟩)
      obtain ⟨profile, inProfiles, from'⟩ := pairs.profileOf member
      intro name
      rw [from'.name] at name
      have own := from'.hasOwnDomains_client inDomains
      exact own.2 (condition.reserved (namedTargets_enabled namedListed member) profile inProfiles name
        own.1)
  | host listed member inDomains v4 v6 =>
      obtain rfl : named = _ := by simpa [namedListed] using listed
      obtain ⟨profile, -, from'⟩ := pairs.profileOf member
      refine Or.inr (Or.inr (Or.inl ⟨_, List.mem_cons_of_mem _ member,
        (from'.hostDomains inDomains).2.1, inDomains, ?_, ?_⟩))
      · rw [v4, Option.getD_some]
      · rw [v6, Option.getD_some]
  | hostSplit active listed inDomains =>
      rw [hostSplitDomainsOf, if_pos active] at hostListed
      obtain rfl : hostSplitDomains = _ := by simpa [hostListed] using listed
      exact Or.inr (Or.inr (Or.inr ⟨inDomains, rfl, rfl⟩))
  | split active listed inDomains =>
      rw [splitDomainsOf, if_pos active] at splitListed
      obtain rfl : splitDomains = _ := by simpa [splitListed] using listed
      refine Or.inl ⟨⟨?_, active⟩, inDomains, rfl, rfl⟩
      rcases condition.split active with empty | ⟨dns, member, other⟩
      · obtain rfl : splitDomains = [] := by simpa [splitListed] using empty
        simp at inDomains
      · have remains : dns ∈ upstreamDns config := by simpa [upstreamDns] using And.intro member other
        exact List.ne_nil_of_mem remains

end Sources

end Korserver
