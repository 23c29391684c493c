import Korserver.PushedLists

/-!
The lines of a rendered dnsmasq configuration that come from pushed lists.
-/

namespace Korserver

open PythonText PythonValue IpAddress

theorem hostSetOf_dynamic (profile : UpstreamProfileConfig) :
    (hostSetOf .v4 true profile).text = "host_v4_" ++ profileSafeName profile.name ++ "_dynamic" ∧
      (hostSetOf .v6 true profile).text = "host_v6_" ++ profileSafeName profile.name ++ "_dynamic" := by
  have names := text_host (profileSafeName profile.name)
  simp only [setNameOf, List.map_cons, List.map_nil, List.cons.injEq, and_true] at names
  exact ⟨names.2.1, names.2.2.2⟩

theorem hostSetOf_ne (profile : UpstreamProfileConfig) {name : SetName} (other : name.scope ≠ .host) :
    (hostSetOf .v4 true profile).text ≠ name.text := by
  intro same
  obtain rfl := SetName.text_injective same
  exact other rfl

/-- A line that is there whatever is pushed, or that no pushed list can account for. -/
def OwnLine (files : Files) (config : AppConfig) : Directive → Prop
  | .serverFor domain address =>
      (domain ∈ config.internalDns.publicDomains ∧ address ∈ config.internalDns.publicUpstreams) ∨
        ((upstreamDns config).head? = some address ∧
          ∃ domains, splitDomainsOf files config = .ok domains ∧ domain ∈ domains)
  | .nftset domain _ setV4 _ => ¬∃ profile ∈ config.upstream.profiles,
      setV4 = (hostSetOf .v4 true profile).text ∧ domain ∉ mergeUnique [profile.hostDomains]
  | _ => True

/-- The servers of a list are used once the host routes any domain. -/
def RoutesDomains (profile : UpstreamProfileConfig) (pushed : PushedRouting) : Prop :=
  ∃ domain, domain ∈ mergeUnique [profile.hostDomains] ∨ listed pushed.hostDomains domain

def PushedLine (repr : Json → String) (config : AppConfig)
    (lists : UpstreamProfileConfig → PushedRouting) : Directive → Prop
  | .serverFor domain address => domain ∉ config.internalDns.publicDomains ∧
      ∃ profile ∈ config.upstream.profiles,
        RoutesDomains profile (lists profile) ∧ (lists profile).Resolves repr domain address
  | .nftset domain table setV4 setV6 => table = filterTable config ∧
      ∃ profile ∈ config.upstream.profiles, setV4 = (hostSetOf .v4 true profile).text ∧
        setV6 = (hostSetOf .v6 true profile).text ∧ listed (lists profile).hostDomains domain
  | _ => False

/-- Apart from own lines, there are exactly those of the pushed lists. -/
def LinesShow (repr : Json → String) (files : Files) (config : AppConfig) (lines : List Directive)
    (lists : UpstreamProfileConfig → PushedRouting) : Prop :=
  ∀ line, ¬OwnLine files config line →
    (line ∈ lines ↔ config.upstream.enabled = true ∧ PushedLine repr config lists line)

/-! The `server=` lines of each block. -/

section Servers

variable {repr : Json → String} {files : Files} {config : AppConfig} {domain address : String}

theorem serverFor_server {target : RoutingTarget} {pushed : List Json} {directives : List Directive}
    (rendered : serverDirectives repr config target pushed = .ok directives) :
    .serverFor domain address ∈ directives ↔
      domain ∈ pushed.map (Json.pyStr repr) ∧ domain ∉ config.internalDns.publicDomains ∧
        ∃ servers, target.serverDns.items = .ok servers ∧ address ∈ servers.map (Json.pyStr repr) := by
  induction pushed generalizing directives with
  | nil =>
      obtain rfl := pure_ok.mp rendered
      simp
  | cons item rest ih =>
      obtain ⟨servers, found, others, renderedRest, same⟩ := by
        simpa only [serverDirectives, bind_ok] using rendered
      obtain rfl := pure_ok.mp same
      rw [List.mem_append, ih renderedRest, List.map_cons, List.mem_cons]
      unfold serversFor at found
      by_cases isPublic : item.pyStr repr ∈ config.internalDns.publicDomains
      · rw [if_pos isPublic] at found
        obtain rfl := Except.ok.inj found
        grind
      · rw [if_neg isPublic] at found
        simp only [List.mem_map, Directive.serverFor.injEq]
        grind

theorem serverFor_host {target : RoutingTarget} {directives : List Directive}
    (rendered : hostDirectives repr config target = .ok directives) :
    .serverFor domain address ∈ directives ↔
      target.hostEnabled = true ∧ target.hostDomains ≠ [] ∧
        domain ∉ config.internalDns.publicDomains ∧ ∃ domains servers,
          target.serverDomains.items = .ok domains ∧ target.serverDns.items = .ok servers ∧
          domain ∈ domains.map (Json.pyStr repr) ∧ address ∈ servers.map (Json.pyStr repr) := by
  unfold hostDirectives at rendered
  split at rendered
  · rename_i enabled
    simp only [Bool.and_eq_true, Bool.not_eq_true', List.isEmpty_eq_false_iff] at enabled
    obtain ⟨pushed, pushedListed, servers, renderedServers, same⟩ := by simpa only [bind_ok] using rendered
    obtain rfl := pure_ok.mp same
    have noSet : Directive.serverFor domain address ∉ target.hostDomains.map fun domain =>
        .nftset domain (filterTable config) (target.hostSetV4Dynamic.getD "None")
          (target.hostSetV6Dynamic.getD "None") := by simp
    rw [List.mem_append, or_iff_left noSet, serverFor_server renderedServers]
    grind
  · rename_i disabled
    obtain rfl := pure_ok.mp rendered
    simp only [Bool.and_eq_true, Bool.not_eq_true', List.isEmpty_eq_false_iff, not_and] at disabled
    simp only [List.not_mem_nil, false_iff, not_and]
    exact fun enabled domains => absurd domains (disabled enabled)

theorem serverFor_hosts {targets : List RoutingTarget} {directives : List Directive}
    (rendered : hostDirectivesOf repr config targets = .ok directives) :
    .serverFor domain address ∈ directives ↔ ∃ target ∈ targets,
      target.hostEnabled = true ∧ target.hostDomains ≠ [] ∧
        domain ∉ config.internalDns.publicDomains ∧ ∃ domains servers,
          target.serverDomains.items = .ok domains ∧ target.serverDns.items = .ok servers ∧
          domain ∈ domains.map (Json.pyStr repr) ∧ address ∈ servers.map (Json.pyStr repr) := by
  exact hostDirectivesOf_mem (fun _ _ => serverFor_host) rendered

theorem serverFor_general :
    .serverFor domain address ∈ generalDirectives config ↔
      domain ∈ config.internalDns.publicDomains ∧ address ∈ config.internalDns.publicUpstreams := by
  cases logs : config.internalDns.logQueries <;> by_cases direct : upstreamDns config = [] <;>
    simp [generalDirectives, logs, direct]

theorem serverFor_split {splitDomains : List String} (listed : splitDomainsOf files config = .ok splitDomains) :
    .serverFor domain address ∈ splitDirectives config splitDomains ↔
      domain ∉ config.internalDns.publicDomains ∧ (upstreamDns config).head? = some address ∧
        domain ∈ splitDomains := by
  unfold splitDirectives
  split
  · rename_i none
    simp [none]
  · rename_i dns others resolvers
    split
    · rw [resolvers, List.head?_cons, Option.some.injEq, List.mem_flatMap]
      constructor
      · rintro ⟨other, inSplit, line⟩
        rcases List.mem_append.mp line with server | set
        · split at server
          · simp at server
          · rename_i notPublic
            simp only [List.mem_singleton, Directive.serverFor.injEq] at server
            obtain ⟨rfl, rfl⟩ := server
            exact ⟨notPublic, rfl, inSplit⟩
        · simp at set
      · rintro ⟨notPublic, rfl, inSplit⟩
        exact ⟨domain, inSplit, List.mem_append_left _ (by simp [notPublic])⟩
    · rename_i inactive
      rw [splitDomainsOf, if_neg inactive] at listed
      obtain rfl := Except.ok.inj listed
      simp

/-- The lines of a public domain, of a split domain, and of the pushed domains of the targets. -/
theorem serverFor_mem {directives : List Directive}
    (rendered : renderDnsmasq repr files config = .ok directives) :
    ∃ targets splitDomains, listTargets files config config.routing.mainInterface = .ok targets ∧
      splitDomainsOf files config = .ok splitDomains ∧ ∀ domain address,
        .serverFor domain address ∈ directives ↔
          (domain ∈ config.internalDns.publicDomains ∧ address ∈ config.internalDns.publicUpstreams) ∨
          (domain ∉ config.internalDns.publicDomains ∧ (upstreamDns config).head? = some address ∧
            domain ∈ splitDomains) ∨
          ∃ target ∈ targets, target.hostEnabled = true ∧ target.hostDomains ≠ [] ∧
            domain ∉ config.internalDns.publicDomains ∧ ∃ domains servers,
              target.serverDomains.items = .ok domains ∧ target.serverDns.items = .ok servers ∧
              domain ∈ domains.map (Json.pyStr repr) ∧ address ∈ servers.map (Json.pyStr repr) := by
  obtain ⟨records, listed, targets, targetsListed, splitDomains, splitListed, hostSplitDomains,
    -, hosts, hostsRendered, same⟩ := by simpa only [renderDnsmasq, bind_ok] using rendered
  obtain rfl := pure_ok.mp same
  refine ⟨targets, splitDomains, targetsListed, splitListed, ?_⟩
  intro domain address
  have noClient (target : RoutingTarget) :
      Directive.serverFor domain address ∉ clientDirectives config target := by
    unfold clientDirectives
    split <;> simp
  have noRecord : Directive.serverFor domain address ∉ records := fun member => by
    obtain ⟨host, ip, same⟩ := localRecords_mem listed member
    cases same
  have noBlocklist : Directive.serverFor domain address ∉ blocklistDirectives config := by
    unfold blocklistDirectives
    split <;> simp
  simp only [List.mem_append, serverFor_general, serverFor_split splitListed, List.mem_flatMap, noClient,
    and_false, exists_false, serverFor_hosts hostsRendered, hostSplitDirectives, List.mem_map, reduceCtorEq,
    noRecord, noBlocklist, or_false, or_assoc]

end Servers

section Targets

variable {files : Files} {config : AppConfig} {profile : UpstreamProfileConfig}
  {target : RoutingTarget}

theorem routeHostEnabled_of_listed {domain : String}
    (effective : listed (files.effectivePushed config profile).hostDomains domain ∨
      listed (files.effectivePushed config profile).hostRoutes domain) : profile.routeHostEnabled = true := by
  by_contra off
  have nothing : files.effectivePushed config profile = {} := by
    simp [Files.effectivePushed, off]
  rw [nothing] at effective
  rcases effective with domains | routes
  · exact hostDomains_empty rfl domain domains
  · exact hostRoutes_empty rfl domain routes

theorem routeHostEnabled_of_resolves {repr : Json → String} {domain address : String}
    (resolves : (files.effectivePushed config profile).Resolves repr domain address) :
    profile.routeHostEnabled = true := by
  by_contra off
  have nothing : files.effectivePushed config profile = {} := by
    simp [Files.effectivePushed, off]
  rw [nothing] at resolves
  exact resolves_empty rfl domain address resolves

theorem NamedFrom.host (named : NamedFrom files config profile target) (enabled : target.hostEnabled = true) :
    ∃ lists, hostLists profile (files.effectivePushed config profile) = .ok lists ∧
      target.hostDomains = lists.domains ∧
      target.serverDomains = (files.effectivePushed config profile).domains ∧
      target.serverDns = (files.effectivePushed config profile).dns ∧
      target.hostSetV4Dynamic.getD "None" = (hostSetOf .v4 true profile).text ∧
      target.hostSetV6Dynamic.getD "None" = (hostSetOf .v6 true profile).text := by
  have names := named.hostSetNames enabled
  obtain ⟨base, lists, fwmark, -, found, -, -, rfl⟩ := named
  have active : hostActive profile lists = true := by
    by_contra inactive
    simp [namedTarget, RoutingTarget.hostEnabled, inactive, truthy] at enabled
  refine ⟨lists, found, ?_, ?_, ?_, ?_, ?_⟩
  · simp [namedTarget, active]
  · simp [namedTarget, active]
  · simp [namedTarget, active]
  · rw [names.1, Option.getD_some, (hostSetOf_dynamic profile).1]
  · rw [names.2, Option.getD_some, (hostSetOf_dynamic profile).2]

variable {kept : List UpstreamProfileConfig} {named : List RoutingTarget}

theorem Kept.hostTarget (pairs : Kept files config kept named) (enabled : config.upstream.enabled = true)
    (member : profile ∈ config.upstream.profiles) {lists : HostLists}
    (found : hostLists profile (files.effectivePushed config profile) = .ok lists)
    (active : hostActive profile lists = true) :
    ∃ target ∈ named, NamedFrom files config profile target ∧ target.hostEnabled = true := by
  obtain ⟨target, inNamed, from'⟩ := pairs.targetOf
    (pairs.complete enabled profile member ⟨lists, found, Or.inr active⟩)
  refine ⟨target, inNamed, from', ?_⟩
  obtain ⟨base, lists', fwmark, -, found', -, -, rfl⟩ := from'
  obtain rfl := Except.ok.inj (found.symm.trans found')
  simp [namedTarget, RoutingTarget.hostEnabled, active, truthy]

end Targets

section Rendered

variable {repr : Json → String} {files : Files} {config : AppConfig} {directives : List Directive}
  (facts : config.Facts) (rendered : renderDnsmasq repr files config = .ok directives)

include facts rendered

omit facts rendered in
theorem targets_pushed {domain address : String} {targets : List RoutingTarget}
    (targetsListed : listTargets files config config.routing.mainInterface = .ok targets) :
    (∃ target ∈ targets, target.hostEnabled = true ∧ target.hostDomains ≠ [] ∧
      domain ∉ config.internalDns.publicDomains ∧ ∃ domains servers,
        target.serverDomains.items = .ok domains ∧ target.serverDns.items = .ok servers ∧
        domain ∈ domains.map (Json.pyStr repr) ∧ address ∈ servers.map (Json.pyStr repr)) ↔
      config.upstream.enabled = true ∧
        PushedLine repr config (files.effectivePushed config) (.serverFor domain address) := by
  obtain ⟨routes, domains, named, -, namedListed, rfl⟩ := listTargets_ok targetsListed
  obtain ⟨kept, pairs⟩ := namedTargets_kept namedListed
  constructor
  · rintro ⟨target, inTargets, hostEnabled, nonempty, notPublic, items, servers, itemsListed,
      serversListed, isDomain, isServer⟩
    rcases List.mem_cons.mp inTargets with rfl | inNamed
    · simp [defaultTarget, RoutingTarget.hostEnabled, truthy] at hostEnabled
    · obtain ⟨profile, member, from'⟩ := pairs.profileOf inNamed
      obtain ⟨lists, found, targetDomains, serverDomains, serverDns, -⟩ := from'.host hostEnabled
      rw [targetDomains] at nonempty
      rw [serverDomains] at itemsListed
      rw [serverDns] at serversListed
      obtain ⟨routed, inLists⟩ := List.exists_mem_of_ne_nil lists.domains nonempty
      exact ⟨namedTargets_enabled namedListed inNamed, notPublic, profile, member,
        ⟨routed, ((hostLists_ok found).2 routed).mp inLists⟩, items, servers, itemsListed,
        serversListed, isDomain, isServer⟩
  · rintro ⟨enabled, notPublic, profile, member, ⟨routed, isRouted⟩, resolves⟩
    obtain ⟨lists, found⟩ := namedTargets_hostLists namedListed enabled profile member
    have inLists := ((hostLists_ok found).2 routed).mpr isRouted
    have nonempty : lists.domains ≠ [] := List.ne_nil_of_mem inLists
    have active : hostActive profile lists = true := by
      simp [hostActive, routeHostEnabled_of_resolves resolves, nonempty]
    obtain ⟨target, inNamed, from', hostEnabled⟩ := pairs.hostTarget enabled member found active
    obtain ⟨lists', found', targetDomains, serverDomains, serverDns, -⟩ := from'.host hostEnabled
    obtain rfl := Except.ok.inj (found.symm.trans found')
    obtain ⟨items, servers, itemsListed, serversListed, isDomain, isServer⟩ := resolves
    refine ⟨target, List.mem_cons_of_mem _ inNamed, hostEnabled, ?_, notPublic, items, servers, ?_, ?_,
      isDomain, isServer⟩
    · rw [targetDomains]
      exact nonempty
    · rw [serverDomains, itemsListed]
    · rw [serverDns, serversListed]

omit facts in
theorem rendered_servers {domain address : String}
    (pushed : ¬OwnLine files config (.serverFor domain address)) :
    .serverFor domain address ∈ directives ↔ config.upstream.enabled = true ∧
      PushedLine repr config (files.effectivePushed config) (.serverFor domain address) := by
  obtain ⟨targets, splitDomains, targetsListed, splitListed, lines⟩ := serverFor_mem rendered
  simp only [OwnLine, not_or] at pushed
  obtain ⟨notPublic, notSplit⟩ := pushed
  rw [lines, targets_pushed targetsListed, or_iff_right notPublic, or_iff_right]
  exact fun split => notSplit ⟨split.2.1, splitDomains, splitListed, split.2.2⟩

theorem rendered_sets {domain table setV4 setV6 : String}
    (pushed : ¬OwnLine files config (.nftset domain table setV4 setV6)) :
    .nftset domain table setV4 setV6 ∈ directives ↔ config.upstream.enabled = true ∧
      PushedLine repr config (files.effectivePushed config) (.nftset domain table setV4 setV6) := by
  simp only [OwnLine, not_not] at pushed
  obtain ⟨profile, member, rfl, notOwn⟩ := pushed
  obtain ⟨targets, splitDomains, hostSplitDomains, targetsListed, -, -, lines⟩ := nftset_mem rendered
  obtain ⟨routes, domains, named, -, namedListed, rfl⟩ := listTargets_ok targetsListed
  obtain ⟨kept, pairs⟩ := namedTargets_kept namedListed
  have unique {other : UpstreamProfileConfig} (otherMember : other ∈ config.upstream.profiles)
      (same : (hostSetOf .v4 true profile).text = (hostSetOf .v4 true other).text) : profile = other := by
    have owners := congrArg SetName.owner (SetName.text_injective same)
    exact List.inj_on_of_nodup_map facts.safeNames member otherMember (Option.some.inj owners)
  rw [lines]
  constructor
  · rintro ⟨rfl, ⟨-, -, sameV4, -⟩ | ⟨target, inTargets, proper, -, sameV4, -⟩ |
      ⟨target, inTargets, hostEnabled, inDomains, sameV4, sameV6⟩ | ⟨-, sameV4, -⟩⟩
    · exact absurd sameV4
        (@hostSetOf_ne profile { scope := .client, family := .v4, owner := none, dynamic := true } (by decide))
    · rcases List.mem_cons.mp inTargets with rfl | inNamed
      · simp [defaultTarget] at proper
      · obtain ⟨other, -, from'⟩ := pairs.profileOf inNamed
        have names := text_client (profileSafeName other.name)
        simp only [setNameOf, List.map_cons, List.map_nil, List.cons.injEq, and_true] at names
        rw [from'.setV4Dynamic, ← names.2.1] at sameV4
        exact absurd sameV4 (hostSetOf_ne profile (by simp))
    · rcases List.mem_cons.mp inTargets with rfl | inNamed
      · simp [defaultTarget, RoutingTarget.hostEnabled, truthy] at hostEnabled
      · obtain ⟨other, otherMember, from'⟩ := pairs.profileOf inNamed
        obtain ⟨lists, found, targetDomains, -, -, nameV4, nameV6⟩ := from'.host hostEnabled
        obtain rfl := unique otherMember (sameV4.trans nameV4)
        rw [targetDomains] at inDomains
        have isListed := (((hostLists_ok found).2 domain).mp inDomains).resolve_left notOwn
        exact ⟨namedTargets_enabled namedListed inNamed, rfl, profile, member, rfl, sameV6.trans nameV6,
          isListed⟩
    · exact absurd sameV4
        (@hostSetOf_ne profile { scope := .hostSplit, family := .v4, owner := none, dynamic := true }
          (by decide))
  · rintro ⟨enabled, rfl, other, otherMember, sameV4, rfl, isListed⟩
    obtain rfl := unique otherMember sameV4
    obtain ⟨lists, found⟩ := namedTargets_hostLists namedListed enabled profile member
    have inLists := ((hostLists_ok found).2 domain).mpr (Or.inr isListed)
    have active : hostActive profile lists = true := by
      have nonempty : lists.domains ≠ [] := List.ne_nil_of_mem inLists
      simp [hostActive, routeHostEnabled_of_listed (Or.inl isListed), nonempty]
    obtain ⟨target, inNamed, from', hostEnabled⟩ := pairs.hostTarget enabled member found active
    obtain ⟨lists', found', targetDomains, -, -, nameV4, nameV6⟩ := from'.host hostEnabled
    obtain rfl := Except.ok.inj (found.symm.trans found')
    refine ⟨rfl, Or.inr (Or.inr (Or.inl ⟨target, List.mem_cons_of_mem _ inNamed, hostEnabled, ?_,
      nameV4.symm, nameV6.symm⟩))⟩
    rw [targetDomains]
    exact inLists

theorem rendered_lines : LinesShow repr files config directives (files.effectivePushed config) := by
  intro line pushed
  cases line with
  | serverFor domain address => exact rendered_servers rendered pushed
  | nftset domain table setV4 setV6 => exact rendered_sets facts rendered pushed
  | option name => exact absurd trivial pushed
  | setting name value => exact absurd trivial pushed
  | server address => exact absurd trivial pushed
  | address host ip => exact absurd trivial pushed

end Rendered

end Korserver
