import Korserver.FwmarkArithmetic
import Korserver.RulesetFields
import Korserver.NftablesService

/-!
The rules for the default mark in a loaded ruleset: the kill-switch and masquerading of
client and host traffic, and the interface they name.
-/

namespace Korserver

open PythonText PythonValue IpAddress PacketFilter

theorem NamedFrom.mark_ne {files : Files} {config : AppConfig} {profile : UpstreamProfileConfig}
    {target : RoutingTarget} (named : NamedFrom files config profile target) (facts : config.Facts)
    (member : profile ∈ config.upstream.profiles) :
    target.exit.mark ≠ intLiteral config.routing.fwmark := by
  obtain ⟨base, readable, -⟩ := facts.fwmark
  obtain ⟨-, literal⟩ := named.mark readable
  have positive := facts.offset_pos member
  rw [RoutingTarget.exit, literal, readable]
  split
  · simp
  · intro same
    have sum := Option.some.inj same
    omega

theorem Kept.exits_ne {files : Files} {config : AppConfig} {kept : List UpstreamProfileConfig}
    {named : List RoutingTarget} (pairs : Kept files config kept named) (facts : config.Facts) :
    ∀ exit ∈ named.map RoutingTarget.exit, exit.mark ≠ intLiteral config.routing.fwmark := by
  intro exit member
  obtain ⟨target, inNamed, rfl⟩ := List.mem_map.mp member
  obtain ⟨profile, inProfiles, from'⟩ := pairs.profileOf inNamed
  exact from'.mark_ne facts inProfiles

theorem Kept.hostExits_ne {files : Files} {config : AppConfig} {kept : List UpstreamProfileConfig}
    {named : List RoutingTarget} (pairs : Kept files config kept named) (facts : config.Facts) :
    ∀ exit ∈ (hostTargets named).map RoutingTarget.exit,
      exit.mark ≠ intLiteral config.routing.fwmark := by
  intro exit member
  exact pairs.exits_ne facts exit ((List.filter_sublist.map _).subset member)

structure Names (kind : Exit → LiveRule) (rules : List LiveRule) (exit : Exit) : Prop where
  present : kind exit ∈ rules
  only : ∀ device, kind { exit with device } ∈ rules → device = exit.device

theorem names_of_exits {kind : Exit → LiveRule} {rules : List LiveRule} {exits : List Exit}
    {exit : Exit} (others : ∀ other ∈ exits, other.mark ≠ exit.mark)
    (members : ∀ other, kind other ∈ rules ↔ other = exit ∨ other ∈ exits) :
    Names kind rules exit := by
  constructor
  · exact (members exit).mpr (Or.inl rfl)
  · intro device member
    rcases (members _).mp member with own | inExits
    · exact congrArg Exit.device own
    · exact absurd rfl (others { exit with device } inExits)

def liveRules (tables : String → Option LiveTable) (table chain : String) : List LiveRule :=
  ((tables table).map (·.rulesOf chain)).getD []

/-- The rules for default-marked packets name an interface: those of clients while
`client_traffic` is on, those of the host while `host_traffic` is. Nothing is masqueraded on
an interface called `auto`. -/
structure RulesName (config : AppConfig) (host : HostState) (interface : String) : Prop where
  clientDrop : config.routing.clientTraffic = true →
    Names liveDrop (liveRules host.inet (filterTable config) "forward") (hostExit config interface)
  clientMasquerade : config.routing.clientTraffic = true →
    Names (liveMasquerade (ipNetwork config.server.ipv4Network))
      (liveRules host.ip (natTable config) "postrouting") (hostExit config interface)
  hostDrop : config.routing.hostTraffic = true →
    Names liveDrop (liveRules host.inet (filterTable config) "postrouting") (hostExit config interface)
  hostMasquerade : config.routing.hostTraffic = true → interface ≠ "auto" →
    Names liveHostMasquerade (liveRules host.ip (natTable config) "postrouting")
      (hostExit config interface)

section Loaded

variable {files : Files} {config : AppConfig} {kept : List UpstreamProfileConfig}
  {named : List RoutingTarget} (pairs : Kept files config kept named) (facts : config.Facts)
  (active : upstreamActive config = true) (interface : String) (routes domains : List String)

include pairs facts active

theorem names_forward (client : config.routing.clientTraffic = true) :
    Names liveDrop
      ((forwardRules (resolvedOf config interface routes domains named).targets).map readRule)
      (hostExit config interface) := by
  have policed : defaultPoliced config = true := by simp [defaultPoliced, active, client]
  have own : defaultExit config interface = hostExit config interface := by
    simp [defaultExit, hostExit, defaultTargetInterface, client]
  rw [forwardRules_read pairs, policed, own]
  refine names_of_exits (pairs.exits_ne facts) ?_
  intro other
  rw [List.mem_map_of_injective liveDrop_injective]
  simp

theorem names_postrouting (host : config.routing.hostTraffic = true) :
    Names liveDrop
      ((postroutingRules config (resolvedOf config interface routes domains named)).map readRule)
      (hostExit config interface) := by
  have policed : hostPolicedOf config = true := by simp [hostPolicedOf, active, host]
  have foreign (exit : Exit) : liveDrop exit ≠ readRule acceptLoopback := by
    simp [liveDrop, acceptLoopback, readRule, Rule.map]
  rw [postroutingRules_read, policed]
  refine names_of_exits (pairs.hostExits_ne facts) ?_
  intro other
  rw [List.mem_cons, List.mem_map_of_injective liveDrop_injective]
  simp [foreign]

theorem names_masquerade (client : config.routing.clientTraffic = true) :
    Names (liveMasquerade (ipNetwork config.server.ipv4Network))
      ((natRules config (resolvedOf config interface routes domains named)).map readRule)
      (hostExit config interface) := by
  have policed : defaultPoliced config = true := by simp [defaultPoliced, active, client]
  have own : defaultExit config interface = hostExit config interface := by
    simp [defaultExit, hostExit, defaultTargetInterface, client]
  have others : ∀ exit ∈ (named.filter RoutingTarget.isNamed).map RoutingTarget.exit,
      exit.mark ≠ (hostExit config interface).mark := by
    intro exit member
    exact pairs.exits_ne facts exit ((List.filter_sublist.map _).subset member)
  have counted (exit other : Exit) : liveHostMasquerade other ≠
      liveMasquerade (ipNetwork config.server.ipv4Network) exit := by
    simp [liveMasquerade, liveHostMasquerade]
  have fallback (exit : Exit) : liveMasquerade (ipNetwork config.server.ipv4Network) exit ≠
      liveFallback (ipNetwork config.server.ipv4Network) true (hostExit config interface) := by
    simp [liveMasquerade, liveFallback]
  rw [natRules_read, policed, own]
  refine names_of_exits others ?_
  intro other
  rw [List.mem_append, List.mem_append, List.mem_map_of_injective (liveMasquerade_injective _)]
  simp [counted, fallback, or_comm]

omit active in
theorem names_hostMasquerade (host : config.routing.hostTraffic = true) (real : interface ≠ "auto") :
    Names liveHostMasquerade
      ((natRules config (resolvedOf config interface routes domains named)).map readRule)
      (hostExit config interface) := by
  have uncounted (exit other : Exit) : liveMasquerade (ipNetwork config.server.ipv4Network) other ≠
      liveHostMasquerade exit := by
    simp [liveMasquerade, liveHostMasquerade]
  have fallback (exit default : Exit) (policed : Bool) : liveHostMasquerade exit ≠
      liveFallback (ipNetwork config.server.ipv4Network) policed default := by
    simp [liveHostMasquerade, liveFallback]
  rw [natRules_read]
  refine names_of_exits (pairs.hostExits_ne facts) ?_
  intro other
  rw [List.mem_append, List.mem_map_of_injective liveHostMasquerade_injective]
  simp [uncounted, fallback, host, real]

end Loaded

theorem liveRules_load_filter (config : AppConfig) (host : HostState) (resolved : ResolvedTargets)
    (hostSplitRoutes : List String) (chain : String) :
    liveRules (host.load (rulesetOf config resolved hostSplitRoutes)).inet (filterTable config) chain =
      (rulesetOf config resolved hostSplitRoutes).chainRules chain := by
  simp [liveRules, HostState.load, rulesetOf, Ruleset.chainRules]

theorem liveRules_load_nat (config : AppConfig) (host : HostState) (resolved : ResolvedTargets)
    (hostSplitRoutes : List String) :
    liveRules (host.load (rulesetOf config resolved hostSplitRoutes)).ip (natTable config)
        "postrouting" =
      (natRules config resolved).map readRule := by
  have named : (rulesetOf config resolved hostSplitRoutes).nat.name = natTable config := rfl
  simp [liveRules, HostState.load, named, nat_eq_liveNat, liveNat, Table.rulesOf]

theorem rulesName_load {files : Files} {config : AppConfig} {outbound : Option String}
    {ruleset : Ruleset} (facts : config.Facts) (active : upstreamActive config = true)
    (rendered : render files config outbound = .ok ruleset) (host : HostState) :
    RulesName config (host.load ruleset) (resolvedInterface config outbound) := by
  obtain ⟨_, split, resolution, -, rfl⟩ := render_ok rendered
  obtain ⟨routes, domains, named, kept, -, -, pairs, rfl⟩ := resolveTargets_ok resolution
  constructor
  · intro client
    rw [liveRules_load_filter, chainRules_forward]
    exact names_forward pairs facts active _ routes domains client
  · intro client
    rw [liveRules_load_nat]
    exact names_masquerade pairs facts active _ routes domains client
  · intro hostTraffic
    rw [liveRules_load_filter, chainRules_postrouting, if_pos (by simp [hostPoliced, active, hostTraffic])]
    exact names_postrouting pairs facts active _ routes domains hostTraffic
  · intro hostTraffic real
    rw [liveRules_load_nat]
    exact names_hostMasquerade pairs facts _ routes domains hostTraffic real

theorem RulesName.congr {config : AppConfig} {host other : HostState} {interface : String}
    (names : RulesName config host interface)
    (filter : ∀ chain, liveRules other.inet (filterTable config) chain =
      liveRules host.inet (filterTable config) chain)
    (nat : other.ip = host.ip) : RulesName config other interface := by
  obtain ⟨clientDrop, clientMasquerade, hostDrop, hostMasquerade⟩ := names
  rw [← filter] at clientDrop hostDrop
  rw [← nat] at clientMasquerade hostMasquerade
  exact ⟨clientDrop, clientMasquerade, hostDrop, hostMasquerade⟩

theorem liveRules_refresh {host after : HostState} {refresh : StaticRefresh}
    (ran : host.refresh refresh = some after) (chain : String) :
    liveRules after.inet refresh.table chain = liveRules host.inet refresh.table chain ∧
      after.ip = host.ip := by
  obtain ⟨table, sets, present, -, rfl⟩ := HostState.refresh_some ran
  simp [liveRules, present, Table.rulesOf]

end Korserver
