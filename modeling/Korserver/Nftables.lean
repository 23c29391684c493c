import Korserver.NftablesCore
import Korserver.Routing

/-!
What the renderer returns: the resolved targets, and the rules of each chain of the
rendered filter table.
-/

namespace Korserver

open PythonText IpAddress PythonValue PacketFilter

theorem resolveTargets_ok {files : Files} {config : AppConfig} {outbound : Option String}
    {resolved : ResolvedTargets} (found : resolveTargets files config outbound = .ok resolved) :
    ∃ routes domains named kept,
      listRoutes files config = .ok routes ∧
      namedTargets files config = .ok named ∧
      Kept files config kept named ∧
      resolved = {
        targets := defaultTarget config (resolvedInterface config outbound) routes domains :: named
        outboundInterface := resolvedInterface config outbound
        upstreamActive := upstreamActive config } := by
  simp only [resolveTargets, bind_ok, pure_ok] at found
  obtain ⟨targets, listed, rfl⟩ := found
  obtain ⟨routes, domains, named, routesListed, namedListed, rfl⟩ := listTargets_ok listed
  obtain ⟨kept, pairs⟩ := namedTargets_kept namedListed
  exact ⟨routes, domains, named, kept, routesListed, namedListed, pairs, rfl⟩

theorem render_ok {files : Files} {config : AppConfig} {outbound : Option String}
    {ruleset : Ruleset} (rendered : render files config outbound = .ok ruleset) :
    ∃ resolved hostSplitRoutes,
      resolveTargets files config outbound = .ok resolved ∧
      hostSplitRoutesOf files config = .ok hostSplitRoutes ∧
      ruleset = rulesetOf config resolved hostSplitRoutes := by
  simp only [render, bind_ok, pure_ok] at rendered
  obtain ⟨resolved, resolution, hostSplitRoutes, listed, -, -, rfl⟩ := rendered
  exact ⟨resolved, hostSplitRoutes, resolution, listed, rfl⟩

theorem renderStaticRefresh_ok {files : Files} {config : AppConfig} {outbound : Option String}
    {refresh : StaticRefresh} (rendered : renderStaticRefresh files config outbound = .ok refresh) :
    ∃ resolved hostSplitRoutes,
      resolveTargets files config outbound = .ok resolved ∧
      hostSplitRoutesOf files config = .ok hostSplitRoutes ∧
      refresh = refreshOf config resolved.targets hostSplitRoutes := by
  simp only [renderStaticRefresh, bind_ok, pure_ok] at rendered
  obtain ⟨resolved, resolution, hostSplitRoutes, listed, rfl⟩ := rendered
  exact ⟨resolved, hostSplitRoutes, resolution, listed, rfl⟩

section Chains

variable (config : AppConfig) (resolved : ResolvedTargets) (hostSplitRoutes : List String)

theorem chainRules_prerouting :
    (rulesetOf config resolved hostSplitRoutes).chainRules "prerouting" =
      (preroutingRules config resolved.targets).map readRule := by
  simp [Ruleset.chainRules, loadedTable, Table.map, Table.rulesOf, rulesetOf, filterChains,
    preroutingChain, Chain.map, readRule]

theorem chainRules_output :
    (rulesetOf config resolved hostSplitRoutes).chainRules "output" =
      (outputRules config resolved.targets).map readRule := by
  by_cases rendered : (config.routing.hostTraffic || !(hostTargets resolved.targets).isEmpty) = true
  · simp [Ruleset.chainRules, loadedTable, Table.map, Table.rulesOf, rulesetOf, filterChains,
      preroutingChain, outputChain, Chain.map, readRule, rendered]
  · simp only [Bool.or_eq_true, Bool.not_eq_true', not_or, Bool.not_eq_true,
      Bool.not_eq_false, List.isEmpty_iff] at rendered
    obtain ⟨idle, empty⟩ := rendered
    by_cases police : (resolved.targets.any (·.killswitch)) = true <;>
      simp [Ruleset.chainRules, loadedTable, Table.map, Table.rulesOf, rulesetOf, filterChains,
        preroutingChain, forwardChain, Chain.map, outputRules, defaultHostMarking, idle, empty, police]

theorem chainRules_forward :
    (rulesetOf config resolved hostSplitRoutes).chainRules "forward" =
      (forwardRules resolved.targets).map readRule := by
  by_cases policed : (resolved.targets.any (·.killswitch)) = true
  · by_cases marked : (config.routing.hostTraffic || !(hostTargets resolved.targets).isEmpty) = true <;>
      simp [Ruleset.chainRules, loadedTable, Table.map, Table.rulesOf, rulesetOf, filterChains,
        preroutingChain, outputChain, forwardChain, Chain.map, readRule, policed, marked]
  · have none : forwardRules resolved.targets = [] := by
      simp only [List.any_eq_true, not_exists, not_and] at policed
      simpa [forwardRules] using policed
    by_cases marked : (config.routing.hostTraffic || !(hostTargets resolved.targets).isEmpty) = true <;>
      by_cases host : ((resolved.upstreamActive && config.routing.hostTraffic) ||
        !(hostTargets resolved.targets).isEmpty) = true <;>
      simp [Ruleset.chainRules, loadedTable, Table.map, Table.rulesOf, rulesetOf, filterChains,
        preroutingChain, outputChain, postroutingChain, Chain.map, policed, marked, host, none]

def hostPoliced : Bool :=
  (resolved.upstreamActive && config.routing.hostTraffic) || !(hostTargets resolved.targets).isEmpty

theorem chainRules_postrouting :
    (rulesetOf config resolved hostSplitRoutes).chainRules "postrouting" =
      if hostPoliced config resolved then (postroutingRules config resolved).map readRule else [] := by
  unfold hostPoliced
  by_cases marked : (config.routing.hostTraffic || !(hostTargets resolved.targets).isEmpty) = true <;>
    by_cases policed : (resolved.targets.any (·.killswitch)) = true <;>
    by_cases host : ((resolved.upstreamActive && config.routing.hostTraffic) ||
      !(hostTargets resolved.targets).isEmpty) = true <;>
    simp [Ruleset.chainRules, loadedTable, Table.map, Table.rulesOf, rulesetOf, filterChains,
      preroutingChain, outputChain, forwardChain, postroutingChain, Chain.map, readRule, marked,
      policed, host]

end Chains

/-! A configuration with one profile that has client and host routes of its own. -/

def sampleConfig : AppConfig where
  upstream := {
    enabled := true
    profiles := [{
      name := "work"
      server := "vpn.work.test"
      username := some "user"
      routes := ["10.50.0.0/16"]
      routeHostEnabled := true
      hostRoutes := ["10.60.0.0/16"] }] }
  routing := { hostTraffic := true }

theorem sampleConfig_valid : sampleConfig.Valid := ⟨fun _ => false, by decide⟩

def sampleTargets : List RoutingTarget :=
  match listTargets {} sampleConfig "oc-middle0" with
  | .ok targets => targets
  | .error _ => []

def sampleResolved : ResolvedTargets where
  targets := sampleTargets
  outboundInterface := "oc-middle0"
  upstreamActive := true

def sampleRuleset : Ruleset := rulesetOf sampleConfig sampleResolved []

theorem sampleResolved_ok : resolveTargets {} sampleConfig none = .ok sampleResolved := rfl

theorem sampleRuleset_ok : render {} sampleConfig none = .ok sampleRuleset := rfl

end Korserver
