import Korserver.RulesetFields
import Korserver.SetRefresh

/-!
The static refresh against the full definition. The refresh is chosen by comparing set
names alone, and writes set elements alone: it gives what a full load would give exactly
when nothing that only the chains and NAT rules read has changed.
-/

namespace Korserver

open PythonText PythonValue IpAddress PacketFilter

/-- What the chains and NAT rules of two configurations read is the same. The interfaces are
the resolved outbound ones, the lists the named targets. -/
structure SameRules (old : AppConfig) (oldInterface : String) (oldNamed : List RoutingTarget)
    (new : AppConfig) (newInterface : String) (newNamed : List RoutingTarget) : Prop where
  nftPrefix : old.routing.nftPrefix = new.routing.nftPrefix
  network : ipNetwork old.server.ipv4Network = ipNetwork new.server.ipv4Network
  clientTraffic : old.routing.clientTraffic = new.routing.clientTraffic
  mode : new.routing.clientTraffic = true → old.routing.mode = new.routing.mode
  hostTraffic : old.routing.hostTraffic = new.routing.hostTraffic
  hostMode : new.routing.hostTraffic = true → old.routing.hostMode = new.routing.hostMode
  fwmark : new.routing.clientTraffic = true ∨ new.routing.hostTraffic = true →
    intLiteral old.routing.fwmark = intLiteral new.routing.fwmark
  upstreamActive : new.routing.clientTraffic = true ∨ new.routing.hostTraffic = true →
    upstreamActive old = upstreamActive new
  defaultInterface :
    defaultTargetInterface old oldInterface = defaultTargetInterface new newInterface
  hostInterface : new.routing.hostTraffic = true → oldInterface = newInterface
  policed : oldNamed.map RoutingTarget.exit = newNamed.map RoutingTarget.exit
  masqueraded : (oldNamed.filter RoutingTarget.isNamed).map RoutingTarget.exit =
    (newNamed.filter RoutingTarget.isNamed).map RoutingTarget.exit
  clients :
    (oldNamed.filter (marksClients old)).map (fun target => (clientSetNames target, target.exit.mark)) =
      (newNamed.filter (marksClients new)).map fun target => (clientSetNames target, target.exit.mark)
  hosts :
    (hostTargets oldNamed).map (fun target => (hostSetNames target, target.exit)) =
      (hostTargets newNamed).map fun target => (hostSetNames target, target.exit)

theorem map_eq_of_map_eq {α β γ : Type} {first first' : α → β} {second second' : α → γ}
    (determined : ∀ item other, first item = first' other → second item = second' other)
    {items items' : List α} (same : items.map first = items'.map first') :
    items.map second = items'.map second' := by
  induction items generalizing items' with
  | nil =>
      obtain rfl : items' = [] := by simpa using same.symm
      rfl
  | cons item rest ih =>
      cases items' with
      | nil => simp at same
      | cons other rest' =>
          simp only [List.map_cons, List.cons.injEq] at same ⊢
          exact ⟨determined item other same.1, ih same.2⟩

section Decode

variable {oldFiles files : Files} {old new : AppConfig} {kept kept' : List UpstreamProfileConfig}
  {oldNamed newNamed : List RoutingTarget} {oldInterface newInterface : String}
  {oldRoutes oldDomains routes domains : List String}

theorem natRules_tell
    (same : (natRules old (resolvedOf old oldInterface oldRoutes oldDomains oldNamed)).map readRule =
      (natRules new (resolvedOf new newInterface routes domains newNamed)).map readRule) :
    ipNetwork old.server.ipv4Network = ipNetwork new.server.ipv4Network ∧
    defaultPoliced old = defaultPoliced new ∧
    defaultTargetInterface old oldInterface = defaultTargetInterface new newInterface ∧
    (defaultPoliced new = true → defaultExit old oldInterface = defaultExit new newInterface) ∧
    (oldNamed.filter RoutingTarget.isNamed).map RoutingTarget.exit =
      (newNamed.filter RoutingTarget.isNamed).map RoutingTarget.exit ∧
    (if old.routing.hostTraffic && oldInterface ≠ "auto" then [hostExit old oldInterface] else []) ++
        (hostTargets oldNamed).map RoutingTarget.exit =
      (if new.routing.hostTraffic && newInterface ≠ "auto" then [hostExit new newInterface] else []) ++
        (hostTargets newNamed).map RoutingTarget.exit := by
  rw [natRules_read, natRules_read] at same
  have uncounted {network : Option Network} {exits : List Exit} {policed : Bool} {exit : Exit} :
      ∀ rule ∈ exits.map (liveMasquerade network) ++ [liveFallback network policed exit],
        (!rule.counter) = true := by
    intro rule member
    rcases List.mem_append.mp member with marked | last
    · obtain ⟨other, -, rfl⟩ := List.mem_map.mp marked
      rfl
    · obtain rfl := List.mem_singleton.mp last
      rfl
  have counted {exits : List Exit} : ∀ rule ∈ exits.map liveHostMasquerade,
      (!rule.counter) = false := by
    intro rule member
    obtain ⟨exit, -, rfl⟩ := List.mem_map.mp member
    rfl
  obtain ⟨clients, hosts⟩ :=
    append_inj_of_kind (fun rule => !rule.counter) same uncounted counted uncounted counted
  obtain ⟨marked, fallback⟩ := List.append_inj' clients rfl
  obtain ⟨network, policed, default⟩ := liveFallback_eq.mp (List.cons.inj fallback).1
  rw [network] at marked
  have exits := List.map_injective_iff.mpr (liveMasquerade_injective _) marked
  have hostExits := List.map_injective_iff.mpr liveHostMasquerade_injective hosts
  rw [policed] at exits default
  cases policedNew : defaultPoliced new with
  | true =>
      simp only [policedNew, if_true] at exits
      obtain ⟨named, exit⟩ := List.append_inj' exits rfl
      have exit := (List.cons.inj exit).1
      exact ⟨network, policed.trans policedNew, congrArg Exit.device exit, fun _ => exit, named,
        hostExits⟩
  | false =>
      simp only [policedNew, Bool.false_eq_true, if_false, List.append_nil] at exits default
      exact ⟨network, policed.trans policedNew, default, by simp, exits, hostExits⟩

theorem defaultHostBlock_tells (same : defaultHostBlock old = defaultHostBlock new) :
    old.routing.hostTraffic = new.routing.hostTraffic ∧
      (new.routing.hostTraffic = true → old.routing.hostMode = new.routing.hostMode ∧
        intLiteral old.routing.fwmark = intLiteral new.routing.fwmark) := by
  cases traffic : old.routing.hostTraffic <;> cases traffic' : new.routing.hostTraffic <;>
    cases mode : old.routing.hostMode <;> cases mode' : new.routing.hostMode <;>
    simp [defaultHostBlock, defaultHostMarking, traffic, traffic', mode, mode', hostMarkV4, hostMarkV6,
      readRule, Rule.map, Test.map, Action.map] at same ⊢ <;>
    simp [same]

theorem clientBlock_default_tells
    (same : clientBlock old (defaultTarget old oldInterface oldRoutes oldDomains) =
      clientBlock new (defaultTarget new newInterface routes domains)) :
    old.routing.clientTraffic = new.routing.clientTraffic ∧
      (new.routing.clientTraffic = true → old.routing.mode = new.routing.mode ∧
        intLiteral old.routing.fwmark = intLiteral new.routing.fwmark) := by
  cases traffic : old.routing.clientTraffic <;> cases traffic' : new.routing.clientTraffic <;>
    cases mode : old.routing.mode <;> cases mode' : new.routing.mode <;>
    simp [clientBlock, clientMarking, defaultTarget, traffic, traffic', mode, mode', splitMarking,
      markRule, readRule, Rule.map, Test.map, Action.map] at same ⊢ <;>
    simp [same]

theorem hostPoliced_resolvedOf (config : AppConfig) (interface : String)
    (routes domains : List String) (named : List RoutingTarget) :
    hostPoliced config (resolvedOf config interface routes domains named) =
      (hostPolicedOf config || !(hostTargets named).isEmpty) := by
  rw [hostPoliced, hostTargets_resolvedOf]
  rfl

theorem postrouting_length (config : AppConfig) (interface : String)
    (routes domains hostSplitRoutes : List String) (named : List RoutingTarget) :
    ((rulesetOf config (resolvedOf config interface routes domains named)
        hostSplitRoutes).chainRules "postrouting").length =
      if hostPolicedOf config then (hostTargets named).length + 2
      else if (hostTargets named).length = 0 then 0 else (hostTargets named).length + 1 := by
  rw [chainRules_postrouting, hostPoliced_resolvedOf, postroutingRules_read]
  cases hostPolicedOf config <;> cases hostTargets named <;> simp

section Rules

variable (pairs : Kept oldFiles old kept oldNamed) (pairs' : Kept files new kept' newNamed)

include pairs pairs'

theorem preroutingRules_tell
    (same : (preroutingRules old
        (resolvedOf old oldInterface oldRoutes oldDomains oldNamed).targets).map readRule =
      (preroutingRules new (resolvedOf new newInterface routes domains newNamed).targets).map readRule) :
    clientBlock old (defaultTarget old oldInterface oldRoutes oldDomains) =
      clientBlock new (defaultTarget new newInterface routes domains) ∧
    (oldNamed.filter (marksClients old)).map (fun target => (clientSetNames target, target.exit.mark)) =
      (newNamed.filter (marksClients new)).map fun target =>
        (clientSetNames target, target.exit.mark) := by
  have own {files : Files} {config : AppConfig} {kept : List UpstreamProfileConfig}
      {named : List RoutingTarget} (pairs : Kept files config kept named) :
      ∀ rule ∈ (named.filter (marksClients config)).flatMap fun target =>
        (splitMarking target).map readRule, readsOnly defaultClientSets rule = false := by
    intro rule member
    obtain ⟨target, inNamed, member⟩ := List.mem_flatMap.mp member
    obtain ⟨profile, -, from'⟩ := pairs.profileOf (List.mem_of_mem_filter inNamed)
    exact splitMarking_readsOnly from'.clientSetNames_own rule member
  rw [preroutingRules_read pairs, preroutingRules_read pairs'] at same
  obtain ⟨default, named⟩ := append_inj_of_kind (readsOnly defaultClientSets) same
    (clientBlock_default_readsOnly _ _ _ _) (own pairs) (clientBlock_default_readsOnly _ _ _ _)
    (own pairs')
  have sized (target : RoutingTarget) : ((splitMarking target).map readRule).length = 4 := rfl
  exact ⟨default, map_eq_of_map_eq (fun _ _ => splitMarking_eq.mp)
    (map_eq_of_flatMap_eq (by omega) sized sized named)⟩

theorem outputRules_tell
    (same : (outputRules old
        (resolvedOf old oldInterface oldRoutes oldDomains oldNamed).targets).map readRule =
      (outputRules new (resolvedOf new newInterface routes domains newNamed).targets).map readRule) :
    defaultHostBlock old = defaultHostBlock new ∧
    (hostTargets oldNamed).map hostSetNames = (hostTargets newNamed).map hostSetNames := by
  have own {files : Files} {config : AppConfig} {kept : List UpstreamProfileConfig}
      {named : List RoutingTarget} (pairs : Kept files config kept named) :
      ∀ rule ∈ (hostTargets named).flatMap (hostBlock config),
        readsOnly hostSplitSetNames rule = false := by
    intro rule member
    obtain ⟨target, inHosts, member⟩ := List.mem_flatMap.mp member
    obtain ⟨inNamed, host⟩ := List.mem_filter.mp inHosts
    obtain ⟨profile, -, from'⟩ := pairs.profileOf inNamed
    exact hostBlock_readsOnly config (from'.hostSetNames_own host) rule member
  rw [outputRules_read, outputRules_read] at same
  obtain ⟨default, hosts⟩ := append_inj_of_kind (readsOnly hostSplitSetNames) same
    (defaultHostBlock_readsOnly old) (own pairs) (defaultHostBlock_readsOnly new) (own pairs')
  have sized (config : AppConfig) (target : RoutingTarget) :
      (hostBlock config target).length = 4 := rfl
  refine ⟨default, map_eq_of_map_eq ?_ (map_eq_of_flatMap_eq (by omega) (sized old) (sized new) hosts)⟩
  intro target other block
  exact (hostMarking_eq.mp block).2.1

theorem sameRules_of_chainRules {oldSplit split : List String}
    (nftPrefix : old.routing.nftPrefix = new.routing.nftPrefix)
    (chains : ∀ name,
      (rulesetOf old (resolvedOf old oldInterface oldRoutes oldDomains oldNamed) oldSplit).chainRules
          name =
        (rulesetOf new (resolvedOf new newInterface routes domains newNamed) split).chainRules name)
    (nat : (natRules old (resolvedOf old oldInterface oldRoutes oldDomains oldNamed)).map readRule =
      (natRules new (resolvedOf new newInterface routes domains newNamed)).map readRule) :
    SameRules old oldInterface oldNamed new newInterface newNamed := by
  obtain ⟨network, defaultPolice, defaultInterface, defaultOut, masqueraded, hostOut⟩ :=
    natRules_tell nat
  have output := chains "output"
  rw [chainRules_output, chainRules_output] at output
  obtain ⟨defaultHost, hostNames⟩ := outputRules_tell pairs pairs' output
  obtain ⟨hostTraffic, host⟩ := defaultHostBlock_tells defaultHost
  have prerouting := chains "prerouting"
  rw [chainRules_prerouting, chainRules_prerouting] at prerouting
  obtain ⟨defaultClient, clients⟩ := preroutingRules_tell pairs pairs' prerouting
  obtain ⟨clientTraffic, client⟩ := clientBlock_default_tells defaultClient
  have hostCount : (hostTargets oldNamed).length = (hostTargets newNamed).length := by
    have lengths := congrArg List.length hostNames
    simpa using lengths
  -- As many hosts on both sides: what precedes them in the NAT chain is as long.
  obtain ⟨ownOut, hostExits⟩ := List.append_inj' hostOut (by simp [hostCount])
  have forward := chains "forward"
  rw [chainRules_forward, chainRules_forward, forwardRules_read pairs, forwardRules_read pairs'] at forward
  have exits := List.map_injective_iff.mpr liveDrop_injective forward
  have policed : oldNamed.map RoutingTarget.exit = newNamed.map RoutingTarget.exit := by
    rw [defaultPolice] at exits
    cases police : defaultPoliced new with
    | true => simpa [police, defaultOut police] using exits
    | false => simpa [police] using exits
  have hostPolice : hostPolicedOf old = hostPolicedOf new := by
    have lengths := congrArg List.length (chains "postrouting")
    rw [postrouting_length, postrouting_length, hostCount] at lengths
    cases police : hostPolicedOf old <;> cases police' : hostPolicedOf new <;>
      simp only [police, police', if_true, if_false, Bool.false_eq_true] at lengths ⊢ <;>
      split at lengths <;> omega
  have active : new.routing.clientTraffic = true ∨ new.routing.hostTraffic = true →
      upstreamActive old = upstreamActive new := by
    rintro (traffic | traffic)
    · simpa [defaultPoliced, clientTraffic, traffic] using defaultPolice
    · simpa [hostPolicedOf, hostTraffic, traffic] using hostPolice
  have hostInterface : new.routing.hostTraffic = true → oldInterface = newInterface := by
    intro traffic
    rw [hostTraffic, traffic] at ownOut
    by_cases auto : oldInterface = "auto" <;> by_cases auto' : newInterface = "auto" <;>
      simp [auto, auto', hostExit] at ownOut ⊢
    exact ownOut.2
  exact {
    nftPrefix, network, clientTraffic
    mode := fun traffic => (client traffic).1
    hostTraffic
    hostMode := fun traffic => (host traffic).1
    fwmark := fun traffic => traffic.elim (fun traffic => (client traffic).2) fun traffic =>
      (host traffic).2
    upstreamActive := active
    defaultInterface, hostInterface, policed, masqueraded, clients
    hosts := map_pair hostNames hostExits }

end Rules

section Encode

variable (same : SameRules old oldInterface oldNamed new newInterface newNamed)

include same

theorem SameRules.defaultPoliced : defaultPoliced old = defaultPoliced new := by
  rw [Korserver.defaultPoliced, Korserver.defaultPoliced, same.clientTraffic]
  cases traffic : new.routing.clientTraffic with
  | true => rw [same.upstreamActive (Or.inl traffic)]
  | false => simp

theorem SameRules.hostPolicedOf : hostPolicedOf old = hostPolicedOf new := by
  rw [Korserver.hostPolicedOf, Korserver.hostPolicedOf, same.hostTraffic]
  cases traffic : new.routing.hostTraffic with
  | true => rw [same.upstreamActive (Or.inr traffic)]
  | false => simp

theorem SameRules.defaultExit (policed : Korserver.defaultPoliced new = true) :
    defaultExit old oldInterface = defaultExit new newInterface := by
  simp only [Korserver.defaultPoliced, Bool.and_eq_true] at policed
  rw [Korserver.defaultExit, Korserver.defaultExit, same.fwmark (Or.inl policed.2),
    same.defaultInterface]

theorem SameRules.hostExit (traffic : new.routing.hostTraffic = true) :
    hostExit old oldInterface = hostExit new newInterface := by
  rw [Korserver.hostExit, Korserver.hostExit, same.fwmark (Or.inr traffic),
    same.hostInterface traffic]

theorem SameRules.hostExits :
    (hostTargets oldNamed).map RoutingTarget.exit = (hostTargets newNamed).map RoutingTarget.exit :=
  map_eq_of_map_eq (fun _ _ pair => congrArg Prod.snd pair) same.hosts

theorem SameRules.natRules :
    (natRules old (resolvedOf old oldInterface oldRoutes oldDomains oldNamed)).map readRule =
      (natRules new (resolvedOf new newInterface routes domains newNamed)).map readRule := by
  have default : (if Korserver.defaultPoliced old then [Korserver.defaultExit old oldInterface] else []) =
      if Korserver.defaultPoliced new then [Korserver.defaultExit new newInterface] else [] := by
    rw [same.defaultPoliced]
    cases policed : Korserver.defaultPoliced new with
    | true => rw [same.defaultExit policed]
    | false => rfl
  have fallback : liveFallback (ipNetwork old.server.ipv4Network) (Korserver.defaultPoliced old)
        (Korserver.defaultExit old oldInterface) =
      liveFallback (ipNetwork new.server.ipv4Network) (Korserver.defaultPoliced new)
        (Korserver.defaultExit new newInterface) := by
    refine liveFallback_eq.mpr ⟨same.network, same.defaultPoliced, ?_⟩
    rw [same.defaultPoliced]
    cases policed : Korserver.defaultPoliced new with
    | true => exact congrArg Exit.mark (same.defaultExit policed)
    | false => exact same.defaultInterface
  have host : (if old.routing.hostTraffic && oldInterface ≠ "auto" then
        [Korserver.hostExit old oldInterface] else []) =
      if new.routing.hostTraffic && newInterface ≠ "auto" then
        [Korserver.hostExit new newInterface] else [] := by
    rw [same.hostTraffic]
    cases traffic : new.routing.hostTraffic with
    | true => rw [same.hostExit traffic, same.hostInterface traffic]
    | false => rfl
  rw [natRules_read, natRules_read, same.masqueraded, default, fallback, host, same.hostExits,
    same.network]

theorem SameRules.preroutingRules (pairs : Kept oldFiles old kept oldNamed)
    (pairs' : Kept files new kept' newNamed) :
    (preroutingRules old
        (resolvedOf old oldInterface oldRoutes oldDomains oldNamed).targets).map readRule =
      (preroutingRules new (resolvedOf new newInterface routes domains newNamed).targets).map
        readRule := by
  have default : clientBlock old (defaultTarget old oldInterface oldRoutes oldDomains) =
      clientBlock new (defaultTarget new newInterface routes domains) := by
    cases traffic : new.routing.clientTraffic with
    | true =>
        have modes := same.mode traffic
        have marks := same.fwmark (Or.inl traffic)
        cases mode : new.routing.mode <;>
          simp [clientBlock, clientMarking, defaultTarget, same.clientTraffic, traffic, modes, mode,
            splitMarking, markRule, readRule, Rule.map, Test.map, Action.map, marks, same.network]
    | false => simp [clientBlock, clientMarking, defaultTarget, same.clientTraffic, traffic]
  have blocks := map_eq_of_map_eq (fun _ _ => splitMarking_eq.mpr) same.clients
  rw [preroutingRules_read pairs, preroutingRules_read pairs', default, List.flatMap_def, blocks,
    ← List.flatMap_def]

theorem SameRules.outputRules :
    (outputRules old (resolvedOf old oldInterface oldRoutes oldDomains oldNamed).targets).map readRule =
      (outputRules new (resolvedOf new newInterface routes domains newNamed).targets).map readRule := by
  have default : defaultHostBlock old = defaultHostBlock new := by
    cases traffic : new.routing.hostTraffic with
    | true =>
        have modes := same.hostMode traffic
        have marks := same.fwmark (Or.inr traffic)
        cases mode : new.routing.hostMode <;>
          simp [defaultHostBlock, defaultHostMarking, same.hostTraffic, traffic, modes, mode,
            hostMarkV4, hostMarkV6, readRule, Rule.map, Test.map, Action.map, marks, same.network]
    | false => simp [defaultHostBlock, defaultHostMarking, same.hostTraffic, traffic]
  have determined (target other : RoutingTarget)
      (pair : (hostSetNames target, target.exit) = (hostSetNames other, other.exit)) :
      hostBlock old target = hostBlock new other := by
    obtain ⟨names, exit⟩ := Prod.mk.inj pair
    exact hostMarking_eq.mpr ⟨same.network, names, congrArg Exit.mark exit⟩
  have blocks := map_eq_of_map_eq determined same.hosts
  rw [outputRules_read, outputRules_read, default, List.flatMap_def, blocks, ← List.flatMap_def]

theorem SameRules.forwardRules (pairs : Kept oldFiles old kept oldNamed)
    (pairs' : Kept files new kept' newNamed) :
    (forwardRules (resolvedOf old oldInterface oldRoutes oldDomains oldNamed).targets).map readRule =
      (forwardRules (resolvedOf new newInterface routes domains newNamed).targets).map readRule := by
  rw [forwardRules_read pairs, forwardRules_read pairs', same.policed, same.defaultPoliced]
  cases policed : Korserver.defaultPoliced new with
  | true => rw [same.defaultExit policed]
  | false => rfl

theorem SameRules.postroutingRules :
    (postroutingRules old (resolvedOf old oldInterface oldRoutes oldDomains oldNamed)).map readRule =
      (postroutingRules new (resolvedOf new newInterface routes domains newNamed)).map readRule := by
  rw [postroutingRules_read, postroutingRules_read, same.hostExits, same.hostPolicedOf]
  cases policed : Korserver.hostPolicedOf new with
  | true =>
      simp only [Korserver.hostPolicedOf, Bool.and_eq_true] at policed
      rw [same.hostExit policed.2]
  | false => rfl

theorem SameRules.chainRules {oldSplit split : List String} (pairs : Kept oldFiles old kept oldNamed)
    (pairs' : Kept files new kept' newNamed) :
    liveChains (rulesetOf old (resolvedOf old oldInterface oldRoutes oldDomains oldNamed)
        oldSplit).chainRules =
      liveChains (rulesetOf new (resolvedOf new newInterface routes domains newNamed)
        split).chainRules := by
  have hosts : (hostTargets oldNamed).isEmpty = (hostTargets newNamed).isEmpty := by
    have lengths := congrArg List.isEmpty same.hosts
    simpa using lengths
  have policed : hostPoliced old (resolvedOf old oldInterface oldRoutes oldDomains oldNamed) =
      hostPoliced new (resolvedOf new newInterface routes domains newNamed) := by
    rw [hostPoliced_resolvedOf, hostPoliced_resolvedOf, same.hostPolicedOf, hosts]
  refine liveChains_congr ?_ ?_ ?_ ?_
  · rw [chainRules_prerouting, chainRules_prerouting]
    exact same.preroutingRules pairs pairs'
  · rw [chainRules_output, chainRules_output]
    exact same.outputRules
  · rw [chainRules_forward, chainRules_forward]
    exact same.forwardRules pairs pairs'
  · rw [chainRules_postrouting, chainRules_postrouting, policed]
    split
    · exact same.postroutingRules
    · rfl

end Encode

end Decode

def SameTable (table : LiveTable) (filter : ScriptTable) (contents : String → List String) : Prop :=
  table.name = filter.name ∧ table.chains = (loadedTable filter).chains ∧
    ∀ name, findSet name table.sets = findSet name (filter.sets.map (keepDynamic contents))

/-- The live tables that a configuration calls its own are those of a ruleset, except that the
dynamic sets hold `contents`. -/
structure HostState.Holds (host : HostState) (config : AppConfig) (ruleset : Ruleset)
    (contents : String → List String) : Prop where
  filter : ∃ table, host.inet (filterTable config) = some table ∧
    SameTable table ruleset.filter contents
  nat : host.ip (natTable config) = some (loadedTable ruleset.nat)

theorem sameMembers_iff {xs ys : List String} (same : sameMembers xs ys = true) (name : String) :
    name ∈ xs ↔ name ∈ ys := by
  simp only [sameMembers, Bool.and_eq_true, List.all_eq_true, decide_eq_true_eq] at same
  exact ⟨same.1 name, same.2 name⟩

theorem staticSetsReady_true {answers : Answers} {files : Files} {config : AppConfig}
    {outbound : Option String} {host : HostState} {resolved : ResolvedTargets} {table : LiveTable}
    (ready : staticSetsReady answers files config outbound host = .ok true)
    (resolution : resolveTargets files config outbound = .ok resolved)
    (present : host.inet (filterTable config) = some table) (name : String) :
    name ∈ table.sets.map (·.name) ↔ name ∈ setNamesOf config resolved.targets := by
  simp only [staticSetsReady, expectedSetNames, resolution, present, bind_ok, pure_ok,
    Except.ok.injEq] at ready
  obtain ⟨expected, ⟨_, rfl, rfl⟩, same⟩ := ready
  simp only [Bool.and_eq_true] at same
  exact sameMembers_iff same.2 name

/-- Which of the inputs of two renderings only the chains and NAT rules read is unchanged. -/
def RulesUnchanged (oldFiles : Files) (old : AppConfig) (oldOutbound : Option String)
    (files : Files) (new : AppConfig) (outbound : Option String) : Prop :=
  ∃ oldNamed newNamed, namedTargets oldFiles old = .ok oldNamed ∧
    namedTargets files new = .ok newNamed ∧
    SameRules old (resolvedInterface old oldOutbound) oldNamed new (resolvedInterface new outbound)
      newNamed

/-- A refresh that ran gave every set the elements of the full definition, and touched nothing
but the sets of one table. -/
theorem refreshed_sets {answers : Answers} {oldFiles files : Files} {old new : AppConfig}
    {oldOutbound outbound : Option String} {loaded wanted : Ruleset} {before after : HostState}
    {table : LiveTable} {contents : String → List String} (valid : new.Valid)
    (oldRendered : render oldFiles old oldOutbound = .ok loaded)
    (rendered : render files new outbound = .ok wanted)
    (present : before.inet (filterTable new) = some table)
    (live : ∀ name, findSet name table.sets =
      findSet name (loaded.filter.sets.map (keepDynamic contents)))
    (ran : applyRuleset answers files new outbound before = .ok (.refreshed, after)) :
    ∃ sets, after = { before with
        inet := Function.update before.inet (filterTable new) (some { table with sets }) } ∧
      ∀ name, findSet name sets = findSet name (wanted.filter.sets.map (keepDynamic contents)) := by
  obtain ⟨_, oldSplit, oldResolution, -, rfl⟩ := render_ok oldRendered
  obtain ⟨_, split, resolution, splitListed, rfl⟩ := render_ok rendered
  obtain ⟨oldRoutes, oldDomains, oldNamed, oldKept, -, -, oldPairs, rfl⟩ :=
    resolveTargets_ok oldResolution
  rcases applyRuleset_cases ran with ⟨-, refresh, ready, refreshRendered, -, ran⟩ | ⟨impossible, -⟩ |
    ⟨impossible, -⟩
  · obtain ⟨_, refreshSplit, refreshResolution, refreshListed, rfl⟩ :=
      renderStaticRefresh_ok refreshRendered
    obtain rfl := Except.ok.inj (resolution.symm.trans refreshResolution)
    obtain rfl := Except.ok.inj (splitListed.symm.trans refreshListed)
    have names := staticSetsReady_true ready resolution present
    obtain ⟨routes, domains, named, kept, -, -, pairs, rfl⟩ := resolveTargets_ok resolution
    obtain ⟨_, sets, present', commands, rfl⟩ := HostState.refresh_some ran
    obtain rfl := Option.some.inj (present.symm.trans present')
    refine ⟨sets, rfl, ?_⟩
    rw [pairs.refresh_commands] at commands
    have distinct := pairs.declaredNames_nodup valid.facts (resolvedInterface new outbound) routes domains
    simp only [← pairs.declaredNames _ routes domains split] at names distinct
    refine refreshedSets distinct live names ?_ commands
    intro set inOld other inNew same
    obtain ⟨name, text, family⟩ := oldPairs.set_name inOld
    obtain ⟨name', text', family'⟩ := pairs.set_name inNew
    have equal : name = name' := SetName.text_injective (text.trans (same.trans text'.symm))
    rw [← family, ← family', equal]
  · simp at impossible
  · simp at impossible

theorem filterTable_inj {old new : AppConfig} (same : filterTable old = filterTable new) :
    old.routing.nftPrefix = new.routing.nftPrefix := by
  have chars := congrArg String.toList same
  simp only [filterTable, String.toList_append] at chars
  exact String.toList_inj.mp (List.append_cancel_right chars)

section Rulesets

variable {oldFiles files : Files} {old new : AppConfig} {oldOutbound outbound : Option String}
  {loaded wanted : Ruleset}

/-- What a static refresh leaves as it was is what the full definition says exactly when the
inputs of the rules are unchanged. -/
theorem sameRules_iff (oldRendered : render oldFiles old oldOutbound = .ok loaded)
    (rendered : render files new outbound = .ok wanted) :
    loaded.filter.name = wanted.filter.name ∧
        (loadedTable loaded.filter).chains = (loadedTable wanted.filter).chains ∧
        loadedTable loaded.nat = loadedTable wanted.nat ↔
      RulesUnchanged oldFiles old oldOutbound files new outbound := by
  obtain ⟨_, oldSplit, oldResolution, -, rfl⟩ := render_ok oldRendered
  obtain ⟨_, split, resolution, -, rfl⟩ := render_ok rendered
  obtain ⟨oldRoutes, oldDomains, oldNamed, oldKept, -, oldListed, oldPairs, rfl⟩ :=
    resolveTargets_ok oldResolution
  obtain ⟨routes, domains, named, kept, -, listed, pairs, rfl⟩ := resolveTargets_ok resolution
  constructor
  · rintro ⟨names, chains, nat⟩
    refine ⟨oldNamed, named, oldListed, listed, ?_⟩
    have rules : ∀ name,
        (rulesetOf old (resolvedOf old (resolvedInterface old oldOutbound) oldRoutes oldDomains
            oldNamed) oldSplit).chainRules name =
          (rulesetOf new (resolvedOf new (resolvedInterface new outbound) routes domains named)
            split).chainRules name := by
      intro name
      exact congrArg (fun chains : List LiveChain =>
        ((chains.find? (·.name = name)).map (·.rules)).getD []) chains
    rw [nat_eq_liveNat, nat_eq_liveNat, liveNat_eq] at nat
    exact sameRules_of_chainRules oldPairs pairs (filterTable_inj names) rules nat.2
  · rintro ⟨_, _, oldListed', listed', same⟩
    obtain rfl := Except.ok.inj (oldListed.symm.trans oldListed')
    obtain rfl := Except.ok.inj (listed.symm.trans listed')
    refine ⟨?_, ?_, ?_⟩
    · simp only [rulesetOf, filterTable, same.nftPrefix]
    · rw [chains_eq_liveChains, chains_eq_liveChains]
      exact same.chainRules oldPairs pairs
    · rw [nat_eq_liveNat, nat_eq_liveNat, liveNat_eq]
      exact ⟨by rw [natTable, natTable, same.nftPrefix], same.natRules⟩

end Rulesets

theorem staticRefresh_iff {answers : Answers} {oldFiles files : Files} {old new : AppConfig}
    {oldOutbound outbound : Option String} {loaded wanted : Ruleset} {before after : HostState}
    {contents : String → List String} (valid : new.Valid)
    (oldRendered : render oldFiles old oldOutbound = .ok loaded)
    (rendered : render files new outbound = .ok wanted) (live : before.Holds new loaded contents)
    (ran : applyRuleset answers files new outbound before = .ok (.refreshed, after)) :
    after.Holds new wanted contents ↔
      RulesUnchanged oldFiles old oldOutbound files new outbound := by
  obtain ⟨⟨table, present, tableName, tableChains, tableSets⟩, nat⟩ := live
  obtain ⟨sets, rfl, refreshed⟩ := refreshed_sets valid oldRendered rendered present tableSets ran
  rw [← sameRules_iff oldRendered rendered]
  constructor
  · rintro ⟨⟨table', present', name, chains, -⟩, nat'⟩
    have same : { table with sets } = table' := by simpa using present'
    rw [← same] at name chains
    exact ⟨tableName.symm.trans name, tableChains.symm.trans chains,
      Option.some.inj (nat.symm.trans nat')⟩
  · rintro ⟨name, chains, nat'⟩
    refine ⟨⟨{ table with sets }, by simp, tableName.trans name, tableChains.trans chains, refreshed⟩, ?_⟩
    exact nat.trans (congrArg some nat')

/-! A switch from the first profile to the second. No set name tells the interface, so the
refresh is taken, and the forward chain still lets marked packets out through the first. -/

def plainProfile (name : String) : UpstreamProfileConfig where
  name := name
  server := "vpn.test"
  username := some "user"

def switchedConfig : AppConfig where
  upstream := { enabled := true, profiles := [plainProfile "first", plainProfile "second"] }

theorem switchedConfig_valid : switchedConfig.Valid := ⟨fun _ => false, by decide⟩

def switchedRuleset (interface : String) : Ruleset :=
  rulesetOf switchedConfig (resolvedOf switchedConfig interface [] [] []) []

def switchedHost (interface : String) : HostState := HostState.load {} (switchedRuleset interface)

theorem switchedHost_holds (interface : String) :
    (switchedHost interface).Holds switchedConfig (switchedRuleset interface) fun _ => [] := by
  have same : (switchedRuleset interface).filter.sets.map (keepDynamic fun _ => []) =
      (switchedRuleset interface).filter.sets := by
    change (switchedRuleset "").filter.sets.map (keepDynamic fun _ => []) =
      (switchedRuleset "").filter.sets
    decide
  refine ⟨⟨_, rfl, rfl, rfl, ?_⟩, rfl⟩
  intro name
  rw [same]
  rfl

def switchedAfter : HostState :=
  match applyRuleset willingAnswers {} switchedConfig (some "oc-up1") (switchedHost "oc-middle0") with
  | .ok (_, after) => after
  | .error _ => {}

theorem switched_refreshed :
    applyRuleset willingAnswers {} switchedConfig (some "oc-up1") (switchedHost "oc-middle0") =
      .ok (.refreshed, switchedAfter) := rfl

theorem switchedProfile_keepsOldRules :
    switchedConfig.Valid ∧
      render {} switchedConfig (some "oc-middle0") = .ok (switchedRuleset "oc-middle0") ∧
      render {} switchedConfig (some "oc-up1") = .ok (switchedRuleset "oc-up1") ∧
      (switchedHost "oc-middle0").Holds switchedConfig (switchedRuleset "oc-middle0") (fun _ => []) ∧
      applyRuleset willingAnswers {} switchedConfig (some "oc-up1") (switchedHost "oc-middle0") =
        .ok (.refreshed, switchedAfter) ∧
      ¬switchedAfter.Holds switchedConfig (switchedRuleset "oc-up1") fun _ => [] := by
  refine ⟨switchedConfig_valid, rfl, rfl, switchedHost_holds "oc-middle0", rfl, ?_⟩
  rintro ⟨⟨table, present, -, chains, -⟩, -⟩
  obtain rfl := Option.some.inj present
  revert chains
  decide

theorem staticRefresh_iff_sample :
    switchedAfter.Holds switchedConfig (switchedRuleset "oc-up1") (fun _ => []) ↔
      RulesUnchanged {} switchedConfig (some "oc-middle0") {} switchedConfig (some "oc-up1") :=
  staticRefresh_iff switchedConfig_valid rfl rfl (switchedHost_holds "oc-middle0") switched_refreshed

end Korserver
