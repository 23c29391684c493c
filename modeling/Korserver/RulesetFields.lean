import Korserver.KillSwitch
import Korserver.SetNames

/-!
Which data the chains and NAT rules of a loaded ruleset are made of, and that the rules
give this data back.
-/

namespace Korserver

open PythonText PythonValue IpAddress PacketFilter

theorem append_inj_of_kind {α : Type} (kind : α → Bool) {front back front' back' : List α}
    (same : front ++ back = front' ++ back')
    (inFront : ∀ item ∈ front, kind item = true) (inBack : ∀ item ∈ back, kind item = false)
    (inFront' : ∀ item ∈ front', kind item = true) (inBack' : ∀ item ∈ back', kind item = false) :
    front = front' ∧ back = back' := by
  have kept {items : List α} (all : ∀ item ∈ items, kind item = true) :
      items.filter kind = items := List.filter_eq_self.mpr all
  have dropped {items : List α} (none : ∀ item ∈ items, kind item = false) :
      items.filter kind = [] := List.filter_eq_nil_iff.mpr fun item member => by simp [none item member]
  have fronts := congrArg (List.filter kind) same
  rw [List.filter_append, List.filter_append, kept inFront, kept inFront', dropped inBack,
    dropped inBack', List.append_nil, List.append_nil] at fronts
  subst fronts
  exact ⟨rfl, List.append_cancel_left same⟩

theorem map_eq_of_flatMap_eq {α β γ : Type} {block : α → List γ} {block' : β → List γ} {size : Nat}
    (positive : 0 < size) (sized : ∀ item, (block item).length = size)
    (sized' : ∀ item, (block' item).length = size) {items : List α} {items' : List β}
    (same : items.flatMap block = items'.flatMap block') : items.map block = items'.map block' := by
  induction items generalizing items' with
  | nil =>
      cases items' with
      | nil => rfl
      | cons first rest =>
          have lengths := congrArg List.length same
          simp only [List.flatMap_nil, List.flatMap_cons, List.length_append, sized',
            List.length_nil] at lengths
          omega
  | cons item rest ih =>
      cases items' with
      | nil =>
          have lengths := congrArg List.length same
          simp only [List.flatMap_nil, List.flatMap_cons, List.length_append, sized,
            List.length_nil] at lengths
          omega
      | cons first rest' =>
          rw [List.flatMap_cons, List.flatMap_cons] at same
          obtain ⟨head, tail⟩ := List.append_inj same (by rw [sized, sized'])
          rw [List.map_cons, List.map_cons, head, ih tail]

theorem flatMap_filter {α β : Type} (keep : α → Bool) (block : α → List β) (items : List α) :
    (items.filter keep).flatMap block = items.flatMap fun item => if keep item then block item else [] := by
  induction items with
  | nil => rfl
  | cons item rest ih =>
      by_cases kept : keep item = true <;> simp [kept, ih]

theorem map_pair {α β γ : Type} {first : α → β} {second : α → γ} {items items' : List α}
    (firsts : items.map first = items'.map first) (seconds : items.map second = items'.map second) :
    items.map (fun item => (first item, second item)) =
      items'.map fun item => (first item, second item) := by
  rw [← List.zip_map', ← List.zip_map', firsts, seconds]

/-! The parts of the rules. -/

structure Exit where
  mark : Option Int
  device : String
  deriving DecidableEq

def RoutingTarget.exit (target : RoutingTarget) : Exit where
  mark := intLiteral target.fwmark
  device := target.interface

def liveDrop (exit : Exit) : LiveRule where
  tests := [.markIs exit.mark, .outputIsNot exit.device]
  counter := true
  action := .drop

theorem liveDrop_injective : Function.Injective liveDrop := by
  rintro ⟨mark, device⟩ ⟨mark', device'⟩ same
  simpa [liveDrop] using same

def liveMasquerade (network : Option Network) (exit : Exit) : LiveRule where
  tests := [.ipSource network, .markIs exit.mark, .outputIs exit.device]
  action := .masquerade

theorem liveMasquerade_injective (network : Option Network) :
    Function.Injective (liveMasquerade network) := by
  rintro ⟨mark, device⟩ ⟨mark', device'⟩ same
  simpa [liveMasquerade] using same

def liveHostMasquerade (exit : Exit) : LiveRule where
  tests := [.markIs exit.mark, .outputIs exit.device]
  counter := true
  action := .masquerade

theorem liveHostMasquerade_injective : Function.Injective liveHostMasquerade := by
  rintro ⟨mark, device⟩ ⟨mark', device'⟩ same
  simpa [liveHostMasquerade] using same

/-- The masquerading of unmarked client packets: by mark while the default target is
policed, else by device. -/
def liveFallback (network : Option Network) (policed : Bool) (exit : Exit) : LiveRule where
  tests := [.ipSource network] ++
    if policed then [.markIsNot exit.mark]
    else if exit.device ≠ "auto" then [.outputIs exit.device] else []
  action := .masquerade

theorem liveFallback_eq {network network' : Option Network} {policed policed' : Bool}
    {exit exit' : Exit} :
    liveFallback network policed exit = liveFallback network' policed' exit' ↔
      network = network' ∧ policed = policed' ∧
        (if policed then exit.mark = exit'.mark else exit.device = exit'.device) := by
  cases policed <;> cases policed' <;> by_cases auto : exit.device = "auto" <;>
    by_cases auto' : exit'.device = "auto" <;>
    simp [liveFallback, auto, auto', eq_comm]
  exact fun _ => Ne.symm auto'

def clientSetNames (target : RoutingTarget) : List String :=
  [target.setV4Static, target.setV4Dynamic, target.setV6Static, target.setV6Dynamic]

def hostSetNames (target : RoutingTarget) : List String :=
  [target.hostSetV4Static.getD "None", target.hostSetV4Dynamic.getD "None",
    target.hostSetV6Static.getD "None", target.hostSetV6Dynamic.getD "None"]

theorem splitMarking_eq {target other : RoutingTarget} :
    (splitMarking target).map readRule = (splitMarking other).map readRule ↔
      (clientSetNames target, target.exit.mark) = (clientSetNames other, other.exit.mark) := by
  simp only [splitMarking, markRule, List.map_cons, List.map_nil, readRule, Rule.map, Test.map,
    Action.map, clientSetNames, RoutingTarget.exit, List.cons.injEq, Rule.mk.injEq,
    Test.ipDestinationIn.injEq, Test.ip6DestinationIn.injEq, Action.setMark.injEq, Prod.mk.injEq,
    and_true, true_and]
  tauto

theorem hostMarking_eq {config config' : AppConfig} {target other : RoutingTarget} :
    (hostMarking config target).map readRule = (hostMarking config' other).map readRule ↔
      ipNetwork config.server.ipv4Network = ipNetwork config'.server.ipv4Network ∧
        hostSetNames target = hostSetNames other ∧ target.exit.mark = other.exit.mark := by
  simp only [hostMarking, hostMarkV4, hostMarkV6, List.map_cons, List.map_nil, readRule, Rule.map,
    Test.map, Action.map, List.cons_append, List.nil_append, hostSetNames, RoutingTarget.exit,
    List.cons.injEq, Rule.mk.injEq, Test.ipDestinationNot.injEq, Test.ipDestinationIn.injEq,
    Test.ip6DestinationIn.injEq, Action.setMark.injEq, and_true, true_and]
  tauto

/-! The rules of the chains, in these parts. -/

def defaultExit (config : AppConfig) (interface : String) : Exit where
  mark := intLiteral config.routing.fwmark
  device := defaultTargetInterface config interface

def hostExit (config : AppConfig) (interface : String) : Exit where
  mark := intLiteral config.routing.fwmark
  device := interface

def defaultPoliced (config : AppConfig) : Bool :=
  upstreamActive config && config.routing.clientTraffic

def marksClients (config : AppConfig) (target : RoutingTarget) : Bool :=
  target.isNamed || config.routing.clientTraffic

section Chains

variable {files : Files} {config : AppConfig} {kept : List UpstreamProfileConfig}
  {named : List RoutingTarget} (pairs : Kept files config kept named)
  (interface : String) (routes domains : List String)

def resolvedOf (config : AppConfig) (interface : String) (routes domains : List String)
    (named : List RoutingTarget) : ResolvedTargets where
  targets := defaultTarget config interface routes domains :: named
  outboundInterface := interface
  upstreamActive := upstreamActive config

theorem hostTargets_resolvedOf :
    hostTargets (resolvedOf config interface routes domains named).targets = hostTargets named := by
  simp [hostTargets, resolvedOf, defaultTarget, RoutingTarget.hostEnabled, truthy]

theorem defaultMasquerade_read :
    (defaultMasquerade config (defaultTarget config interface routes domains)).map readRule =
      (if defaultPoliced config then [defaultExit config interface] else []).map
        (liveMasquerade (ipNetwork config.server.ipv4Network)) ++
      [liveFallback (ipNetwork config.server.ipv4Network) (defaultPoliced config)
        (defaultExit config interface)] := by
  have killswitch : (defaultTarget config interface routes domains).killswitch =
      defaultPoliced config := rfl
  have device : (defaultTarget config interface routes domains).interface =
      (defaultExit config interface).device := rfl
  rw [defaultMasquerade, killswitch, device]
  cases defaultPoliced config with
  | true => rfl
  | false =>
      by_cases auto : (defaultExit config interface).device = "auto" <;>
        simp [auto, liveFallback] <;> rfl

theorem natRules_read :
    (natRules config (resolvedOf config interface routes domains named)).map readRule =
      (((named.filter RoutingTarget.isNamed).map RoutingTarget.exit ++
          if defaultPoliced config then [defaultExit config interface] else []).map
        (liveMasquerade (ipNetwork config.server.ipv4Network)) ++
      [liveFallback (ipNetwork config.server.ipv4Network) (defaultPoliced config)
        (defaultExit config interface)]) ++
      ((if config.routing.hostTraffic && interface ≠ "auto" then [hostExit config interface] else []) ++
        (hostTargets named).map RoutingTarget.exit).map liveHostMasquerade := by
  have named' : (resolvedOf config interface routes domains named).targets.filter
      (·.name ≠ "default") = named.filter RoutingTarget.isNamed := by
    simp only [resolvedOf, defaultTarget, ne_eq, decide_not, List.filter_cons, decide_true,
      Bool.not_true, Bool.false_eq_true, if_false]
    exact List.filter_congr fun target _ => by simp [RoutingTarget.isNamed]
  have host : (if config.routing.hostTraffic && interface ≠ "auto" then
      [masqueradeHost config.routing.fwmark interface] else []).map readRule =
      (if config.routing.hostTraffic && interface ≠ "auto" then
        [hostExit config interface] else []).map liveHostMasquerade := by
    split <;> rfl
  have outbound : (resolvedOf config interface routes domains named).outboundInterface = interface :=
    rfl
  rw [natRules, hostTargets_resolvedOf, named', outbound]
  simp only [resolvedOf, List.head?_cons, Option.toList_some, List.flatMap_cons, List.flatMap_nil,
    List.append_nil, List.map_append, defaultMasquerade_read, host, List.map_map, List.append_assoc]
  rfl

include pairs

theorem forwardRules_read :
    (forwardRules (resolvedOf config interface routes domains named).targets).map readRule =
      ((if defaultPoliced config then [defaultExit config interface] else []) ++
        named.map RoutingTarget.exit).map liveDrop := by
  have all : named.filter (·.killswitch) = named := by
    refine List.filter_eq_self.mpr ?_
    intro target member
    obtain ⟨profile, -, from'⟩ := pairs.profileOf member
    exact from'.killswitch
  have default : (defaultTarget config interface routes domains).killswitch =
      defaultPoliced config := rfl
  rw [forwardRules, resolvedOf, List.filter_cons, default, all]
  cases defaultPoliced config <;> simp only [if_true, if_false, Bool.false_eq_true, List.map_cons,
    List.nil_append, List.cons_append, List.map_map] <;> rfl

theorem clientBlock_named {target : RoutingTarget} (member : target ∈ named) :
    clientBlock config target =
      if marksClients config target then (splitMarking target).map readRule else [] := by
  obtain ⟨profile, -, from'⟩ := pairs.profileOf member
  rw [clientBlock, clientMarking, from'.mode]
  by_cases reserved : target.name = "default" <;> cases traffic : config.routing.clientTraffic <;>
    simp [marksClients, RoutingTarget.isNamed, reserved, traffic]

theorem preroutingRules_read :
    (preroutingRules config (resolvedOf config interface routes domains named).targets).map readRule =
      clientBlock config (defaultTarget config interface routes domains) ++
        (named.filter (marksClients config)).flatMap fun target =>
          (splitMarking target).map readRule := by
  have blocks : named.flatMap (clientBlock config) =
      named.flatMap fun target =>
        if marksClients config target then (splitMarking target).map readRule else [] :=
    List.flatMap_congr fun target member => clientBlock_named pairs member
  rw [preroutingRules, List.map_flatMap, flatMap_filter, ← blocks]
  rfl

omit pairs

theorem outputRules_read :
    (outputRules config (resolvedOf config interface routes domains named).targets).map readRule =
      defaultHostBlock config ++ (hostTargets named).flatMap (hostBlock config) := by
  rw [outputRules, hostTargets_resolvedOf, List.map_append, List.map_flatMap]
  rfl

def hostPolicedOf (config : AppConfig) : Bool := upstreamActive config && config.routing.hostTraffic

theorem postroutingRules_read :
    (postroutingRules config (resolvedOf config interface routes domains named)).map readRule =
      readRule acceptLoopback ::
        ((if hostPolicedOf config then [hostExit config interface] else []) ++
          (hostTargets named).map RoutingTarget.exit).map liveDrop := by
  have default : (resolvedOf config interface routes domains named).upstreamActive =
      upstreamActive config := rfl
  rw [postroutingRules, hostTargets_resolvedOf, default, ← hostPolicedOf]
  cases hostPolicedOf config <;> simp only [if_true, if_false, Bool.false_eq_true,
    List.map_cons, List.nil_append, List.cons_append, List.map_map] <;> rfl

end Chains

def setOf {Net Mark : Type} : Test Net Mark → Option String
  | .ipDestinationIn set => some set
  | .ip6DestinationIn set => some set
  | _ => none

def readsOnly (names : List String) (rule : LiveRule) : Bool :=
  rule.tests.all fun test => ((setOf test).map fun set => decide (set ∈ names)).getD true

theorem setNameOf_disjoint {scope scope' : SetScope} {owner owner' : Option String} {name : String}
    (member : name ∈ (setNameOf scope owner).map SetName.text)
    (member' : name ∈ (setNameOf scope' owner').map SetName.text) : scope = scope' ∧ owner = owner' := by
  obtain ⟨first, inFirst, rfl⟩ := List.mem_map.mp member
  obtain ⟨second, inSecond, same⟩ := List.mem_map.mp member'
  obtain rfl := SetName.text_injective same
  obtain ⟨scopeOf, ownerOf⟩ := mem_setNameOf inFirst
  obtain ⟨scopeOf', ownerOf'⟩ := mem_setNameOf inSecond
  exact ⟨scopeOf.symm.trans scopeOf', ownerOf.symm.trans ownerOf'⟩

section Kinds

variable {files : Files} {config : AppConfig} {profile : UpstreamProfileConfig}
  {target : RoutingTarget}

def defaultClientSets : List String :=
  ["split_v4_static", "split_v4_dynamic", "split_v6_static", "split_v6_dynamic"]

theorem NamedFrom.clientSetNames_own (named : NamedFrom files config profile target) :
    ∀ name ∈ clientSetNames target, name ∉ defaultClientSets := by
  obtain ⟨base, lists, fwmark, -, -, -, -, rfl⟩ := named
  intro name member default
  have own : name ∈ (setNameOf .client (some (profileSafeName profile.name))).map SetName.text := by
    rw [text_client]
    exact member
  have other : name ∈ (setNameOf .client none).map SetName.text := by
    rw [text_default]
    exact default
  have owners := (setNameOf_disjoint own other).2
  simp at owners

theorem NamedFrom.hostSetNames_own (named : NamedFrom files config profile target)
    (host : target.hostEnabled = true) : ∀ name ∈ Korserver.hostSetNames target, name ∉ hostSplitSetNames := by
  obtain ⟨base, lists, fwmark, -, -, -, -, rfl⟩ := named
  cases active : hostActive profile lists
  · simp [namedTarget, RoutingTarget.hostEnabled, active, truthy] at host
  · intro name member split
    have own : name ∈ (setNameOf .host (some (profileSafeName profile.name))).map SetName.text := by
      rw [text_host]
      simpa [Korserver.hostSetNames, namedTarget, active] using member
    have scopes := (setNameOf_disjoint own (text_hostSplit ▸ split)).1
    simp at scopes

theorem clientBlock_default_readsOnly (config : AppConfig) (interface : String)
    (routes domains : List String) :
    ∀ rule ∈ clientBlock config (defaultTarget config interface routes domains),
      readsOnly defaultClientSets rule = true := by
  unfold clientBlock clientMarking
  split
  · simp
  · cases (defaultTarget config interface routes domains).mode <;>
      simp [splitMarking, markRule, readRule, Rule.map, Test.map, readsOnly, setOf, defaultTarget,
        defaultClientSets]

theorem splitMarking_readsOnly {target : RoutingTarget} {names : List String}
    (own : ∀ name ∈ clientSetNames target, name ∉ names) :
    ∀ rule ∈ (splitMarking target).map readRule, readsOnly names rule = false := by
  simp only [clientSetNames, List.mem_cons, List.not_mem_nil, or_false, forall_eq_or_imp,
    forall_eq] at own
  simp [splitMarking, markRule, readRule, Rule.map, Test.map, readsOnly, setOf, own]

theorem defaultHostBlock_readsOnly (config : AppConfig) :
    ∀ rule ∈ defaultHostBlock config, readsOnly hostSplitSetNames rule = true := by
  unfold defaultHostBlock defaultHostMarking
  split
  · cases config.routing.hostMode <;>
      simp [hostMarkV4, hostMarkV6, readRule, Rule.map, Test.map, readsOnly, setOf, hostSplitSetNames]
  · simp

theorem hostBlock_readsOnly (config : AppConfig) {target : RoutingTarget} {names : List String}
    (own : ∀ name ∈ hostSetNames target, name ∉ names) :
    ∀ rule ∈ hostBlock config target, readsOnly names rule = false := by
  simp only [hostSetNames, List.mem_cons, List.not_mem_nil, or_false, forall_eq_or_imp,
    forall_eq] at own
  simp [hostBlock, hostMarking, hostMarkV4, hostMarkV6, readRule, Rule.map, Test.map, readsOnly,
    setOf, own]

end Kinds

def liveChains (rules : String → List LiveRule) : List LiveChain :=
  [{ name := "prerouting", type := .filter, hook := .prerouting, priority := "mangle",
     rules := rules "prerouting" }] ++
  (if (rules "output").isEmpty then [] else
    [{ name := "output", type := .route, hook := .output, priority := "mangle",
       rules := rules "output" }]) ++
  (if (rules "forward").isEmpty then [] else
    [{ name := "forward", type := .filter, hook := .forward, priority := "filter",
       rules := rules "forward" }]) ++
  (if (rules "postrouting").isEmpty then [] else
    [{ name := "postrouting", type := .filter, hook := .postrouting, priority := "filter",
       rules := rules "postrouting" }])

theorem liveChains_congr {rules rules' : String → List LiveRule}
    (prerouting : rules "prerouting" = rules' "prerouting")
    (output : rules "output" = rules' "output") (forward : rules "forward" = rules' "forward")
    (postrouting : rules "postrouting" = rules' "postrouting") :
    liveChains rules = liveChains rules' := by
  rw [liveChains, liveChains, prerouting, output, forward, postrouting]

theorem outputRules_isEmpty (config : AppConfig) (targets : List RoutingTarget) :
    (outputRules config targets).isEmpty =
      !(config.routing.hostTraffic || !(hostTargets targets).isEmpty) := by
  cases traffic : config.routing.hostTraffic <;> cases mode : config.routing.hostMode <;>
    cases hosts : hostTargets targets <;>
    simp [outputRules, defaultHostMarking, traffic, mode, hosts, hostMarking]

theorem forwardRules_isEmpty (targets : List RoutingTarget) :
    (forwardRules targets).isEmpty = !targets.any (·.killswitch) := by
  rw [Bool.eq_iff_iff]
  simp [forwardRules]

theorem chains_eq_liveChains (config : AppConfig) (resolved : ResolvedTargets)
    (hostSplitRoutes : List String) :
    (loadedTable (rulesetOf config resolved hostSplitRoutes).filter).chains =
      liveChains (rulesetOf config resolved hostSplitRoutes).chainRules := by
  have output := outputRules_isEmpty config resolved.targets
  have forward := forwardRules_isEmpty resolved.targets
  simp only [liveChains, chainRules_prerouting, chainRules_output, chainRules_forward,
    chainRules_postrouting, List.isEmpty_map, output, forward]
  have shown : (loadedTable (rulesetOf config resolved hostSplitRoutes).filter).chains =
      (filterChains config resolved).map (Chain.map ipNetwork intLiteral) := rfl
  rw [shown, filterChains, ← hostPoliced]
  have started : (postroutingRules config resolved).isEmpty = false := rfl
  cases marked : (config.routing.hostTraffic || !(hostTargets resolved.targets).isEmpty) <;>
    cases policed : resolved.targets.any (·.killswitch) <;>
    cases host : hostPoliced config resolved <;>
    simp [started, Chain.map, preroutingChain, outputChain, forwardChain, postroutingChain, readRule]

def liveNat (name : String) (rules : List LiveRule) : LiveTable where
  name := name
  chains := [{ name := "postrouting", type := .nat, hook := .postrouting, priority := "srcnat", rules }]

theorem liveNat_eq {name name' : String} {rules rules' : List LiveRule} :
    liveNat name rules = liveNat name' rules' ↔ name = name' ∧ rules = rules' := by
  simp [liveNat]

theorem nat_eq_liveNat (config : AppConfig) (resolved : ResolvedTargets)
    (hostSplitRoutes : List String) :
    loadedTable (rulesetOf config resolved hostSplitRoutes).nat =
      liveNat (natTable config) ((natRules config resolved).map readRule) := rfl

end Korserver
