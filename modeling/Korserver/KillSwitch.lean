import Korserver.Nftables

/-!
The kill-switch of the rendered ruleset: the mark a packet ends with and the list of drop
rules always agree, for forwarded client packets and for the host's own.
-/

namespace Korserver

open PythonText IpAddress PythonValue PacketFilter

def RoutingTarget.mark (target : RoutingTarget) : Int := (intLiteral target.fwmark).getD 0

structure DistinctMarks (targets : List RoutingTarget) : Prop where
  nodup : (targets.map RoutingTarget.mark).Nodup
  nonzero : ∀ target ∈ targets, target.mark ≠ 0

theorem DistinctMarks.readable {targets : List RoutingTarget} (marks : DistinctMarks targets)
    {target : RoutingTarget} (member : target ∈ targets) :
    intLiteral target.fwmark = some target.mark := by
  have nonzero := marks.nonzero target member
  unfold RoutingTarget.mark at nonzero ⊢
  cases literal : intLiteral target.fwmark with
  | none => simp [literal] at nonzero
  | some value => rfl

theorem DistinctMarks.eq_of_mark {targets : List RoutingTarget} (marks : DistinctMarks targets)
    {target other : RoutingTarget} (member : target ∈ targets) (otherMember : other ∈ targets)
    (same : other.mark = target.mark) : other = target :=
  List.inj_on_of_nodup_map marks.nodup otherMember member same

theorem readRule_dropUnless {fwmark interface : String} {mark : Int}
    (readable : intLiteral fwmark = some mark) :
    readRule (dropUnless fwmark interface) = policing mark interface := by
  simp [readRule, dropUnless, Rule.map, Test.map, Action.map, policing, readable]

theorem readRule_killSwitch {targets policed : List RoutingTarget} (marks : DistinctMarks targets)
    (subset : policed ⊆ targets) :
    (policed.map killSwitch).map readRule =
      policed.map fun target => policing target.mark target.interface := by
  rw [List.map_map]
  refine List.map_congr_left ?_
  intro target member
  exact readRule_dropUnless (marks.readable (subset member))

/-- Of the drop rules of targets with distinct marks only the marking target's own can
apply to its packet. -/
theorem policed_iff {targets policed : List RoutingTarget} (marks : DistinctMarks targets)
    (subset : policed ⊆ targets) {last : Option RoutingTarget}
    (within : ∀ target ∈ last, target ∈ policed) {packet : Packet} (unmarked : packet.mark = 0)
    (output : String) :
    (∀ other ∈ policed,
        other.mark = (rewriteBy (fun target => Packet.setMark target.mark) last packet).mark →
        output = other.interface) ↔
      ∀ target ∈ last, output = target.interface := by
  cases last with
  | none =>
      simp only [rewriteBy, unmarked, Option.not_mem_none, false_imp_iff, implies_true, iff_true]
      intro other member zero
      exact absurd zero (marks.nonzero other (subset member))
  | some target =>
      simp only [rewriteBy, Packet.setMark, Option.mem_some_iff, forall_eq']
      have member := within target rfl
      constructor
      · intro kept
        exact kept target member rfl
      · intro own other otherMember same
        rw [marks.eq_of_mark (subset member) (subset otherMember) same]
        exact own

/-! Client packets. -/

def clientSetsContain (contents : SetContents) (target : RoutingTarget) (destination : Nat) : Bool :=
  contents target.setV4Static destination || contents target.setV4Dynamic destination

def RoutingTarget.isNamed (target : RoutingTarget) : Bool := target.name ≠ "default"

def clientBlock (config : AppConfig) (target : RoutingTarget) : List LiveRule :=
  (clientMarking config target).map readRule

theorem clientBlock_blind (config : AppConfig) (target : RoutingTarget) :
    ∀ rule ∈ clientBlock config target, rule.markBlind = true := by
  unfold clientBlock clientMarking
  split
  · simp
  · cases target.mode <;>
      simp [splitMarking, markRule, readRule, Rule.map, Test.map, Rule.markBlind, Test.readsMark]

theorem clientBlock_marks (config : AppConfig) {target : RoutingTarget}
    (readable : intLiteral target.fwmark = some target.mark) :
    Marks target.mark (clientBlock config target) := by
  intro rule member
  refine ⟨clientBlock_blind config target rule member, ?_⟩
  unfold clientBlock clientMarking at member
  split at member
  · simp at member
  · cases mode : target.mode <;>
      simp only [mode, List.map_cons, List.map_nil, List.mem_cons, List.not_mem_nil, or_false,
        splitMarking, markRule, readRule, Rule.map, Action.map, readable] at member
    · rw [member]
    · rcases member with rfl | rfl | rfl | rfl <;> rfl

theorem clientBlock_matches {config : AppConfig} (client : config.routing.clientTraffic = true)
    (contents : SetContents) {packet : Packet} (v4 : packet.family = .v4)
    (source : inNetwork (ipNetwork config.server.ipv4Network) packet packet.source = true)
    (target : RoutingTarget) :
    anyMatches contents (clientBlock config target) packet = true ↔
      target.mode = .full ∨ clientSetsContain contents target packet.destination = true := by
  cases mode : target.mode <;>
    simp [clientBlock, clientMarking, splitMarking, client, mode, markRule, readRule, Rule.map, Test.map,
      anyMatches, Rule.matches, Test.holds, v4, source, clientSetsContain]

/-- The last named target whose client sets contain a destination. -/
def lastClientTarget (contents : SetContents) (targets : List RoutingTarget) (destination : Nat) :
    Option RoutingTarget :=
  (targets.filter fun target =>
    target.isNamed && clientSetsContain contents target destination).getLast?

theorem runChain_prerouting {config : AppConfig} {targets : List RoutingTarget}
    (marks : DistinctMarks targets) (contents : SetContents) (packet : Packet) :
    runChain contents ((preroutingRules config targets).map readRule) packet =
      .pass (rewriteBy (fun target => Packet.setMark target.mark)
        (targets.filter fun target =>
          anyMatches contents (clientBlock config target) packet).getLast? packet) := by
  have blocks : (preroutingRules config targets).map readRule =
      targets.flatMap (clientBlock config) := by
    simp only [preroutingRules, List.map_flatMap]
    rfl
  rw [blocks]
  exact runChain_lastMarks contents (clientBlock config) RoutingTarget.mark targets
    (clientBlock_blind config) (fun target member => clientBlock_marks config (marks.readable member))
    packet

theorem forward_accepted {targets : List RoutingTarget} (marks : DistinctMarks targets)
    (contents : SetContents) (packet : Packet) :
    (runChain contents ((forwardRules targets).map readRule) packet).accepted = true ↔
      ∀ target ∈ targets.filter (·.killswitch), target.mark = packet.mark →
        packet.output = target.interface := by
  unfold forwardRules
  rw [readRule_killSwitch marks (List.filter_subset_self _)]
  exact runChain_policing contents RoutingTarget.mark RoutingTarget.interface _ packet

theorem getLast?_filter_cons {α : Type} (accepts : α → Bool) (first : α) (rest : List α) :
    ((first :: rest).filter accepts).getLast? =
      (rest.filter accepts).getLast?.or (if accepts first then some first else none) := by
  by_cases kept : accepts first = true
  · rw [List.filter_cons_of_pos kept, List.getLast?_cons, if_pos kept]
    cases (rest.filter accepts).getLast? <;> rfl
  · rw [List.filter_cons_of_neg kept, if_neg kept, Option.or_none]

theorem Ruleset.forwards_iff {config : AppConfig} {resolved : ResolvedTargets}
    (marks : DistinctMarks resolved.targets)
    (policed : ∀ target ∈ resolved.targets, target.killswitch = true)
    (hostSplitRoutes : List String) (contents : SetContents) {packet : Packet}
    (unmarked : packet.mark = 0) (output : String) :
    (rulesetOf config resolved hostSplitRoutes).forwards contents packet output = true ↔
      ∀ target ∈ (resolved.targets.filter fun target =>
        anyMatches contents (clientBlock config target) packet).getLast?,
        output = target.interface := by
  have all : resolved.targets.filter (·.killswitch) = resolved.targets :=
    List.filter_eq_self.mpr policed
  simp only [Ruleset.forwards, Ruleset.passes, chainRules_prerouting, chainRules_forward,
    runChain_prerouting marks, forward_accepted marks, all]
  refine policed_iff marks (List.Subset.refl _) ?_ unmarked output
  intro target last
  exact (List.mem_filter.mp (List.mem_of_getLast? last)).1

/-- A packet of a client leaves through the device of the target that marks it, or not at all. -/
theorem clientKillSwitch {files : Files} {config : AppConfig} {outbound : Option String}
    {resolved : ResolvedTargets} {ruleset : Ruleset} {default : RoutingTarget}
    (enabled : config.upstream.enabled = true)
    (selected : config.upstream.selectedProfile.isSome = true)
    (client : config.routing.clientTraffic = true)
    (resolution : resolveTargets files config outbound = .ok resolved)
    (rendered : render files config outbound = .ok ruleset)
    (names : (resolved.targets.map (·.name)).Nodup)
    (marks : DistinctMarks resolved.targets)
    (member : default ∈ resolved.targets) (isDefault : default.name = "default")
    (contents : SetContents) (packet : Packet) (v4 : packet.family = .v4)
    (source : inNetwork (ipNetwork config.server.ipv4Network) packet packet.source = true)
    (unmarked : packet.mark = 0) (output : String) :
    ruleset.forwards contents packet output = true ↔
      match lastClientTarget contents resolved.targets packet.destination with
      | some target => output = target.interface
      | none =>
          config.routing.mode = .full ∨
            clientSetsContain contents default packet.destination = true →
          output = default.interface := by
  obtain ⟨resolved', hostSplitRoutes, resolution', -, rfl⟩ := render_ok rendered
  obtain rfl : resolved = resolved' := by simpa [resolution] using resolution'
  obtain ⟨routes, domains, named, kept, -, -, pairs, resolvedEq⟩ := resolveTargets_ok resolution
  have targetsEq : resolved.targets =
      defaultTarget config (resolvedInterface config outbound) routes domains :: named := by
    rw [resolvedEq]
  have first : default = defaultTarget config (resolvedInterface config outbound) routes domains :=
    List.inj_on_of_nodup_map names member (by simp [targetsEq]) isDefault
  have profiled : ∀ target ∈ named, target.isNamed = true ∧ target.mode = .split ∧
      target.killswitch = true := by
    intro target inNamed
    obtain ⟨profile, -, from'⟩ := pairs.profileOf inNamed
    refine ⟨?_, from'.mode, from'.killswitch⟩
    rw [targetsEq, List.map_cons, List.nodup_cons] at names
    simp only [RoutingTarget.isNamed, decide_eq_true_eq]
    intro same
    exact names.1 (List.mem_map.mpr ⟨target, inNamed, same⟩)
  have policed : ∀ target ∈ resolved.targets, target.killswitch = true := by
    rw [targetsEq]
    intro target inTargets
    rcases List.mem_cons.mp inTargets with rfl | inNamed
    · simp [defaultTarget, upstreamActive, enabled, selected, client]
    · exact (profiled target inNamed).2.2
  rw [Ruleset.forwards_iff marks policed hostSplitRoutes contents unmarked]
  have namedMatch : named.filter (fun target =>
      anyMatches contents (clientBlock config target) packet) =
      named.filter fun target => clientSetsContain contents target packet.destination := by
    refine List.filter_congr ?_
    intro target inNamed
    have matched := clientBlock_matches client contents v4 source target
    rw [(profiled target inNamed).2.1] at matched
    rw [Bool.eq_iff_iff, matched]
    simp
  have namedLast : lastClientTarget contents resolved.targets packet.destination =
      (named.filter fun target => clientSetsContain contents target packet.destination).getLast? := by
    unfold lastClientTarget
    rw [targetsEq, List.filter_cons_of_neg (by simp [RoutingTarget.isNamed, defaultTarget])]
    congr 1
    refine List.filter_congr ?_
    intro target inNamed
    rw [(profiled target inNamed).1, Bool.true_and]
  rw [namedLast, targetsEq, getLast?_filter_cons, namedMatch, ← first]
  have defaultMatch := clientBlock_matches client contents v4 source default
  cases (named.filter fun target =>
    clientSetsContain contents target packet.destination).getLast? with
  | some target => simp
  | none =>
      have mode : default.mode = config.routing.mode := by rw [first]; rfl
      rw [mode] at defaultMatch
      rw [← defaultMatch]
      by_cases matched : anyMatches contents (clientBlock config default) packet = true <;>
        simp [matched]

def samplePacket : Packet where
  family := .v4
  source := 168430087
  destination := 171048961
  original := true

def sampleContents : SetContents := fun set destination =>
  (set = "split_v4_work_static" || set = "host_v4_work_static") && destination / 65536 == 2610

theorem sampleMarks : DistinctMarks sampleResolved.targets := ⟨by decide, by decide⟩

theorem clientKillSwitch_sample :
    sampleRuleset.forwards sampleContents samplePacket "eth0" = true ↔ "eth0" = "oc-middle0" :=
  @clientKillSwitch {} sampleConfig none sampleResolved sampleRuleset
    (defaultTarget sampleConfig "oc-middle0" [] []) rfl rfl rfl sampleResolved_ok sampleRuleset_ok
    (by decide) sampleMarks (List.mem_cons_self ..) rfl sampleContents samplePacket rfl (by decide)
    rfl "eth0"

/-! Packets of the host itself. -/

/-- Replies, and IPv4 packets into the VPN network, which no host rule applies to. -/
def hostExempt (config : AppConfig) (packet : Packet) : Bool :=
  !packet.original ||
    (packet.family == .v4 &&
      inNetwork (ipNetwork config.server.ipv4Network) packet packet.destination)

def hostSetsContain (contents : SetContents) (target : RoutingTarget) (packet : Packet) : Bool :=
  match packet.family with
  | .v4 =>
      contents (target.hostSetV4Static.getD "None") packet.destination ||
        contents (target.hostSetV4Dynamic.getD "None") packet.destination
  | .v6 =>
      contents (target.hostSetV6Static.getD "None") packet.destination ||
        contents (target.hostSetV6Dynamic.getD "None") packet.destination

def hostSplitContains (contents : SetContents) (packet : Packet) : Bool :=
  match packet.family with
  | .v4 =>
      contents "host_split_v4_static" packet.destination ||
        contents "host_split_v4_dynamic" packet.destination
  | .v6 =>
      contents "host_split_v6_static" packet.destination ||
        contents "host_split_v6_dynamic" packet.destination

def hostBlock (config : AppConfig) (target : RoutingTarget) : List LiveRule :=
  (hostMarking config target).map readRule

def defaultHostBlock (config : AppConfig) : List LiveRule :=
  (defaultHostMarking config).map readRule

theorem hostBlock_blind (config : AppConfig) (target : RoutingTarget) :
    ∀ rule ∈ hostBlock config target, rule.markBlind = true := by
  simp [hostBlock, hostMarking, hostMarkV4, hostMarkV6, readRule, Rule.map, Test.map,
    Rule.markBlind, Test.readsMark]

theorem hostBlock_marks (config : AppConfig) {target : RoutingTarget}
    (readable : intLiteral target.fwmark = some target.mark) :
    Marks target.mark (hostBlock config target) := by
  intro rule member
  refine ⟨hostBlock_blind config target rule member, ?_⟩
  simp only [hostBlock, hostMarking, hostMarkV4, hostMarkV6, List.map_cons, List.map_nil,
    List.mem_cons, List.not_mem_nil, or_false, readRule, Rule.map, Action.map, readable] at member
  rcases member with rfl | rfl | rfl | rfl <;> rfl

theorem defaultHostBlock_marks {config : AppConfig} {mark : Int}
    (readable : intLiteral config.routing.fwmark = some mark) :
    Marks mark (defaultHostBlock config) := by
  intro rule member
  unfold defaultHostBlock defaultHostMarking at member
  split at member
  · cases mode : config.routing.hostMode <;>
      simp only [mode, hostMarkV4, hostMarkV6, List.map_cons, List.map_nil, List.mem_cons,
        List.not_mem_nil, or_false, readRule, Rule.map, Action.map, readable] at member
    · rcases member with rfl | rfl <;>
        simp [Rule.markBlind, Test.map, Test.readsMark]
    · rcases member with rfl | rfl | rfl | rfl <;>
        simp [Rule.markBlind, Test.map, Test.readsMark]
  · simp at member

theorem hostBlock_matches (config : AppConfig) (contents : SetContents) (packet : Packet)
    (target : RoutingTarget) :
    anyMatches contents (hostBlock config target) packet =
      (!hostExempt config packet && hostSetsContain contents target packet) := by
  cases family : packet.family <;> cases original : packet.original <;>
    simp [hostBlock, hostMarking, hostMarkV4, hostMarkV6, readRule, Rule.map, Test.map, anyMatches,
      Rule.matches, Test.holds, hostExempt, hostSetsContain, family, original]
  cases inNetwork (ipNetwork config.server.ipv4Network) packet packet.destination <;> simp

theorem defaultHostBlock_matches (config : AppConfig) (contents : SetContents) (packet : Packet) :
    anyMatches contents (defaultHostBlock config) packet =
      (!hostExempt config packet && (config.routing.hostTraffic &&
        (config.routing.hostMode == .full || hostSplitContains contents packet))) := by
  cases traffic : config.routing.hostTraffic <;> cases mode : config.routing.hostMode <;>
    cases family : packet.family <;> cases original : packet.original <;>
    simp [defaultHostBlock, defaultHostMarking, hostMarkV4, hostMarkV6, readRule, Rule.map,
      Test.map, anyMatches, Rule.matches, Test.holds, hostExempt, hostSplitContains, traffic, mode,
      family, original]
  cases inNetwork (ipNetwork config.server.ipv4Network) packet packet.destination <;> simp

/-- The default target as the postrouting chain polices it, on the resolved outbound
interface whatever `client_traffic` says. -/
def postroutingDefault (config : AppConfig) (resolved : ResolvedTargets) : RoutingTarget :=
  { defaultTarget config resolved.outboundInterface [] [] with
    interface := resolved.outboundInterface }

theorem postroutingDefault_fwmark (config : AppConfig) (resolved : ResolvedTargets) :
    (postroutingDefault config resolved).fwmark = config.routing.fwmark := rfl

def hostPolicedTargets (config : AppConfig) (resolved : ResolvedTargets) : List RoutingTarget :=
  (if config.routing.hostTraffic then [postroutingDefault config resolved] else []) ++
  hostTargets resolved.targets

theorem hostPolicedTargets_marks {files : Files} {config : AppConfig} {outbound : Option String}
    {resolved : ResolvedTargets}
    (resolution : resolveTargets files config outbound = .ok resolved)
    (marks : DistinctMarks resolved.targets) :
    DistinctMarks (postroutingDefault config resolved :: hostTargets resolved.targets) := by
  obtain ⟨routes, domains, named, -, -, -, -, resolvedEq⟩ := resolveTargets_ok resolution
  have targetsEq : resolved.targets =
      defaultTarget config (resolvedInterface config outbound) routes domains :: named := by
    rw [resolvedEq]
  have hosts : hostTargets resolved.targets = hostTargets named := by
    rw [targetsEq]
    exact List.filter_cons_of_neg (by simp [RoutingTarget.hostEnabled, defaultTarget, truthy])
  have within : (hostTargets named).Sublist named := List.filter_sublist
  rw [targetsEq] at marks
  have nodup := marks.nodup
  have first : (postroutingDefault config resolved).mark =
      (defaultTarget config (resolvedInterface config outbound) routes domains).mark := rfl
  rw [hosts]
  constructor
  · rw [List.map_cons, first]
    exact (List.Sublist.cons_cons _ (within.map _)).nodup nodup
  · intro target member
    rcases List.mem_cons.mp member with rfl | inHosts
    · rw [first]
      exact marks.nonzero _ (by simp)
    · exact marks.nonzero target (by simp [within.subset inHosts])

theorem hostPolicedTargets_subset (config : AppConfig) (resolved : ResolvedTargets) :
    hostPolicedTargets config resolved ⊆
      postroutingDefault config resolved :: hostTargets resolved.targets := by
  intro target member
  unfold hostPolicedTargets at member
  split at member <;> simp_all

theorem postrouting_accepted {config : AppConfig} {resolved : ResolvedTargets}
    (marks : DistinctMarks (postroutingDefault config resolved :: hostTargets resolved.targets))
    (active : resolved.upstreamActive = true) (hostSplitRoutes : List String)
    (contents : SetContents) (packet : Packet) :
    (runChain contents ((rulesetOf config resolved hostSplitRoutes).chainRules "postrouting")
        packet).accepted = true ↔
      packet.output = "lo" ∨ ∀ target ∈ hostPolicedTargets config resolved,
        target.mark = packet.mark → packet.output = target.interface := by
  have rules : postroutingRules config resolved =
      acceptLoopback :: (hostPolicedTargets config resolved).map killSwitch := by
    unfold postroutingRules hostPolicedTargets
    cases config.routing.hostTraffic <;> simp [active, killSwitch]; rfl
  rw [chainRules_postrouting, rules, List.map_cons,
    readRule_killSwitch marks (hostPolicedTargets_subset config resolved)]
  by_cases policed : hostPoliced config resolved = true
  · rw [if_pos policed]
    by_cases loopback : packet.output = "lo"
    · simp [runChain, PacketFilter.traverse, Rule.effect, Rule.matches, Test.holds, readRule, Rule.map, Test.map,
        Action.map, acceptLoopback, loopback, Outcome.accepted]
    · have step : Rule.effect contents (readRule acceptLoopback) packet = .pass packet := by
        simp [Rule.effect, Rule.matches, Test.holds, readRule, Rule.map, Test.map, acceptLoopback,
          loopback]
      rw [runChain, traverse_cons_pass step, ← runChain]
      have police := runChain_policing contents RoutingTarget.mark RoutingTarget.interface
        (hostPolicedTargets config resolved) packet
      simpa [loopback] using police
  · have none : hostPolicedTargets config resolved = [] := by
      simp only [hostPoliced, active, Bool.true_and, Bool.or_eq_true, Bool.not_eq_true', not_or,
        Bool.not_eq_true, Bool.not_eq_false, List.isEmpty_iff] at policed
      simp [hostPolicedTargets, policed.1, policed.2]
    simp [policed, none, runChain, Outcome.accepted]

def hostMarker (config : AppConfig) (resolved : ResolvedTargets) (contents : SetContents)
    (packet : Packet) : Option RoutingTarget :=
  ((hostTargets resolved.targets).filter fun target =>
      anyMatches contents (hostBlock config target) packet).getLast?.or
    (if anyMatches contents (defaultHostBlock config) packet then
      some (postroutingDefault config resolved) else none)

theorem runChain_output {config : AppConfig} {resolved : ResolvedTargets}
    (marks : DistinctMarks (postroutingDefault config resolved :: hostTargets resolved.targets))
    (hostSplitRoutes : List String) (contents : SetContents) (packet : Packet) :
    runChain contents ((rulesetOf config resolved hostSplitRoutes).chainRules "output") packet =
      .pass (rewriteBy (fun target => Packet.setMark target.mark)
        (hostMarker config resolved contents packet) packet) := by
  have blocks : (outputRules config resolved.targets).map readRule =
      defaultHostBlock config ++ (hostTargets resolved.targets).flatMap (hostBlock config) := by
    simp only [outputRules, List.map_append, List.map_flatMap]
    rfl
  have hostMarks : ∀ target ∈ hostTargets resolved.targets,
      Marks target.mark (hostBlock config target) := by
    intro target member
    exact hostBlock_marks config (marks.readable (List.mem_cons_of_mem _ member))
  have readable : intLiteral (postroutingDefault config resolved).fwmark =
      some (postroutingDefault config resolved).mark := marks.readable (by simp)
  rw [postroutingDefault_fwmark] at readable
  have first := runChain_marks (defaultHostBlock_marks readable) contents packet
  rw [chainRules_output, blocks, hostMarker]
  unfold runChain at first ⊢
  rw [traverse_append_pass first, ← runChain,
    runChain_lastMarks contents (hostBlock config) RoutingTarget.mark _ (hostBlock_blind config)
      hostMarks]
  by_cases matched : anyMatches contents (defaultHostBlock config) packet = true
  · have same : ∀ target, anyMatches contents (hostBlock config target)
          (packet.setMark (postroutingDefault config resolved).mark) =
        anyMatches contents (hostBlock config target) packet :=
      fun target => anyMatches_mark (hostBlock_blind config target) contents packet
        (postroutingDefault config resolved).mark
    simp only [matched, if_true, same]
    cases ((hostTargets resolved.targets).filter fun target =>
      anyMatches contents (hostBlock config target) packet).getLast? <;> simp [rewriteBy]
  · simp only [matched, Bool.false_eq_true, if_false, Option.or_none]

theorem hostMarker_policed (config : AppConfig) (resolved : ResolvedTargets)
    (contents : SetContents) (packet : Packet) :
    ∀ target ∈ hostMarker config resolved contents packet,
      target ∈ hostPolicedTargets config resolved := by
  intro target marker
  rcases Option.or_eq_some_iff.mp marker with last | ⟨-, default⟩
  · have host := (List.mem_filter.mp (List.mem_of_getLast? last)).1
    exact List.mem_append_right _ host
  · split at default
    · rename_i matched
      rw [defaultHostBlock_matches] at matched
      simp only [Bool.and_eq_true] at matched
      simp_all [hostPolicedTargets]
    · simp at default

/-- The last host-enabled target whose host set of the packet's family contains its
destination. -/
def lastHostTarget (contents : SetContents) (targets : List RoutingTarget) (packet : Packet) :
    Option RoutingTarget :=
  ((hostTargets targets).filter fun target => hostSetsContain contents target packet).getLast?

/-- A packet of the host leaves through the device of the target that marks it, or not at
all; replies and packets into the VPN network are neither marked nor dropped. -/
theorem hostKillSwitch {files : Files} {config : AppConfig} {outbound : Option String}
    {resolved : ResolvedTargets} {ruleset : Ruleset}
    (enabled : config.upstream.enabled = true)
    (selected : config.upstream.selectedProfile.isSome = true)
    (resolution : resolveTargets files config outbound = .ok resolved)
    (rendered : render files config outbound = .ok ruleset)
    (marks : DistinctMarks resolved.targets)
    (contents : SetContents) (packet : Packet) (unmarked : packet.mark = 0) (output : String) :
    if hostExempt config packet then
      runChain contents (ruleset.chainRules "output") packet = .pass packet ∧
        ruleset.emits contents packet output = true
    else
      (ruleset.emits contents packet output = true ↔
        output = "lo" ∨
          match lastHostTarget contents resolved.targets packet with
          | some target => output = target.interface
          | none =>
              config.routing.hostTraffic = true ∧
                (config.routing.hostMode = .full ∨ hostSplitContains contents packet = true) →
              output = resolved.outboundInterface) := by
  obtain ⟨resolved', hostSplitRoutes, resolution', -, rfl⟩ := render_ok rendered
  obtain rfl : resolved = resolved' := by simpa [resolution] using resolution'
  have active : resolved.upstreamActive = true := by
    obtain ⟨routes, domains, named, -, -, -, -, resolvedEq⟩ := resolveTargets_ok resolution
    rw [resolvedEq]
    simp [upstreamActive, enabled, selected]
  have policedMarks := hostPolicedTargets_marks resolution marks
  have marked := runChain_output policedMarks hostSplitRoutes contents packet
  have within : ∀ target ∈ hostMarker config resolved contents packet,
      target ∈ hostPolicedTargets config resolved :=
    hostMarker_policed config resolved contents packet
  have emitted : (rulesetOf config resolved hostSplitRoutes).emits contents packet output = true ↔
      output = "lo" ∨ ∀ target ∈ hostMarker config resolved contents packet,
        output = target.interface := by
    simp only [Ruleset.emits, Ruleset.passes, marked, postrouting_accepted policedMarks active]
    rw [policed_iff policedMarks (hostPolicedTargets_subset config resolved) within unmarked]
  by_cases exempt : hostExempt config packet = true
  · have unmatched : hostMarker config resolved contents packet = none := by
      simp [hostMarker, hostBlock_matches, defaultHostBlock_matches, exempt]
    rw [if_pos exempt, marked, emitted, unmatched]
    simp [rewriteBy]
  · rw [if_neg exempt, emitted]
    have hosts : hostMarker config resolved contents packet =
        (lastHostTarget contents resolved.targets packet).or
          (if config.routing.hostTraffic && (config.routing.hostMode == .full ||
              hostSplitContains contents packet) then
            some (postroutingDefault config resolved) else none) := by
      simp [hostMarker, hostBlock_matches, defaultHostBlock_matches, exempt, lastHostTarget]
    rw [hosts]
    cases lastHostTarget contents resolved.targets packet with
    | some target => simp
    | none =>
        by_cases default : (config.routing.hostTraffic && (config.routing.hostMode == .full ||
            hostSplitContains contents packet)) = true
        · simp_all [postroutingDefault]
        · simp_all

theorem hostKillSwitch_sample :
    sampleRuleset.emits sampleContents samplePacket "eth0" = true ↔
      "eth0" = "lo" ∨ "eth0" = "oc-middle0" :=
  hostKillSwitch rfl rfl sampleResolved_ok sampleRuleset_ok sampleMarks sampleContents samplePacket
    rfl "eth0"

end Korserver
