import Korserver.KillSwitch

/-!
The nat chain of the rendered ruleset: which forwarded packets of the clients it masquerades.
-/

namespace Korserver

open PythonText IpAddress PythonValue PacketFilter

/-- The traversal of the rules ends with a `masquerade`. -/
def masqueradedBy (contents : SetContents) : List LiveRule → Packet → Bool
  | [], _ => false
  | rule :: rest, packet =>
      if rule.matches contents packet then
        match rule.action with
        | .setMark mark => masqueradedBy contents rest (packet.setMark (mark.getD packet.mark))
        | .accept => false
        | .drop => false
        | .masquerade => true
      else masqueradedBy contents rest packet

/-- A packet that leaves through `output`, with the mark prerouting gave it, is masqueraded. -/
def Ruleset.masquerades (ruleset : Ruleset) (contents : SetContents) (packet : Packet)
    (output : String) : Bool :=
  match runChain contents (ruleset.chainRules "prerouting") packet with
  | .pass marked | .accept marked =>
      masqueradedBy contents ((loadedTable ruleset.nat).rulesOf "postrouting") { marked with output }
  | .drop => false

theorem masqueradedBy_any {contents : SetContents} {rules : List LiveRule} {packet : Packet}
    (only : ∀ rule ∈ rules, rule.action = .masquerade) :
    masqueradedBy contents rules packet = anyMatches contents rules packet := by
  induction rules with
  | nil => rfl
  | cons rule rest ih =>
      have later := ih fun other member => only other (by simp [member])
      rw [masqueradedBy, only rule (by simp), later]
      by_cases applied : rule.matches contents packet = true <;> simp [anyMatches, applied]

section

variable (config : AppConfig) (resolved : ResolvedTargets)

theorem natRules_rulesOf (hostSplitRoutes : List String) :
    (loadedTable (rulesetOf config resolved hostSplitRoutes).nat).rulesOf "postrouting" =
      (natRules config resolved).map readRule := by
  simp [loadedTable, Table.map, Table.rulesOf, rulesetOf, natChain, Chain.map, readRule]

theorem natRules_masquerade :
    ∀ rule ∈ (natRules config resolved).map readRule, rule.action = .masquerade := by
  intro rule member
  obtain ⟨script, inScript, rfl⟩ := List.mem_map.mp member
  have actions : script.action = .masquerade := by
    simp only [natRules, List.mem_append, List.mem_map, List.mem_flatMap] at inScript
    rcases inScript with ((⟨target, _, rfl⟩ | ⟨target, _, inDefault⟩) | inHost) | ⟨target, _, rfl⟩
    · rfl
    · unfold defaultMasquerade at inDefault
      split at inDefault
      · simp only [List.mem_cons, List.not_mem_nil, or_false] at inDefault
        rcases inDefault with rfl | rfl <;> rfl
      · split at inDefault <;> simp only [List.mem_singleton] at inDefault <;> rw [inDefault]
    · split at inHost
      · rw [List.mem_singleton.mp inHost]
        rfl
      · exact absurd inHost List.not_mem_nil
    · rfl
  simp [readRule, Rule.map, actions, Action.map]

variable {config resolved}

/-- With the kill-switch on, the default target's rules masquerade its own marked packets through
its device and all packets without its mark. -/
theorem defaultMasquerade_applies {default : RoutingTarget} (kept : default.killswitch = true)
    (contents : SetContents) {packet : Packet} (v4 : packet.family = .v4)
    (source : inNetwork (ipNetwork config.server.ipv4Network) packet packet.source = true)
    (reaches : default.mark = packet.mark → packet.output = default.interface)
    (readable : intLiteral default.fwmark = some default.mark) :
    anyMatches contents ((defaultMasquerade config default).map readRule) packet = true := by
  by_cases own : default.mark = packet.mark
  · simp [defaultMasquerade, kept, masqueradeMarked, readRule, Rule.map, Test.map, anyMatches,
      Rule.matches, Test.holds, v4, source, readable, own, reaches own]
  · simp [defaultMasquerade, kept, masqueradeMarked, readRule, Rule.map, Test.map, anyMatches,
      Rule.matches, Test.holds, v4, source, readable, own]

end

/-- With the kill-switch of the default target on, whatever forward lets through is masqueraded,
with any mark it comes in with. -/
theorem natCompleteness {files : Files} {config : AppConfig} {outbound : Option String}
    {resolved : ResolvedTargets} {ruleset : Ruleset} {default : RoutingTarget}
    (resolution : resolveTargets files config outbound = .ok resolved)
    (rendered : render files config outbound = .ok ruleset)
    (names : (resolved.targets.map (·.name)).Nodup) (marks : DistinctMarks resolved.targets)
    (member : default ∈ resolved.targets) (isDefault : default.name = "default")
    (killswitch : default.killswitch = true) (contents : SetContents) (packet : Packet)
    (v4 : packet.family = .v4)
    (source : inNetwork (ipNetwork config.server.ipv4Network) packet packet.source = true)
    (output : String)
    (forwarded : ruleset.forwards contents packet output = true) :
    ruleset.masquerades contents packet output = true := by
  obtain ⟨resolved', hostSplitRoutes, resolution', -, rfl⟩ := render_ok rendered
  obtain rfl : resolved = resolved' := by simpa [resolution] using resolution'
  obtain ⟨routes, domains, named, kept, -, -, pairs, resolvedEq⟩ := resolveTargets_ok resolution
  have targetsEq : resolved.targets =
      defaultTarget config (resolvedInterface config outbound) routes domains :: named := by
    rw [resolvedEq]
  have first : default = defaultTarget config (resolvedInterface config outbound) routes domains :=
    List.inj_on_of_nodup_map names member (by simp [targetsEq]) isDefault
  have head : resolved.targets.head? = some default := by rw [targetsEq, first, List.head?_cons]
  simp only [Ruleset.forwards, Ruleset.passes, chainRules_prerouting, chainRules_forward,
    runChain_prerouting marks, forward_accepted marks] at forwarded
  simp only [Ruleset.masquerades, chainRules_prerouting, runChain_prerouting marks, natRules_rulesOf]
  -- marking changes neither the family nor the source of the packet
  generalize (resolved.targets.filter fun target =>
    anyMatches contents (clientBlock config target) packet).getLast? = marking at forwarded ⊢
  generalize outgoing : rewriteBy (fun target => Packet.setMark target.mark) marking packet = marked
    at forwarded ⊢
  have family : marked.family = .v4 := by
    rw [← outgoing, ← v4]
    cases marking <;> rfl
  have inside : inNetwork (ipNetwork config.server.ipv4Network) marked marked.source = true := by
    rw [← outgoing, ← source]
    cases marking <;> rfl
  have reaches : default.mark = marked.mark → output = default.interface :=
    forwarded default (List.mem_filter.mpr ⟨member, killswitch⟩)
  have applied := @defaultMasquerade_applies config default killswitch contents { marked with output }
    family inside reaches (marks.readable member)
  rw [masqueradedBy_any (natRules_masquerade config resolved)]
  obtain ⟨rule, inDefault, matched⟩ := List.any_eq_true.mp applied
  refine List.any_eq_true.mpr ⟨rule, ?_, matched⟩
  obtain ⟨script, inScript, rfl⟩ := List.mem_map.mp inDefault
  refine List.mem_map.mpr ⟨script, ?_, rfl⟩
  simp only [natRules, head, List.mem_append, Option.toList_some, List.flatMap_cons, List.flatMap_nil,
    List.append_nil]
  exact .inl (.inl (.inr inScript))

theorem natCompleteness_sample :
    sampleRuleset.masquerades sampleContents samplePacket "oc-middle0" = true :=
  @natCompleteness {} sampleConfig none sampleResolved sampleRuleset
    (defaultTarget sampleConfig "oc-middle0" [] []) sampleResolved_ok sampleRuleset_ok
    (by decide) sampleMarks (List.mem_cons_self ..) rfl (by decide) sampleContents samplePacket rfl
    (by decide) "oc-middle0" (by decide +kernel)

end Korserver
