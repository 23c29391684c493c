import Korserver.Nftables

/-!
The names of the sets of a table. A name spells out what the set is for, and the spelling
can be read back: a prefix for scope and family, the owner's safe name, and the kind.
-/

namespace Korserver

open PythonText PythonValue IpAddress PacketFilter

inductive SetScope
  | client
  | host
  | hostSplit
  deriving DecidableEq, Repr

/-- `owner` is the safe name of a profile, and absent for the default sets. -/
@[ext] structure SetName where
  scope : SetScope
  family : Family
  owner : Option String
  dynamic : Bool
  deriving DecidableEq

def scopePrefix : SetScope → Family → String
  | .client, .v4 => "split_v4_"
  | .client, .v6 => "split_v6_"
  | .host, .v4 => "host_v4_"
  | .host, .v6 => "host_v6_"
  | .hostSplit, .v4 => "host_split_v4_"
  | .hostSplit, .v6 => "host_split_v6_"

def ownerPart : Option String → String
  | some safeName => safeName ++ "_"
  | none => ""

def kindPart (dynamic : Bool) : String := if dynamic then "dynamic" else "static"

def SetName.text (name : SetName) : String :=
  scopePrefix name.scope name.family ++ (ownerPart name.owner ++ kindPart name.dynamic)

theorem scopePrefix_cancel {scope scope' : SetScope} {family family' : Family} {rest rest' : String}
    (same : scopePrefix scope family ++ rest = scopePrefix scope' family' ++ rest') :
    scope = scope' ∧ family = family' ∧ rest = rest' := by
  have chars := congrArg String.toList same
  simp only [String.toList_append] at chars
  cases scope <;> cases family <;> cases scope' <;> cases family' <;>
    simp [scopePrefix] at chars ⊢ <;> exact String.toList_inj.mp chars

theorem kindPart_cancel {rest rest' : String} {dynamic dynamic' : Bool}
    (same : rest ++ kindPart dynamic = rest' ++ kindPart dynamic') :
    rest = rest' ∧ dynamic = dynamic' := by
  have chars := congrArg (fun text => text.toList.reverse) same
  simp only [String.toList_append, List.reverse_append] at chars
  cases dynamic <;> cases dynamic' <;> simp [kindPart] at chars ⊢ <;>
    exact String.toList_inj.mp chars

theorem ownerPart_injective : Function.Injective ownerPart := by
  intro owner owner' same
  have chars := congrArg String.toList same
  cases owner <;> cases owner' <;> simp [ownerPart] at chars ⊢
  exact String.toList_inj.mp chars

theorem SetName.text_injective : Function.Injective SetName.text := by
  intro name name' same
  obtain ⟨scope, family, rest⟩ := scopePrefix_cancel same
  obtain ⟨owner, dynamic⟩ := kindPart_cancel rest
  exact SetName.ext scope family (ownerPart_injective owner) dynamic

def setNameOf (scope : SetScope) (owner : Option String) : List SetName := [
  { scope, family := .v4, owner, dynamic := false },
  { scope, family := .v4, owner, dynamic := true },
  { scope, family := .v6, owner, dynamic := false },
  { scope, family := .v6, owner, dynamic := true }]

theorem setNameOf_nodup (scope : SetScope) (owner : Option String) :
    (setNameOf scope owner).Nodup := by
  simp [setNameOf]

theorem mem_setNameOf {scope : SetScope} {owner : Option String} {name : SetName}
    (member : name ∈ setNameOf scope owner) : name.scope = scope ∧ name.owner = owner := by
  simp only [setNameOf, List.mem_cons, List.not_mem_nil, or_false] at member
  rcases member with rfl | rfl | rfl | rfl <;> exact ⟨rfl, rfl⟩

def namedSetNames (target : RoutingTarget) : List SetName :=
  setNameOf .client (some (profileSafeName target.name)) ++
    if target.hostEnabled then setNameOf .host (some (profileSafeName target.name)) else []

theorem text_default :
    (setNameOf .client none).map SetName.text =
      ["split_v4_static", "split_v4_dynamic", "split_v6_static", "split_v6_dynamic"] := by
  decide

theorem text_hostSplit : (setNameOf .hostSplit none).map SetName.text = hostSplitSetNames := by
  decide

theorem text_client (safeName : String) :
    (setNameOf .client (some safeName)).map SetName.text = [
      "split_v4_" ++ safeName ++ "_static", "split_v4_" ++ safeName ++ "_dynamic",
      "split_v6_" ++ safeName ++ "_static", "split_v6_" ++ safeName ++ "_dynamic"] := by
  simp [setNameOf, SetName.text, scopePrefix, ownerPart, kindPart, String.append_assoc]

theorem text_host (safeName : String) :
    (setNameOf .host (some safeName)).map SetName.text = [
      "host_v4_" ++ safeName ++ "_static", "host_v4_" ++ safeName ++ "_dynamic",
      "host_v6_" ++ safeName ++ "_static", "host_v6_" ++ safeName ++ "_dynamic"] := by
  simp [setNameOf, SetName.text, scopePrefix, ownerPart, kindPart, String.append_assoc]

theorem NamedFrom.setNames {files : Files} {config : AppConfig} {profile : UpstreamProfileConfig}
    {target : RoutingTarget} (named : NamedFrom files config profile target) :
    targetSetNames target = (namedSetNames target).map SetName.text := by
  obtain ⟨base, lists, fwmark, -, -, -, -, rfl⟩ := named
  by_cases host : hostActive profile lists = true <;>
    simp [targetSetNames, namedSetNames, namedTarget, RoutingTarget.hostEnabled, host, text_client,
      text_host, String.append_assoc, truthy]

theorem defaultTarget_setNames (config : AppConfig) (interface : String)
    (routes domains : List String) :
    targetSetNames (defaultTarget config interface routes domains) =
      (setNameOf .client none).map SetName.text := by
  rw [text_default]
  simp [targetSetNames, defaultTarget]

def tableSetNames (named : List RoutingTarget) : List SetName :=
  setNameOf .client none ++ named.flatMap namedSetNames ++ setNameOf .hostSplit none

theorem mem_namedSetNames {target : RoutingTarget} {name : SetName}
    (member : name ∈ namedSetNames target) :
    name.scope ≠ .hostSplit ∧ name.owner = some (profileSafeName target.name) := by
  rcases List.mem_append.mp member with client | host
  · obtain ⟨scope, owner⟩ := mem_setNameOf client
    exact ⟨by simp [scope], owner⟩
  · split at host
    · obtain ⟨scope, owner⟩ := mem_setNameOf host
      exact ⟨by simp [scope], owner⟩
    · simp at host

theorem namedSetNames_nodup (target : RoutingTarget) : (namedSetNames target).Nodup := by
  unfold namedSetNames
  refine List.nodup_append.mpr ⟨setNameOf_nodup _ _, ?_, ?_⟩
  · split
    · exact setNameOf_nodup _ _
    · exact List.nodup_nil
  · intro name client name' host
    rintro rfl
    split at host
    · have clientScope := (mem_setNameOf client).1
      have hostScope := (mem_setNameOf host).1
      rw [clientScope] at hostScope
      simp at hostScope
    · simp at host

theorem tableSetNames_nodup {named : List RoutingTarget}
    (distinct : (named.map fun target => profileSafeName target.name).Nodup) :
    (tableSetNames named).Nodup := by
  have owned : (named.flatMap namedSetNames).Nodup := by
    refine List.nodup_flatMap.mpr ⟨fun target _ => namedSetNames_nodup target, ?_⟩
    refine (List.pairwise_map.mp distinct).imp ?_
    intro first second other name inFirst inSecond
    have same := (mem_namedSetNames inFirst).2.symm.trans (mem_namedSetNames inSecond).2
    exact other (Option.some.inj same)
  refine List.nodup_append.mpr ⟨List.nodup_append.mpr ⟨setNameOf_nodup _ _, owned, ?_⟩,
    setNameOf_nodup _ _, ?_⟩
  · rintro name default name' inNamed rfl
    obtain ⟨target, -, inTarget⟩ := List.mem_flatMap.mp inNamed
    have absent := (mem_setNameOf default).2
    rw [(mem_namedSetNames inTarget).2] at absent
    simp at absent
  · rintro name before name' hostSplit rfl
    have scope := (mem_setNameOf hostSplit).1
    rcases List.mem_append.mp before with default | inNamed
    · rw [(mem_setNameOf default).1] at scope
      simp at scope
    · obtain ⟨target, -, inTarget⟩ := List.mem_flatMap.mp inNamed
      exact (mem_namedSetNames inTarget).1 scope

section Resolved

variable {files : Files} {config : AppConfig} {kept : List UpstreamProfileConfig}
  {named : List RoutingTarget}

theorem Kept.setNames (pairs : Kept files config kept named) (interface : String)
    (routes domains : List String) :
    (defaultTarget config interface routes domains :: named).flatMap targetSetNames ++
        hostSplitSetNames =
      (tableSetNames named).map SetName.text := by
  have namedNames : named.flatMap targetSetNames =
      (named.flatMap namedSetNames).map SetName.text := by
    rw [List.map_flatMap]
    refine List.flatMap_congr ?_
    intro target member
    obtain ⟨profile, -, from'⟩ := pairs.profileOf member
    exact from'.setNames
  simp only [tableSetNames, List.flatMap_cons, defaultTarget_setNames, namedNames, List.map_append,
    text_hostSplit, List.append_assoc]

theorem Kept.setNames_nodup (pairs : Kept files config kept named) (facts : config.Facts)
    (interface : String) (routes domains : List String) :
    ((defaultTarget config interface routes domains :: named).flatMap targetSetNames ++
      hostSplitSetNames).Nodup := by
  rw [pairs.setNames]
  refine (List.nodup_map_iff SetName.text_injective).mpr (tableSetNames_nodup ?_)
  exact pairs.nodup (fun profile => profileSafeName profile.name)
    (fun target => profileSafeName target.name) (fun _ _ _ from' => by rw [from'.name]) facts.safeNames

theorem NamedFrom.declaredNames {profile : UpstreamProfileConfig} {target : RoutingTarget}
    (named : NamedFrom files config profile target) :
    (clientSets target ++ hostSets target).map (·.name) = targetSetNames target := by
  obtain ⟨base, lists, fwmark, -, -, -, -, rfl⟩ := named
  cases host : hostActive profile lists <;>
    simp [clientSets, hostSets, targetSetNames, namedTarget, RoutingTarget.hostEnabled, host, truthy]

theorem Kept.declaredNames (pairs : Kept files config kept named) (interface : String)
    (routes domains hostSplitRoutes : List String) :
    (tableSets config (defaultTarget config interface routes domains :: named)
        hostSplitRoutes).map (·.name) =
      setNamesOf config (defaultTarget config interface routes domains :: named) := by
  have namedNames : named.flatMap (fun target =>
      (clientSets target ++ hostSets target).map (·.name)) = named.flatMap targetSetNames := by
    refine List.flatMap_congr ?_
    intro target member
    obtain ⟨profile, -, from'⟩ := pairs.profileOf member
    exact from'.declaredNames
  have defaultNames : (clientSets (defaultTarget config interface routes domains) ++
      hostSets (defaultTarget config interface routes domains)).map (·.name) =
      targetSetNames (defaultTarget config interface routes domains) := by
    simp [clientSets, hostSets, targetSetNames, defaultTarget, RoutingTarget.hostEnabled, truthy]
  have splitNames : (hostSplitSets config hostSplitRoutes).map (·.name) =
      if hostSplitActive config then hostSplitSetNames else [] := by
    unfold hostSplitSets
    split <;> rfl
  simp only [tableSets, setNamesOf, List.map_append, List.map_flatMap, List.flatMap_cons,
    splitNames] at defaultNames namedNames ⊢
  rw [defaultNames, namedNames]

theorem Kept.declaredNames_nodup (pairs : Kept files config kept named) (facts : config.Facts)
    (interface : String) (routes domains : List String) :
    (setNamesOf config (defaultTarget config interface routes domains :: named)).Nodup := by
  refine List.Sublist.nodup ?_ (pairs.setNames_nodup facts interface routes domains)
  unfold setNamesOf
  split
  · exact List.Sublist.refl _
  · rw [List.append_nil]
    exact List.sublist_append_left _ _

end Resolved

end Korserver
