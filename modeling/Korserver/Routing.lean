import Korserver.RoutingCore
import Korserver.Config
import Mathlib.Data.List.Forall2
import Mathlib.Data.List.Nodup

/-!
What `list_targets` returns: the default target first, then one named target for each
profile with traffic of its own, in profile order.
-/

namespace Korserver

open PythonText PythonValue

/-- A profile whose client lists or effective host lists give it a target. -/
def HasOwnTraffic (files : Files) (config : AppConfig) (profile : UpstreamProfileConfig) : Prop :=
  ∃ lists, hostLists profile (files.effectivePushed config profile) = .ok lists ∧
    (clientActive profile = true ∨ hostActive profile lists = true)

/-- `target` is the named target that the loop over the profiles appends for `profile`. -/
def NamedFrom (files : Files) (config : AppConfig) (profile : UpstreamProfileConfig)
    (target : RoutingTarget) : Prop :=
  ∃ base lists fwmark,
    intLiteral config.routing.fwmark = some base ∧
    hostLists profile (files.effectivePushed config profile) = .ok lists ∧
    (clientActive profile = true ∨ hostActive profile lists = true) ∧
    offsetFwmark config.routing.fwmark base (config.upstream.profileRoutingOffset profile) =
      .ok fwmark ∧
    target = namedTarget config profile lists (files.effectivePushed config profile) fwmark

theorem NamedFrom.hasOwnTraffic {files : Files} {config : AppConfig}
    {profile : UpstreamProfileConfig} {target : RoutingTarget}
    (named : NamedFrom files config profile target) : HasOwnTraffic files config profile := by
  obtain ⟨-, lists, -, -, listed, active, -⟩ := named
  exact ⟨lists, listed, active⟩

section Projections

variable {files : Files} {config : AppConfig} {profile : UpstreamProfileConfig}
  {target : RoutingTarget} (named : NamedFrom files config profile target)

include named

theorem NamedFrom.name : target.name = profile.name := by
  obtain ⟨-, -, -, -, -, -, -, rfl⟩ := named
  rfl

theorem NamedFrom.mode : target.mode = .split := by
  obtain ⟨-, -, -, -, -, -, -, rfl⟩ := named
  rfl

theorem NamedFrom.killswitch : target.killswitch = true := by
  obtain ⟨-, -, -, -, -, -, -, rfl⟩ := named
  rfl

theorem NamedFrom.tableId :
    target.tableId = config.routing.tableId + config.upstream.profileRoutingOffset profile := by
  obtain ⟨-, -, -, -, -, -, -, rfl⟩ := named
  rfl

theorem NamedFrom.interface : target.interface = config.upstream.profileInterface profile := by
  obtain ⟨-, -, -, -, -, -, -, rfl⟩ := named
  rfl

end Projections

theorem profileTarget_ok {files : Files} {config : AppConfig} {base : Int}
    {profile : UpstreamProfileConfig} {result : Option RoutingTarget}
    (readable : intLiteral config.routing.fwmark = some base)
    (found : profileTarget files config base profile = .ok result) :
    (∀ target, result = some target → NamedFrom files config profile target) ∧
      (result = none → ¬HasOwnTraffic files config profile) := by
  simp only [profileTarget, bind_ok] at found
  obtain ⟨lists, listed, found⟩ := found
  split at found
  · rename_i idle
    simp only [Bool.and_eq_true, Bool.not_eq_true'] at idle
    obtain rfl := pure_ok.mp found
    refine ⟨fun target impossible => by simp at impossible, fun _ => ?_⟩
    rintro ⟨lists', listed', active⟩
    obtain rfl : lists = lists' := by simpa [listed] using listed'
    simp [idle] at active
  · rename_i busy
    obtain ⟨fwmark, formatted, found⟩ := bind_ok.mp found
    obtain rfl := pure_ok.mp found
    refine ⟨?_, by simp⟩
    rintro target same
    obtain rfl := Option.some.inj same
    refine ⟨base, lists, fwmark, readable, listed, ?_, formatted, rfl⟩
    cases client : clientActive profile <;> simp_all

theorem profileTargets_ok {files : Files} {config : AppConfig} {base : Int}
    (readable : intLiteral config.routing.fwmark = some base)
    {profiles : List UpstreamProfileConfig} {targets : List RoutingTarget}
    (found : profileTargets files config base profiles = .ok targets) :
    ∃ kept, kept.Sublist profiles ∧ List.Forall₂ (NamedFrom files config) kept targets ∧
      ∀ profile ∈ profiles, HasOwnTraffic files config profile → profile ∈ kept := by
  induction profiles generalizing targets with
  | nil =>
      obtain rfl := pure_ok.mp found
      exact ⟨[], List.Sublist.refl _, List.Forall₂.nil, by simp⟩
  | cons profile rest ih =>
      simp only [profileTargets, bind_ok, pure_ok] at found
      obtain ⟨result, first, more, others, rfl⟩ := found
      obtain ⟨kept, sublist, aligned, complete⟩ := ih others
      obtain ⟨isNamed, isIdle⟩ := profileTarget_ok readable first
      cases result with
      | none =>
          refine ⟨kept, sublist.cons profile, by simpa using aligned, ?_⟩
          intro other member traffic
          rcases List.mem_cons.mp member with rfl | later
          · exact absurd traffic (isIdle rfl)
          · exact complete other later traffic
      | some target =>
          refine ⟨profile :: kept, sublist.cons_cons profile, ?_, ?_⟩
          · exact List.Forall₂.cons (isNamed target rfl) aligned
          · intro other member traffic
            rcases List.mem_cons.mp member with rfl | later
            · simp
            · exact List.mem_cons_of_mem _ (complete other later traffic)

theorem forall₂_mem_right {α β : Type} {relation : α → β → Prop} {xs : List α} {ys : List β}
    (aligned : List.Forall₂ relation xs ys) {y : β} (member : y ∈ ys) :
    ∃ x ∈ xs, relation x y := by
  induction aligned with
  | nil => simp at member
  | cons first _ ih =>
      rcases List.mem_cons.mp member with rfl | later
      · exact ⟨_, by simp, first⟩
      · obtain ⟨x, earlier, related⟩ := ih later
        exact ⟨x, List.mem_cons_of_mem _ earlier, related⟩

structure Kept (files : Files) (config : AppConfig) (kept : List UpstreamProfileConfig)
    (named : List RoutingTarget) : Prop where
  sublist : kept.Sublist config.upstream.profiles
  aligned : List.Forall₂ (NamedFrom files config) kept named
  complete : config.upstream.enabled = true →
    ∀ profile ∈ config.upstream.profiles, HasOwnTraffic files config profile → profile ∈ kept

theorem namedTargets_kept {files : Files} {config : AppConfig} {named : List RoutingTarget}
    (found : namedTargets files config = .ok named) : ∃ kept, Kept files config kept named := by
  unfold namedTargets at found
  split at found
  · obtain ⟨base, readable, found⟩ := bind_ok.mp found
    have literal : intLiteral config.routing.fwmark = some base := by
      unfold intOrValueError at readable
      split at readable <;> simp_all
    obtain ⟨kept, sublist, aligned, complete⟩ := profileTargets_ok literal found
    exact ⟨kept, sublist, aligned, fun _ => complete⟩
  · rename_i disabled
    obtain rfl := pure_ok.mp found
    exact ⟨[], List.nil_sublist _, List.Forall₂.nil, fun enabled => absurd enabled disabled⟩

theorem namedTargets_disabled {files : Files} {config : AppConfig}
    (disabled : config.upstream.enabled = false) : namedTargets files config = .ok [] := by
  simp [namedTargets, disabled]

theorem namedTargets_enabled {files : Files} {config : AppConfig} {named : List RoutingTarget}
    (found : namedTargets files config = .ok named) {target : RoutingTarget}
    (member : target ∈ named) : config.upstream.enabled = true := by
  by_contra disabled
  rw [namedTargets_disabled (Bool.eq_false_iff.mpr disabled)] at found
  obtain rfl := pure_ok.mp found
  simp at member

theorem listTargets_ok {files : Files} {config : AppConfig} {interface : String}
    {targets : List RoutingTarget} (found : listTargets files config interface = .ok targets) :
    ∃ routes domains named,
      listRoutes files config = .ok routes ∧
      namedTargets files config = .ok named ∧
      targets = defaultTarget config interface routes domains :: named := by
  simp only [listTargets, bind_ok, pure_ok] at found
  obtain ⟨routes, listed, domains, -, named, namedFound, rfl⟩ := found
  exact ⟨routes, domains, named, listed, namedFound, rfl⟩

section Kept

variable {files : Files} {config : AppConfig} {kept : List UpstreamProfileConfig}
  {named : List RoutingTarget}

theorem Kept.profileOf (pairs : Kept files config kept named) {target : RoutingTarget}
    (member : target ∈ named) :
    ∃ profile ∈ config.upstream.profiles, NamedFrom files config profile target := by
  obtain ⟨profile, keptMember, from'⟩ := forall₂_mem_right pairs.aligned member
  exact ⟨profile, pairs.sublist.subset keptMember, from'⟩

theorem Kept.targetOf (pairs : Kept files config kept named) {profile : UpstreamProfileConfig}
    (member : profile ∈ kept) : ∃ target ∈ named, NamedFrom files config profile target :=
  forall₂_mem_right pairs.aligned.flip member

theorem Kept.map_eq {α : Type} (pairs : Kept files config kept named)
    (ofProfile : UpstreamProfileConfig → α) (ofTarget : RoutingTarget → α)
    (same : ∀ profile ∈ kept, ∀ target, NamedFrom files config profile target →
      ofTarget target = ofProfile profile) :
    named.map ofTarget = kept.map ofProfile := by
  have aligned := pairs.aligned
  clear pairs
  induction aligned with
  | nil => rfl
  | cons first _ ih =>
      rw [List.map_cons, List.map_cons, same _ (by simp) _ first,
        ih fun profile member => same profile (by simp [member])]

theorem Kept.nodup {α : Type} (pairs : Kept files config kept named)
    (ofProfile : UpstreamProfileConfig → α) (ofTarget : RoutingTarget → α)
    (same : ∀ profile ∈ kept, ∀ target, NamedFrom files config profile target →
      ofTarget target = ofProfile profile)
    (distinct : (config.upstream.profiles.map ofProfile).Nodup) : (named.map ofTarget).Nodup := by
  rw [pairs.map_eq ofProfile ofTarget same]
  exact (pairs.sublist.map ofProfile).nodup distinct

theorem Kept.tableIds_nodup (pairs : Kept files config kept named) (facts : config.Facts) :
    (config.routing.tableId :: named.map (·.tableId)).Nodup := by
  rw [List.nodup_cons]
  constructor
  · intro member
    obtain ⟨target, inNamed, same⟩ := List.mem_map.mp member
    obtain ⟨profile, inProfiles, from'⟩ := pairs.profileOf inNamed
    have positive := facts.offset_pos inProfiles
    rw [from'.tableId] at same
    omega
  · rw [pairs.map_eq (fun profile =>
      config.routing.tableId + config.upstream.profileRoutingOffset profile) (·.tableId)
      fun profile _ target from' => from'.tableId]
    have distinct := (pairs.sublist.map config.upstream.profileRoutingOffset).nodup facts.offsets
    have injective : Function.Injective fun offset => config.routing.tableId + offset := by
      intro first second same
      simpa using same
    have shifted := (List.nodup_map_iff injective).mpr distinct
    rw [List.map_map] at shifted
    exact shifted

end Kept

end Korserver
