import Korserver.NftablesServiceCore
import Korserver.Nftables

/-! What one `NftablesService.apply` can do to the host. -/

namespace Korserver

open PythonValue PacketFilter

theorem HostState.refresh_some {host refreshed : HostState} {refresh : StaticRefresh}
    (ran : host.refresh refresh = some refreshed) :
    ∃ table sets, host.inet refresh.table = some table ∧
      runSetCommands refresh.commands table.sets = some sets ∧
      refreshed = { host with
        inet := Function.update host.inet refresh.table (some { table with sets }) } := by
  simp only [HostState.refresh, StaticRefresh.run, bind, Option.bind_eq_some_iff,
    Option.map_eq_some_iff, pure] at ran
  obtain ⟨table, present, _, ⟨sets, commands, rfl⟩, same⟩ := ran
  exact ⟨table, sets, present, commands, (Option.some.inj same).symm⟩

section Apply

variable {answers : Answers} {files : Files} {config : AppConfig} {outbound : Option String}
  {host after : HostState} {result : RulesetResult}

theorem recreate_cases (ran : recreate answers files config outbound host = .ok (result, after)) :
    (result = .recreated ∧ ∃ ruleset, render files config outbound = .ok ruleset ∧
      answers.acceptsRuleset ruleset = true ∧ after = host.load ruleset) ∨
    (result = .failed ∧ after = host ∧ ∃ ruleset, render files config outbound = .ok ruleset ∧
      answers.acceptsRuleset ruleset = false) := by
  simp only [recreate, applyFullRecreate, bind_ok, pure_ok] at ran
  obtain ⟨loaded, ⟨ruleset, rendered, loadedEq⟩, ran⟩ := ran
  by_cases accepted : answers.acceptsRuleset ruleset = true
  · rw [if_pos accepted] at loadedEq
    subst loadedEq
    simp only [pure_ok, Prod.mk.injEq] at ran
    exact Or.inl ⟨ran.1.symm, ruleset, rendered, accepted, ran.2.symm⟩
  · rw [if_neg accepted] at loadedEq
    subst loadedEq
    simp only [pure_ok, Prod.mk.injEq] at ran
    exact Or.inr ⟨ran.1.symm, ran.2.symm, ruleset, rendered, by simpa using accepted⟩

theorem applyRuleset_cases
    (ran : applyRuleset answers files config outbound host = .ok (result, after)) :
    (result = .refreshed ∧ ∃ refresh,
      staticSetsReady answers files config outbound host = .ok true ∧
      renderStaticRefresh files config outbound = .ok refresh ∧
      answers.acceptsRefresh refresh = true ∧ host.refresh refresh = some after) ∨
    (result = .recreated ∧ ∃ ruleset, render files config outbound = .ok ruleset ∧
      answers.acceptsRuleset ruleset = true ∧ after = host.load ruleset) ∨
    (result = .failed ∧ after = host ∧ ∃ ruleset, render files config outbound = .ok ruleset ∧
      answers.acceptsRuleset ruleset = false) := by
  obtain ⟨ready, probe, ran⟩ := bind_ok.mp ran
  cases ready with
  | false => exact Or.inr (recreate_cases ran)
  | true =>
      obtain ⟨refreshed, static, ran⟩ := bind_ok.mp ran
      cases refreshed with
      | none => exact Or.inr (recreate_cases ran)
      | some refreshed =>
          simp only [pure_ok, Prod.mk.injEq] at ran
          obtain ⟨rfl, rfl⟩ := ran
          simp only [applyStaticRefresh, bind_ok, pure_ok] at static
          obtain ⟨refresh, rendered, static⟩ := static
          by_cases accepted : answers.acceptsRefresh refresh = true
          · rw [if_pos accepted] at static
            exact Or.inl ⟨rfl, refresh, probe, rendered, accepted, static⟩
          · rw [if_neg accepted] at static
            exact absurd static (by simp)

theorem applyRuleset_frame
    (ran : applyRuleset answers files config outbound host = .ok (result, after)) :
    after.policy = host.policy ∧ after.stateFiles = host.stateFiles := by
  rcases applyRuleset_cases ran with ⟨-, refresh, -, -, -, ran⟩ | ⟨-, ruleset, -, -, rfl⟩ |
    ⟨-, rfl, -⟩
  · obtain ⟨table, sets, -, -, rfl⟩ := HostState.refresh_some ran
    exact ⟨rfl, rfl⟩
  · exact ⟨rfl, rfl⟩
  · exact ⟨rfl, rfl⟩

theorem nftablesApply_cases
    (ran : nftablesApply answers files config outbound host = .ok (result, after)) :
    ∃ resolved loaded, resolveTargets files config outbound = .ok resolved ∧
      applyRuleset answers files config outbound host = .ok (result, loaded) ∧
      after = if result = .failed then loaded else
        cleanupStaleTargets config resolved.targets
          (loaded.reassert answers.links config resolved.targets) := by
  simp only [nftablesApply, bind_ok] at ran
  obtain ⟨resolved, resolution, ⟨loadResult, loaded⟩, load, ran⟩ := ran
  refine ⟨resolved, loaded, resolution, ?_⟩
  cases loadResult <;> simp only [pure_ok, Prod.mk.injEq] at ran <;> obtain ⟨rfl, rfl⟩ := ran <;>
    exact ⟨load, by simp⟩

end Apply

def willingAnswers : Answers where
  probeWorks := true
  acceptsRefresh := fun _ => true
  acceptsRuleset := fun _ => true
  links := fun _ => true

end Korserver
