import Korserver.PushedStoreCore

/-!
The hook and the sync of one profile run in two processes and share its file without a lock. A
handshake survives exactly when its save does not fall between the sync's load and its save, or
what the sync loaded says the same.
-/

namespace Korserver

open PythonText PythonValue Interleavings Runs

@[simp] theorem loadPushed_savePushed (files : Files) (config : AppConfig)
    (profile : UpstreamProfileConfig) (pushed : PushedRouting) :
    (files.savePushed config profile pushed).loadPushed config profile = pushed := by
  simp [Files.savePushed, Files.loadPushed, PushedRouting.entries, PushedRouting.ofEntries, lookup]

def SyncCall.Failed (sync : SyncCall) : Prop :=
  truthy sync.profile.syncUrl = none ∨ ∀ lists, sync.lists ≠ .ok lists

def KeepsHandshake (sync : SyncCall) (hook : HookCall) (stored : PushedRouting) : Prop :=
  stored.dns = hook.pushed.dns ∧
    (sync.Failed → stored.routes = hook.pushed.routes ∧ stored.domains = hook.pushed.domains)

def SyncCall.held (sync : SyncCall) : SyncStage → Option PushedRouting
  | .loaded previous =>
      match sync.answer with
      | .raised => none
      | _ => some previous
  | .answered previous => some previous
  | _ => none

/-- A save of the hook does not fall between the sync's load and its save, unless the sync holds
the same lists. -/
def SavesAlone (sync : SyncCall) (hook : HookCall) (race : Race) (side : Side) : Prop :=
  side = .right → (∃ profile previous, race.right = .loaded profile previous) →
    ∀ previous, sync.held race.left = some previous → KeepsHandshake sync hook previous

section

variable {config : AppConfig} {sync : SyncCall} {hook : HookCall}

structure RaceSound (sync : SyncCall) (race : Race) : Prop where
  profile : ∀ profile previous, race.right = .loaded profile previous → profile = sync.profile
  url : sync.held race.left ≠ none → truthy sync.profile.syncUrl ≠ none

def Survives (config : AppConfig) (sync : SyncCall) (hook : HookCall) (race : Race) : Prop :=
  race.right = .finished → KeepsHandshake sync hook
    ((sync.held race.left).getD (race.shared.loadPushed config sync.profile))

theorem keepsHandshake_paced (previous : PushedRouting) :
    KeepsHandshake sync hook (hook.pushed.paced previous) :=
  ⟨rfl, fun _ => ⟨rfl, rfl⟩⟩

theorem keepsHandshake_result (url : truthy sync.profile.syncUrl ≠ none) (previous : PushedRouting) :
    KeepsHandshake sync hook (sync.result config previous) ↔ KeepsHandshake sync hook previous := by
  unfold SyncCall.result
  split
  · rfl
  · rename_i lists read
    have succeeded : ¬sync.Failed := by
      rintro (noUrl | failed)
      · exact url noUrl
      · exact failed lists read
    simp [KeepsHandshake, succeeded]

theorem syncStep_keeps {files : Files} {stage : SyncStage}
    (url : sync.held stage ≠ none → truthy sync.profile.syncUrl ≠ none) :
    KeepsHandshake sync hook ((sync.held (sync.step config files stage).2).getD
        ((sync.step config files stage).1.loadPushed config sync.profile)) ↔
      KeepsHandshake sync hook ((sync.held stage).getD (files.loadPushed config sync.profile)) := by
  cases stage with
  | called =>
      cases given : truthy sync.profile.syncUrl with
      | none => simp [SyncCall.step, SyncCall.held, given]
      | some syncUrl =>
          simp only [SyncCall.step, SyncCall.held, given, Option.getD_none]
          split <;> rfl
  | loaded previous =>
      cases answer : sync.answer with
      | raised => simp [SyncCall.step, SyncCall.held, answer]
      | curlFailed returncode stderr => simp [SyncCall.step, SyncCall.held, answer]
      | notJson message => simp [SyncCall.step, SyncCall.held, answer]
      | json payload => simp [SyncCall.step, SyncCall.held, answer]
  | answered previous =>
      simp only [SyncCall.step, SyncCall.held, loadPushed_savePushed, Option.getD_none,
        Option.getD_some]
      exact keepsHandshake_result (url (by simp [SyncCall.held])) previous
  | finished => simp [SyncCall.step]

theorem syncStep_url {files : Files} {stage : SyncStage}
    (url : sync.held stage ≠ none → truthy sync.profile.syncUrl ≠ none) :
    sync.held (sync.step config files stage).2 ≠ none → truthy sync.profile.syncUrl ≠ none := by
  cases stage with
  | called =>
      cases given : truthy sync.profile.syncUrl with
      | none => simp [SyncCall.step, SyncCall.held, given]
      | some syncUrl => simp
  | loaded previous =>
      cases answer : sync.answer with
      | raised => simp [SyncCall.step, SyncCall.held, answer]
      | curlFailed returncode stderr => exact fun _ => url (by simp [SyncCall.held, answer])
      | notJson message => exact fun _ => url (by simp [SyncCall.held, answer])
      | json payload => exact fun _ => url (by simp [SyncCall.held, answer])
  | answered previous => simp [SyncCall.step, SyncCall.held]
  | finished => simp [SyncCall.step, SyncCall.held]

variable (recorded : hook.profile config = some sync.profile)

include recorded

theorem raceTurn_sound (race : Race) (side : Side) (sound : RaceSound sync race) :
    RaceSound sync (raceTurn config sync hook race side) := by
  cases side with
  | left => exact ⟨sound.profile, syncStep_url sound.url⟩
  | right =>
      refine ⟨?_, sound.url⟩
      intro profile previous stage
      cases right : race.right with
      | called =>
          simp only [raceTurn, turn, right, HookCall.step, recorded, HookStage.loaded.injEq] at stage
          exact stage.1.symm
      | loaded other before => simp [raceTurn, turn, right, HookCall.step] at stage
      | finished => simp [raceTurn, turn, right, HookCall.step] at stage

theorem raceTurn_survives (race : Race) (side : Side) (sound : RaceSound sync race) :
    Survives config sync hook (raceTurn config sync hook race side) ↔
      Survives config sync hook race ∧ SavesAlone sync hook race side := by
  cases side with
  | left =>
      have alone : SavesAlone sync hook race .left := by simp [SavesAlone]
      simp only [alone, and_true]
      exact imp_congr_right fun _ => syncStep_keeps sound.url
  | right =>
      cases right : race.right with
      | called => simp [Survives, SavesAlone, raceTurn, turn, right, HookCall.step, recorded]
      | loaded profile before =>
          obtain rfl := sound.profile profile before right
          have through : Survives config sync hook race := by simp [Survives, right]
          simp only [through, true_and]
          simp only [Survives, SavesAlone, raceTurn, turn, right, HookCall.step, true_imp_iff,
            loadPushed_savePushed]
          cases held : sync.held race.left with
          | none => simp [keepsHandshake_paced]
          | some previous => simp
      | finished => simp [Survives, SavesAlone, raceTurn, turn, right, HookCall.step]

/-- After both writers are through, the handshake is stored exactly when every save of the hook
met no sync that still had other lists to write back. -/
theorem handshakeKept_iff (files : Files) (schedule : List Side)
    (finished : (run (raceTurn config sync hook) (raceStart files) schedule).left = .finished ∧
      (run (raceTurn config sync hook) (raceStart files) schedule).right = .finished) :
    KeepsHandshake sync hook ((run (raceTurn config sync hook) (raceStart files)
        schedule).shared.loadPushed config sync.profile) ↔
      Throughout (raceTurn config sync hook) (SavesAlone sync hook) (raceStart files) schedule := by
  have sound : RaceSound sync (raceStart files) := ⟨by simp [raceStart], by simp [raceStart, SyncCall.held]⟩
  have verdict := @run_iff _ _ (raceTurn config sync hook) (RaceSound sync)
    (Survives config sync hook) (SavesAlone sync hook) (raceTurn_sound recorded)
    (raceTurn_survives recorded) (raceStart files) schedule sound
  have start : Survives config sync hook (raceStart files) := by simp [Survives, raceStart]
  simp only [start, true_and] at verdict
  rw [← verdict, Survives, finished.1, finished.2]
  simp [SyncCall.held]

end

def pushedProfile : UpstreamProfileConfig :=
  { name := "office", server := "vpn.example.com", username := some "me"
    syncUrl := some "https://vpn.example.com" }

def pushedConfig : AppConfig := { upstream := { enabled := true, profiles := [pushedProfile] } }

def pushedHandshake (server : String) : HookCall where
  reason := "reconnect"
  environ := fun key => dictGet key [
    ("TUNDEV", pushedConfig.upstream.profileInterface pushedProfile), ("INTERNAL_IP4_DNS", server)]
  now := 200

def pushedSync : SyncCall where
  profile := pushedProfile
  answer := .json (.dict [("routes", .list [.str "10.1.0.0/16"]), ("version", .str "7")])
  now := 190
  repr := fun _ => ""

def earlierHandshake : Files :=
  ({} : Files).savePushed pushedConfig pushedProfile (pushedHandshake "10.1.0.53").pushed

theorem handshakeKept_iff_sample :
    KeepsHandshake pushedSync (pushedHandshake "10.9.0.53")
      ((run (raceTurn pushedConfig pushedSync (pushedHandshake "10.9.0.53"))
        (raceStart earlierHandshake) [.right, .right, .left, .left, .left]).shared.loadPushed
          pushedConfig pushedProfile) :=
  (handshakeKept_iff (by rfl) earlierHandshake [.right, .right, .left, .left, .left]
    ⟨rfl, rfl⟩).mpr (by
      refine ⟨?_, ?_, ?_, ?_, ?_, trivial⟩
      · rintro - ⟨profile, previous, stage⟩
        nomatch stage
      · rintro - - previous held
        nomatch held
      all_goals simp [SavesAlone])

/-- The sync writes back the DNS server that it loaded before its request. -/
theorem sync_revertsHandshake :
    ¬KeepsHandshake pushedSync (pushedHandshake "10.9.0.53")
      ((run (raceTurn pushedConfig pushedSync (pushedHandshake "10.9.0.53"))
        (raceStart earlierHandshake) [.left, .right, .right, .left, .left]).shared.loadPushed
          pushedConfig pushedProfile) := by
  have stored : (run (raceTurn pushedConfig pushedSync (pushedHandshake "10.9.0.53"))
      (raceStart earlierHandshake) [.left, .right, .right, .left, .left]).shared.loadPushed
        pushedConfig pushedProfile =
      pushedSync.result pushedConfig (pushedHandshake "10.1.0.53").pushed := by rfl
  have old : collect normalizePushedIp (pushedServers (pushedHandshake "10.1.0.53").environ) =
      ["10.1.0.53"] := by decide +kernel
  have new : collect normalizePushedIp (pushedServers (pushedHandshake "10.9.0.53").environ) =
      ["10.9.0.53"] := by decide +kernel
  rintro ⟨reverted, -⟩
  rw [stored] at reverted
  change texts (collect _ _) = texts (collect _ _) at reverted
  rw [old, new] at reverted
  simp [texts] at reverted

end Korserver
