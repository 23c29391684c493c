import Korserver.OcservConfCore
import Korserver.Runs
import Korserver.SourceEdit
import Korserver.TextParts

/-!
Whether the running ocserv has the restart-only settings of the configuration that was saved.
-/

namespace Korserver

open PythonText PythonValue Effects Runs

section

variable {Config : Type} (context : ConfigContext Config) (ocserv : Config → OcservConfig)

def restartSettings (config : Config) : List (String × String) := restartOnlySettings (ocserv config).render

/-- The running ocserv was started with the restart-only settings of the configuration. -/
def InStep (running : RunningServer Config) : Prop :=
  restartOnlySettings running.startedWith = restartSettings ocserv running.settings.config

def SaveSucceeds (running : RunningServer Config) (save : SettingsSave) : Prop :=
  ∃ outcome, (save.request.save context running.settings).result = .ok outcome

/-- A save that changes restart-only settings applies its changes, to a server that is enabled. -/
def AppliesChanges (running : RunningServer Config) (save : SettingsSave) : Prop :=
  ∀ outcome, (save.request.save context running.settings).result = .ok outcome →
    restartSettings ocserv running.settings.config ≠ restartSettings ocserv outcome.1 →
      save.applies = true ∧ (ocserv outcome.1).server.enabled = true

def justStarted (settings : ConfigState Config) : RunningServer Config :=
  { settings, startedWith := (ocserv settings.config).render }

variable {context ocserv} {running : RunningServer Config}

theorem save_config {save : SettingsSave} {outcome : Config × List String}
    (saved : (save.request.save context running.settings).result = .ok outcome) :
    (save.request.save context running.settings).state.config = outcome.1 := by
  have validated {request : SettingsRequest} {writeRendered : Bool}
      (saved : (saveValidated context request writeRendered running.settings).result = .ok outcome) :
      (saveValidated context request writeRendered running.settings).state.config = outcome.1 := by
    obtain ⟨data, -, state, -, -⟩ := saveValidated_ok saved
    rw [state]
  cases save <;> exact validated saved

theorem justStarted_inStep (settings : ConfigState Config) : InStep ocserv (justStarted ocserv settings) := by
  rw [InStep, restartSettings, justStarted]

theorem step_saved {save : SettingsSave} {config : Config} {written : List String} {state : ConfigState Config}
    {events : List Empty}
    (saved : save.request.save context running.settings = ⟨.ok (config, written), state, events⟩) :
    running.step context ocserv save =
      if save.applies then
        RunningServer.applied ocserv { running with settings := state } (ocserv running.settings.config).render config
      else { running with settings := state } := by
  simp only [RunningServer.step, saved]

/-- A save that is applied leaves an enabled server with the settings of a process that was in step before. -/
theorem applied_inStep {config : Config} (placed : running.settings.config = config) {previous : String}
    (started : restartOnlySettings running.startedWith = restartOnlySettings previous)
    (enabled : restartOnlySettings previous ≠ restartSettings ocserv config →
      (ocserv config).server.enabled = true) :
    InStep ocserv (running.applied ocserv previous config) := by
  by_cases same : restartOnlySettings previous = restartSettings ocserv config
  · have reloads : (ocserv config).server.enabled = false ∨
        restartRequired previous (ocserv config).render = false := .inr (decide_eq_false (not_not.mpr same))
    have kept : running.applied ocserv previous config = running := by
      rcases reloads with disabled | reload
      · simp [RunningServer.applied, applyConfigChange, disabled]
      · cases on : (ocserv config).server.enabled <;> simp [RunningServer.applied, applyConfigChange, on, reload]
    rw [kept, InStep, started, same, placed]
  · have restart : restartRequired previous (ocserv config).render = true := decide_eq_true same
    have restarted : running.applied ocserv previous config =
        { running with startedWith := (ocserv config).render } := by
      simp [RunningServer.applied, applyConfigChange, enabled same, restart]
    rw [restarted, InStep, placed]
    rfl

theorem step_inStep {save : SettingsSave} (inStep : InStep ocserv running)
    (succeeds : SaveSucceeds context running save) (applies : AppliesChanges context ocserv running save) :
    InStep ocserv (running.step context ocserv save) := by
  obtain ⟨⟨config, written⟩, saved⟩ := succeeds
  have placed := save_config saved
  have changes := applies _ saved
  simp only [RunningServer.step, saved]
  split
  · exact applied_inStep placed inStep fun changed => (changes changed).2
  · rename_i unapplied
    have same : restartSettings ocserv running.settings.config = restartSettings ocserv config := by
      by_contra changed
      exact unapplied (changes changed).1
    exact inStep.trans (same.trans (congrArg (restartSettings ocserv) placed.symm))

end

/-- While every change of a restart-only setting is applied by the save that makes it, ocserv is in step
after every save. -/
theorem saves_inStep {Config : Type} (context : ConfigContext Config) (ocserv : Config → OcservConfig)
    (settings : ConfigState Config) (saves : List SettingsSave)
    (succeed : Throughout (RunningServer.step context ocserv) (SaveSucceeds context) (justStarted ocserv settings)
      saves)
    (applies : Throughout (RunningServer.step context ocserv) (AppliesChanges context ocserv)
      (justStarted ocserv settings) saves) :
    AfterEach (RunningServer.step context ocserv) (fun running save => save.applies = true → InStep ocserv running)
      (justStarted ocserv settings) saves :=
  afterEach_of_throughout
    (fun running save (inStep : InStep ocserv running)
      (each : SaveSucceeds context running save ∧ AppliesChanges context ocserv running save) =>
      step_inStep inStep each.1 each.2)
    (fun _ save inStep (_ : save.applies = true) => inStep) (justStarted_inStep settings) (succeed.and applies)

theorem restartRequired_self (ocservConf : String) : restartRequired ocservConf ocservConf = false :=
  decide_eq_false fun differ => differ rfl

theorem restartOnlySettings_append (text rest : String) :
    restartOnlySettings (text ++ "\n" ++ rest) = restartOnlySettings (text ++ "\n") ++ restartOnlySettings rest := by
  rw [restartOnlySettings, splitLines_append, List.filterMap_append, restartOnlySettings, restartOnlySettings]

theorem restartOnlySettings_join {lines : List String} (some_lines : lines ≠ []) :
    restartOnlySettings (join "\n" lines ++ "\n") = lines.flatMap fun line => restartOnlySettings (line ++ "\n") := by
  induction lines with
  | nil => exact absurd rfl some_lines
  | cons line rest ih =>
      cases rest with
      | nil => rw [join, List.flatMap_cons, List.flatMap_nil, List.append_nil]
      | cons next rest =>
          have cut : join "\n" (line :: next :: rest) ++ "\n" = line ++ "\n" ++ (join "\n" (next :: rest) ++ "\n") := by
            rw [join, String.append_assoc, String.append_assoc]
            rintro ⟨⟩
          rw [cut, restartOnlySettings_append, ih (List.cons_ne_nil _ _)]
          rfl

theorem restartOnlySettings_render {config : OcservConfig} (plain : config.rawOcservOptions = .lines []) :
    restartOnlySettings config.render = config.lines.flatMap fun line => restartOnlySettings (line ++ "\n") := by
  rw [OcservConfig.render, plain, show RawOcservOptions.text (.lines []) = "" from rfl, String.append_empty]
  exact restartOnlySettings_join (List.cons_ne_nil _ _)

def integerOf : Json → Int
  | .int number => number
  | _ => 0

/-- The setting that the saves change; the others are the defaults. -/
def readPort (data : List (String × Json)) : OcservConfig :=
  { server := { port := integerOf (valueAt "port" (valueAt "server" (.dict data))) } }

def portSettings : List (String × Json) := [("port", .int 8443)]

def portSource : List (String × Json) := [("server", .dict portSettings)]

def portYaml : String := "server:\n  port: 8443\n"

def restartContext : ConfigContext OcservConfig where
  path := "/etc/korserver/config.yaml"
  yamlLoad _ := .ok (.dict portSource)
  yamlDump _ := portYaml
  jsonLoads _ := .undecodable
  environment := []
  modelValidate data := .ok (readPort data)
  writeRendered _ := .ok []

def unsaved : ConfigState OcservConfig := { file := .missing, config := {} }

def savedPort : ConfigState OcservConfig :=
  { file := .text portYaml, config := { server := { port := 8443 } } }

theorem port_saved {state : ConfigState OcservConfig} (state_is : state = unsaved ∨ state = savedPort) :
    applyConfigPatch restartContext portSource true state = ⟨.ok (savedPort.config, []), savedPort, []⟩ := by
  have valid : restartContext.validateYamlConfig portSource = .ok savedPort.config := rfl
  have found : (SettingsRequest.patch portSource true).data restartContext state.file = .ok portSource := by
    rcases state_is with rfl | rfl <;> rfl
  exact saveValidated_valid true found rfl valid fun _ => rfl

/-- The port applied by the save that changes it. -/
theorem saves_inStep_sample :
    AfterEach (RunningServer.step restartContext id) (fun running save => save.applies = true → InStep id running)
      (justStarted id unsaved) [.server portSettings true] := by
  have saved := congrArg Outcome.result (port_saved (.inl rfl))
  refine saves_inStep restartContext id unsaved _ ⟨⟨_, saved⟩, trivial⟩ ⟨?_, trivial⟩
  intro outcome accepted _
  obtain rfl := Except.ok.inj (saved.symm.trans accepted)
  exact ⟨rfl, rfl⟩

def notRestarted : RunningServer OcservConfig :=
  { settings := savedPort, startedWith := OcservConfig.render {} }

theorem port_unapplied :
    RunningServer.step restartContext id (justStarted id unsaved) (.server portSettings false) = notRestarted :=
  step_saved (port_saved (.inl rfl))

theorem port_reloaded :
    RunningServer.step restartContext id notRestarted (.server portSettings true) = notRestarted := by
  have reloads : applyConfigChange (id savedPort.config).render (id savedPort.config) = some .reload := by
    rw [applyConfigChange, restartRequired_self]
    rfl
  have saved : (SettingsSave.server portSettings true).request.save restartContext notRestarted.settings =
      ⟨.ok (savedPort.config, []), savedPort, []⟩ := port_saved (.inr rfl)
  have applied : notRestarted.applied id (id savedPort.config).render savedPort.config = notRestarted := by
    rw [RunningServer.applied, reloads]
  rw [step_saved saved]
  exact (if_pos rfl).trans applied

theorem port_differs : restartOnlySettings (OcservConfig.render {}) ≠ restartOnlySettings savedPort.config.render := by
  rw [restartOnlySettings_render rfl, restartOnlySettings_render rfl, OcservConfig.lines, OcservConfig.lines,
    List.flatMap_cons, List.flatMap_cons]
  intro same
  have settings := List.append_cancel_left same
  exact absurd (congrArg List.head? settings) (by decide +kernel)

/-- The port is saved without a reload and then again with one: ocserv goes on listening on the old port. -/
theorem oldPort_running : ¬∀ saves,
    Throughout (RunningServer.step restartContext id) (SaveSucceeds restartContext) (justStarted id unsaved) saves →
      AfterEach (RunningServer.step restartContext id) (fun running save => save.applies = true → InStep id running)
        (justStarted id unsaved) saves := by
  intro follows
  have succeed : Throughout (RunningServer.step restartContext id) (SaveSucceeds restartContext)
      (justStarted id unsaved) [.server portSettings false, .server portSettings true] := by
    refine ⟨⟨_, congrArg Outcome.result (port_saved (.inl rfl))⟩, ?_, trivial⟩
    rw [port_unapplied]
    exact ⟨_, congrArg Outcome.result (port_saved (.inr rfl))⟩
  obtain ⟨-, applied, -⟩ := follows _ succeed
  rw [port_unapplied, port_reloaded] at applied
  exact port_differs (applied rfl)

end Korserver
