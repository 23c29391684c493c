import Korserver.SettingsCore

/-! Whether a request that would leave an invalid configuration changes anything. -/

namespace Korserver

open PythonText PythonValue Effects

section

variable {Config : Type} {context : ConfigContext Config} {request : SettingsRequest}
  {state : ConfigState Config}

def SettingsRequest.Validates (context : ConfigContext Config) (request : SettingsRequest)
    (file : TextFile) : Prop :=
  ∃ data config, request.data context file = .ok data ∧ context.validateYamlConfig data = .ok config

/-- If the result does not validate, the file and the configuration in use stay what they were. -/
def SavesAtomically (context : ConfigContext Config) (request : SettingsRequest)
    (state : ConfigState Config) : Prop :=
  ¬request.Validates context state.file → (request.save context state).state = state

def SettingsRequest.checksFirst : SettingsRequest → Bool
  | .patch _ _ => true
  | .source _ _ => true
  | .certificates _ => false
  | .rotation _ => false

def SettingsRequest.ReadsBack (context : ConfigContext Config) (request : SettingsRequest)
    (file : TextFile) : Prop :=
  ∀ data, request.data context file = .ok data →
    context.yamlLoad (context.yamlDump data) = .ok (.dict data)

theorem loadExistingMapping_written {data : List (String × Json)}
    (readsBack : context.yamlLoad (context.yamlDump data) = .ok (.dict data)) :
    context.loadExistingMapping (.text (context.yamlDump data)) = .ok data := by
  simp [ConfigContext.loadExistingMapping, ConfigContext.parseYamlMapping, readsBack, bind, Except.bind,
    pure, Except.pure]

theorem loadConfig_written {data : List (String × Json)}
    (readsBack : context.yamlLoad (context.yamlDump data) = .ok (.dict data)) :
    context.loadConfig (.text (context.yamlDump data)) = context.validateYamlConfig data := by
  rw [ConfigContext.loadConfig, loadExistingMapping_written readsBack]
  rfl

theorem commit_valid {data : List (String × Json)} {config : Config}
    (readsBack : context.yamlLoad (context.yamlDump data) = .ok (.dict data))
    (valid : context.validateYamlConfig data = .ok config) :
    commit context data state = ⟨.ok config, { file := .text (context.yamlDump data), config }, []⟩ := by
  simp [commit, bind, pure, Program.andThen, Program.modify, Program.tryModify, Program.fromExcept,
    loadConfig_written readsBack, valid]

theorem commit_invalid {data : List (String × Json)} {problem : PyError}
    (readsBack : context.yamlLoad (context.yamlDump data) = .ok (.dict data))
    (invalid : context.validateYamlConfig data = .error problem) :
    commit context data state =
      ⟨.error problem, { state with file := .text (context.yamlDump data) }, []⟩ := by
  simp [commit, bind, Program.andThen, Program.modify, Program.tryModify, Program.fromExcept,
    loadConfig_written readsBack, invalid]

theorem writeRenderedFiles_state (wanted : Bool) (config : Config) :
    (writeRenderedFiles context wanted config state).state = state := by
  cases wanted <;> rfl

theorem commitRendered_state (writeRendered : Bool) (data : List (String × Json)) :
    ((do
      let config ← commit context data
      let written ← writeRenderedFiles context writeRendered config
      return (config, written) : Saving Config (Config × List String)) state).state =
        (commit context data state).state := by
  cases committed : (commit context data state).result with
  | error problem => rw [Program.bind_state_error committed]
  | ok config =>
      rw [Program.bind_state_ok committed]
      cases rendered : (writeRenderedFiles context writeRendered config
        (commit context data state).state).result with
      | error problem => rw [Program.bind_state_error rendered, writeRenderedFiles_state]
      | ok written =>
          rw [Program.bind_state_ok rendered]
          exact writeRenderedFiles_state writeRendered config

variable (writeRendered : Bool)

theorem saveValidated_invalid (invalid : ¬request.Validates context state.file) :
    (saveValidated context request writeRendered state).state = state := by
  cases found : request.data context state.file with
  | error problem => exact Program.bind_state_error found
  | ok data =>
      cases checked : context.validateYamlConfig data with
      | ok config => exact absurd ⟨data, config, found, checked⟩ invalid
      | error problem => exact (Program.bind_state_ok found).trans (Program.bind_state_error checked)

theorem saveValidated_valid {data : List (String × Json)} {config : Config} {written : List String}
    (found : request.data context state.file = .ok data)
    (readsBack : context.yamlLoad (context.yamlDump data) = .ok (.dict data))
    (valid : context.validateYamlConfig data = .ok config)
    (rendered : ∀ state, writeRenderedFiles context writeRendered config state = ⟨.ok written, state, []⟩) :
    saveValidated context request writeRendered state =
      ⟨.ok (config, written), { file := .text (context.yamlDump data), config }, []⟩ := by
  have committed := @commit_valid _ _ state _ _ readsBack valid
  simp only [saveValidated, bind, Program.andThen, Program.fromExcept, found, valid, committed, rendered,
    pure, List.append_nil]

theorem saveUnvalidated_invalid (readsBack : request.ReadsBack context state.file)
    (invalid : ¬request.Validates context state.file) :
    (saveUnvalidated context request writeRendered state).state =
      match request.data context state.file with
      | .ok data => { state with file := .text (context.yamlDump data) }
      | .error _ => state := by
  cases found : request.data context state.file with
  | error problem => exact Program.bind_state_error found
  | ok data =>
      cases checked : context.validateYamlConfig data with
      | ok config => exact absurd ⟨data, config, found, checked⟩ invalid
      | error problem =>
          refine (Program.bind_state_ok found).trans ((commitRendered_state writeRendered data).trans ?_)
          exact congrArg Outcome.state (commit_invalid (readsBack data found) checked)

theorem save_checksFirst (checks : request.checksFirst = true)
    (invalid : ¬request.Validates context state.file) : (request.save context state).state = state := by
  cases request with
  | patch changes writeRendered => exact saveValidated_invalid writeRendered invalid
  | source content writeRendered => exact saveValidated_invalid writeRendered invalid
  | certificates request => nomatch checks
  | rotation validated => nomatch checks

theorem save_writesFirst (writes : request.checksFirst = false)
    (readsBack : request.ReadsBack context state.file)
    (invalid : ¬request.Validates context state.file) :
    (request.save context state).state =
      match request.data context state.file with
      | .ok data => { state with file := .text (context.yamlDump data) }
      | .error _ => state := by
  cases request with
  | patch changes writeRendered => nomatch writes
  | source content writeRendered => nomatch writes
  | certificates request => exact saveUnvalidated_invalid true readsBack invalid
  | rotation validated => exact saveUnvalidated_invalid false readsBack invalid

/-- A save is atomic exactly when the endpoint validates first, the result validates, or the text
it writes is the one already in the file. -/
theorem savesAtomically_iff (readsBack : request.ReadsBack context state.file) :
    SavesAtomically context request state ↔
      request.checksFirst = true ∨ request.Validates context state.file ∨
        ∀ data, request.data context state.file = .ok data →
          state.file = .text (context.yamlDump data) := by
  constructor
  · intro atomic
    cases checks : request.checksFirst with
    | true => exact Or.inl rfl
    | false =>
        refine Or.inr (or_iff_not_imp_left.mpr fun invalid data found => ?_)
        have unchanged := atomic invalid
        rw [save_writesFirst checks readsBack invalid, found] at unchanged
        exact congrArg ConfigState.file unchanged.symm
  · rintro (checks | valid | same) invalid
    · exact save_checksFirst checks invalid
    · exact absurd valid invalid
    · cases checks : request.checksFirst with
      | true => exact save_checksFirst checks invalid
      | false =>
          rw [save_writesFirst checks readsBack invalid]
          split
          · rename_i data found
            rw [← same data found]
          · rfl

def ConfigContext.Loads (context : ConfigContext Config) (file : TextFile) : Prop :=
  ∃ config, context.loadConfig file = .ok config

end

structure CertificatesConfig where
  mode : Json
  serverCert : Json
  serverKey : Json
  caCert : Json

def certificatesConfig (data : List (String × Json)) : CertificatesConfig :=
  let entries := match dictGet "certificates" data with | some (.dict entries) => entries | _ => []
  let field (name : String) : Json := (dictGet name entries).getD .null
  { mode := field "mode", serverCert := field "server_cert", serverKey := field "server_key"
    caCert := field "ca_cert" }

def CertificatesConfig.requireExternalPaths (config : CertificatesConfig) : Except PyError Unit :=
  if config.mode matches .str "external" ∧
      ¬(config.serverCert.truthy ∧ config.serverKey.truthy ∧ config.caCert.truthy) then
    .error (.valueError
      "certificates.server_cert, server_key and ca_cert are required in external mode")
  else .ok ()

def externalMode : SettingsRequest := .certificates (.settings "external" "Korvus Server CA")

def externalData : List (String × Json) :=
  [("certificates", .dict [("mode", .str "external"), ("ca_name", .str "Korvus Server CA")])]

def externalText : String :=
  "certificates:\n  mode: external\n  ca_name: Korvus Server CA\n"

/-- A service without an environment and without a `config.yaml`, where this request and an empty
patch are all that is written. -/
def certificateContext : ConfigContext (List (String × Json)) where
  path := "/etc/korserver/config.yaml"
  yamlLoad := fun text => .ok (.dict (if text = externalText then externalData else []))
  yamlDump := fun data => if data.isEmpty then "\x7b\x7d\n" else externalText
  jsonLoads := fun _ => .undecodable
  environment := []
  modelValidate := fun data => do
    (certificatesConfig data).requireExternalPaths
    return data
  writeRendered := fun _ => .ok []

def defaultState : ConfigState (List (String × Json)) where
  file := .missing
  config := defaultConfig

theorem externalData_invalid (config : List (String × Json)) :
    certificateContext.validateYamlConfig externalData ≠ .ok config := by
  have refused : (certificateContext.validateYamlConfig externalData).toOption.isSome = false := by
    decide +kernel
  intro valid
  simp [valid, Except.toOption] at refused

/-- The same change through `apply_config_patch`. -/
def externalPatch : SettingsRequest := .patch externalData false

theorem savesAtomically_iff_sample :
    ¬externalPatch.Validates certificateContext defaultState.file ∧
      SavesAtomically certificateContext externalPatch defaultState := by
  have found : externalPatch.data certificateContext defaultState.file = .ok externalData := rfl
  constructor
  · rintro ⟨data, config, same, valid⟩
    obtain rfl := Except.ok.inj (found.symm.trans same)
    exact externalData_invalid config valid
  · refine (savesAtomically_iff ?_).mpr (Or.inl rfl)
    intro data same
    obtain rfl := Except.ok.inj (found.symm.trans same)
    rfl

/-- The file that switches to external mode is written, and the service does not start from it. -/
theorem externalMode_written :
    ¬SavesAtomically certificateContext externalMode defaultState ∧
      certificateContext.Loads defaultState.file ∧
      ¬certificateContext.Loads (externalMode.save certificateContext defaultState).state.file := by
  have found : externalMode.data certificateContext defaultState.file = .ok externalData := rfl
  have readsBack : externalMode.ReadsBack certificateContext defaultState.file := by
    intro data same
    obtain rfl := Except.ok.inj (found.symm.trans same)
    rfl
  have accepted : (certificateContext.loadConfig defaultState.file).toOption.isSome = true := by
    decide +kernel
  have notValid : ¬externalMode.Validates certificateContext defaultState.file := by
    rintro ⟨data, config, same, valid⟩
    obtain rfl := Except.ok.inj (found.symm.trans same)
    exact externalData_invalid config valid
  have written : (externalMode.save certificateContext defaultState).state.file = .text externalText := by
    rw [save_writesFirst rfl readsBack notValid, found]
    rfl
  refine ⟨?_, ?_, ?_⟩
  · intro atomic
    have unchanged := congrArg ConfigState.file (atomic notValid)
    rw [written] at unchanged
    nomatch unchanged
  · cases loaded : certificateContext.loadConfig defaultState.file with
    | ok config => exact ⟨config, loaded⟩
    | error problem => simp [loaded, Except.toOption] at accepted
  · rintro ⟨config, loaded⟩
    rw [written] at loaded
    exact externalData_invalid config ((loadConfig_written (readsBack externalData found)).symm.trans loaded)

end Korserver
