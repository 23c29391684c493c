import Korserver.GroupPolicy
import Korserver.Identifiers
import Korserver.Runs

/-!
The file of a group, which `services/groups.py` writes for the settings of the group, and
`services/config.py` for a policy of the same name.
-/

namespace Korserver

open PythonText PythonValue PosixPaths Runs UserConfig

/-! The two writers. -/

/-- What they read of the configuration. -/
structure GroupSettings where
  generatedDir : PosixPath
  configPerGroupDir : Option PosixPath := none
  groupPolicies : List GroupPolicyConfig := []
  /-- The rendered files that are not those of groups, such as `ocserv.conf`. -/
  serviceFiles : List (PosixPath × String) := []

def GroupSettings.groupConfigDir (settings : GroupSettings) : PosixPath :=
  settings.configPerGroupDir.getD (settings.generatedDir.join "config-per-group")

def GroupSettings.groupPolicyTargetPath (settings : GroupSettings) (group : GroupPolicyConfig) : PosixPath :=
  settings.groupConfigDir.join group.name

def GroupSettings.renderFiles (settings : GroupSettings) : Except PyError (List (PosixPath × String)) := do
  let policies ← settings.groupPolicies.mapM fun group => do
    let text ← renderGroupPolicy group
    return (settings.groupPolicyTargetPath group, text)
  return settings.serviceFiles ++ policies

/-- The text files of the tree, by their places. -/
abbrev FileTree := List (List Char) → Option String

section

variable (workingDir : List (List Char))

def writeText (files : FileTree) (file : PosixPath × String) : FileTree :=
  Function.update files (file.1.place workingDir) (some file.2)

structure GroupStore where
  settings : GroupSettings
  files : FileTree

/-- Everything is rendered before the first file is written. -/
def GroupStore.writeRenderedFiles (store : GroupStore) : GroupStore :=
  match store.settings.renderFiles with
  | .ok rendered => { store with files := rendered.foldl (writeText workingDir) store.files }
  | .error _ => store

def GroupSettings.groupConfigPath (settings : GroupSettings) (name : String) : Except PyError PosixPath := do
  let name ← validateGroupConfigName name
  return settings.groupConfigDir.join name

def GroupStore.saveGroupConfig (store : GroupStore) (name : String) (groupConfig : UserConfig) :
    Except PyError GroupStore := do
  let path ← store.settings.groupConfigPath name
  let text ← renderUserConfig groupConfig
  return { store with files := writeText workingDir store.files (path, text) }

def GroupStore.readGroupConfig (store : GroupStore) (name : String) : Except PyError UserConfig := do
  let path ← store.settings.groupConfigPath name
  let parsed := (store.files (path.place workingDir)).elim {} parseUserConfigFile
  parsed.modelValidate

inductive GroupStoreEvent
  | saveConfig (settings : GroupSettings) (writeRendered : Bool)
  | writeRendered

def GroupStore.step (store : GroupStore) : GroupStoreEvent → GroupStore
  | .saveConfig settings writeRendered =>
      let saved := { store with settings }
      if writeRendered then saved.writeRenderedFiles workingDir else saved
  | .writeRendered => store.writeRenderedFiles workingDir

/-! Steps that leave the file of a group alone. -/

def GroupSettings.Spares (settings : GroupSettings) (path : PosixPath) : Prop :=
  (∀ file ∈ settings.serviceFiles, file.1.place workingDir ≠ path.place workingDir) ∧
    ∀ group ∈ settings.groupPolicies,
      (settings.groupPolicyTargetPath group).place workingDir ≠ path.place workingDir

/-- The directory of the group files stays what it is, and nothing is rendered to the file of the group. -/
def LeavesGroup (name : String) (store : GroupStore) : GroupStoreEvent → Prop
  | .saveConfig settings writeRendered =>
      settings.groupConfigDir = store.settings.groupConfigDir ∧
        (writeRendered = true → settings.Spares workingDir (settings.groupConfigDir.join name))
  | .writeRendered => store.settings.Spares workingDir (store.settings.groupConfigDir.join name)

variable {workingDir} {store : GroupStore} {name : String}

theorem mem_mapM {ε α β : Type} {f : α → Except ε β} {items : List α} {results : List β}
    (made : items.mapM f = .ok results) : ∀ result ∈ results, ∃ item ∈ items, f item = .ok result := by
  induction items generalizing results with
  | nil =>
      obtain rfl := Except.ok.inj made
      exact List.forall_mem_nil _
  | cons item rest ih =>
      rw [List.mapM_cons] at made
      obtain ⟨first, read, made⟩ := bind_ok.mp made
      obtain ⟨others, later, same⟩ := bind_ok.mp made
      obtain rfl := pure_ok.mp same
      refine List.forall_mem_cons.mpr ⟨⟨item, List.mem_cons_self, read⟩, fun result member => ?_⟩
      obtain ⟨other, inRest, read⟩ := ih later result member
      exact ⟨other, List.mem_cons_of_mem _ inRest, read⟩

theorem renderFiles_paths {settings : GroupSettings} {rendered : List (PosixPath × String)}
    (renders : settings.renderFiles = .ok rendered) {path : PosixPath} (spares : settings.Spares workingDir path) :
    ∀ file ∈ rendered, file.1.place workingDir ≠ path.place workingDir := by
  obtain ⟨policies, made, same⟩ := bind_ok.mp renders
  obtain rfl := pure_ok.mp same
  refine List.forall_mem_append.mpr ⟨spares.1, fun file member => ?_⟩
  obtain ⟨group, inPolicies, written⟩ := mem_mapM made file member
  obtain ⟨text, -, same⟩ := bind_ok.mp written
  obtain rfl := pure_ok.mp same
  exact spares.2 group inPolicies

theorem writeTexts_other {written : List (PosixPath × String)} {place : List (List Char)}
    (others : ∀ file ∈ written, file.1.place workingDir ≠ place) (files : FileTree) :
    written.foldl (writeText workingDir) files place = files place := by
  induction written generalizing files with
  | nil => rfl
  | cons file rest ih =>
      obtain ⟨first, behind⟩ := List.forall_mem_cons.mp others
      rw [List.foldl_cons, ih behind, writeText, Function.update_of_ne first.symm]

theorem writeTexts_last (written : List (PosixPath × String)) (file : PosixPath × String) (files : FileTree) :
    (written ++ [file]).foldl (writeText workingDir) files (file.1.place workingDir) = some file.2 := by
  rw [List.foldl_append]
  exact Function.update_self ..

theorem writeRenderedFiles_ok {rendered : List (PosixPath × String)}
    (renders : store.settings.renderFiles = .ok rendered) :
    (store.writeRenderedFiles workingDir).settings = store.settings ∧
      (store.writeRenderedFiles workingDir).files = rendered.foldl (writeText workingDir) store.files := by
  rw [GroupStore.writeRenderedFiles, renders]
  exact ⟨rfl, rfl⟩

theorem writeRenderedFiles_spares {path : PosixPath} (spares : store.settings.Spares workingDir path) :
    (store.writeRenderedFiles workingDir).settings = store.settings ∧
      (store.writeRenderedFiles workingDir).files (path.place workingDir) = store.files (path.place workingDir) := by
  cases renders : store.settings.renderFiles with
  | ok rendered =>
      obtain ⟨settings, files⟩ := @writeRenderedFiles_ok workingDir _ _ renders
      exact ⟨settings, by rw [files, writeTexts_other (renderFiles_paths renders spares)]⟩
  | error problem =>
      rw [GroupStore.writeRenderedFiles, renders]
      exact ⟨rfl, rfl⟩

theorem groupConfigName_same {accepted : String} (valid : validateGroupConfigName name = .ok accepted) :
    accepted = name := by
  rw [validateGroupConfigName] at valid
  split at valid
  · exact (Except.ok.inj valid).symm
  · nomatch valid

example : [(PosixPath.ofText "a", "1"), (PosixPath.ofText "./a", "2")].foldl (writeText []) (fun _ => none) ["a".toList] =
    some "2" := by decide +kernel

/-- The file of the group holds the text, in the directory where it was saved. -/
structure HoldsGroup (workingDir : List (List Char)) (directory : PosixPath) (name text : String)
    (store : GroupStore) : Prop where
  there : store.settings.groupConfigDir = directory
  holds : store.files ((directory.join name).place workingDir) = some text

theorem holdsGroup_step {directory : PosixPath} {text : String} (holds : HoldsGroup workingDir directory name text store)
    {event : GroupStoreEvent} (leaves : LeavesGroup workingDir name store event) :
    HoldsGroup workingDir directory name text (store.step workingDir event) := by
  obtain ⟨there, held⟩ := holds
  have rendered {store : GroupStore} (there : store.settings.groupConfigDir = directory)
      (held : store.files ((directory.join name).place workingDir) = some text)
      (spares : store.settings.Spares workingDir (directory.join name)) :
      HoldsGroup workingDir directory name text (store.writeRenderedFiles workingDir) := by
    obtain ⟨settings, kept⟩ := writeRenderedFiles_spares spares
    exact ⟨settings ▸ there, kept.trans held⟩
  cases event with
  | saveConfig settings writeRendered =>
      obtain ⟨same, spares⟩ := leaves
      rw [same, there] at spares
      rw [GroupStore.step]
      split
      · rename_i writes
        exact rendered (same.trans there) held (spares writes)
      · exact ⟨same.trans there, held⟩
  | writeRendered => exact rendered there held (there ▸ leaves)

end

/-- A group's settings are read as they were saved, while nothing is rendered to their file and the directory
of the group files stays the same. -/
theorem groupConfig_survives (workingDir : List (List Char)) {store saved : GroupStore} {name : String}
    {data groupConfig : UserConfig} (valid : data.modelValidate = .ok groupConfig) (fits : FitsFile groupConfig)
    (save : store.saveGroupConfig workingDir name groupConfig = .ok saved) (events : List GroupStoreEvent)
    (leaves : Throughout (GroupStore.step workingDir) (LeavesGroup workingDir name) saved events) :
    (run (GroupStore.step workingDir) saved events).readGroupConfig workingDir name = .ok groupConfig := by
  obtain ⟨path, found, written⟩ := bind_ok.mp save
  obtain ⟨text, rendered, written⟩ := bind_ok.mp written
  obtain rfl := pure_ok.mp written
  obtain ⟨accepted, named, joined⟩ := bind_ok.mp found
  obtain rfl := pure_ok.mp joined
  obtain rfl := groupConfigName_same named
  have initial : HoldsGroup workingDir store.settings.groupConfigDir accepted text
      { store with files := writeText workingDir store.files (store.settings.groupConfigDir.join accepted, text) } :=
    ⟨rfl, Function.update_self ..⟩
  obtain ⟨there, holds⟩ := run_throughout (fun current _ (holds : HoldsGroup workingDir _ accepted text current)
    leaves => holdsGroup_step holds leaves) initial leaves
  refine bind_ok.mpr ⟨_, bind_ok.mpr ⟨accepted, named, rfl⟩, ?_⟩
  rw [there, holds]
  exact fits.rereads valid rendered

/-! The group `admins`. -/

def adminsConfig : UserConfig where
  numbers field := if field = .sessionTimeout then some 3600 else none

theorem adminsConfig_valid : adminsConfig.modelValidate = .ok adminsConfig := by
  refine modelValidate_iff.mpr ⟨fun field => ?_, fun given => absurd rfl given⟩
  rcases field with field | field | field | field <;> cases field <;> decide +kernel

theorem adminsConfig_fits : FitsFile adminsConfig := by
  refine ⟨⟨fun _ _ member => absurd member List.not_mem_nil, nofun⟩, fun field number given => ?_⟩
  cases field with
  | sessionTimeout =>
      obtain rfl := Option.some.inj given
      decide +kernel
  | _ => nomatch given

example : adminsConfig.directiveLines ConfigField.all = ["session-timeout = 3600"] := by decide +kernel

def groupSettings (policies : List GroupPolicyConfig) : GroupSettings where
  generatedDir := .ofText "/var/lib/korserver/generated"
  groupPolicies := policies
  serviceFiles := [(.ofText "/var/lib/korserver/generated/ocserv.conf", "")]

def groupStore (policies : List GroupPolicyConfig) : GroupStore :=
  { settings := groupSettings policies, files := fun _ => none }

def adminsPath : PosixPath := .ofText "/var/lib/korserver/generated/config-per-group/admins"

def adminsText : String :=
  generatedComment ++ "\n" ++ fileText (adminsConfig.directiveLines ConfigField.all)

def adminsSaved (policies : List GroupPolicyConfig) : GroupStore :=
  { groupStore policies with files := writeText [] (fun _ => none) (adminsPath, adminsText) }

theorem admins_join (policies : List GroupPolicyConfig) :
    (groupSettings policies).groupConfigDir.join "admins" = adminsPath := by
  change ((PosixPath.ofText "/var/lib/korserver/generated").join "config-per-group").join "admins" = adminsPath
  decide +kernel

theorem admins_path (policies : List GroupPolicyConfig) :
    (groupSettings policies).groupConfigPath "admins" = .ok adminsPath := by
  have named : validateGroupConfigName "admins" = .ok "admins" := if_pos (by decide +kernel)
  exact bind_ok.mpr ⟨"admins", named, congrArg Except.ok (admins_join policies)⟩

theorem admins_saved (policies : List GroupPolicyConfig) :
    (groupStore policies).saveGroupConfig [] "admins" adminsConfig = .ok (adminsSaved policies) :=
  bind_ok.mpr ⟨adminsPath, admins_path policies,
    bind_ok.mpr ⟨adminsText, render_iff.mpr ⟨adminsConfig_fits.numbers, rfl⟩, rfl⟩⟩

theorem groupConfig_survives_sample :
    (run (GroupStore.step []) (adminsSaved []) [.saveConfig (groupSettings [{ name := "staff" }]) true,
      .writeRendered]).readGroupConfig [] "admins" = .ok adminsConfig := by
  have spares : (groupSettings [{ name := "staff" }]).Spares [] adminsPath := by
    constructor
    · rintro file member
      obtain rfl := List.mem_singleton.mp member
      decide +kernel
    · rintro group member
      obtain rfl := List.mem_singleton.mp member
      decide +kernel
  exact groupConfig_survives [] adminsConfig_valid adminsConfig_fits (admins_saved []) _
    ⟨⟨rfl, fun _ => spares⟩, spares, trivial⟩

/-- The next rendering puts the policy of the same name in the place of the settings. -/
theorem policy_overwrites :
    (groupStore [admins]).saveGroupConfig [] "admins" adminsConfig = .ok (adminsSaved [admins]) ∧
      (run (GroupStore.step []) (adminsSaved [admins]) [.writeRendered]).readGroupConfig [] "admins" ≠
        .ok adminsConfig := by
  refine ⟨admins_saved [admins], fun read => ?_⟩
  obtain ⟨text, policy⟩ : ∃ text, renderGroupPolicy admins = .ok text := ⟨_, rfl⟩
  have renders : (adminsSaved [admins]).settings.renderFiles =
      .ok ((groupSettings [admins]).serviceFiles ++ [(adminsPath, text)]) := by
    have target : (groupSettings [admins]).groupPolicyTargetPath admins = adminsPath := admins_join [admins]
    refine bind_ok.mpr ⟨[(adminsPath, text)], ?_, rfl⟩
    change [admins].mapM _ = _
    rw [List.mapM_cons]
    exact bind_ok.mpr ⟨_, bind_ok.mpr ⟨text, policy, congrArg (fun path => Except.ok (path, text)) target⟩, rfl⟩
  obtain ⟨settings, files⟩ := @writeRenderedFiles_ok [] _ _ renders
  obtain ⟨path, found, parsed⟩ := bind_ok.mp read
  have same : path = adminsPath := Except.ok.inj (found.symm.trans (settings ▸ admins_path [admins]))
  have holds : ((adminsSaved [admins]).writeRenderedFiles []).files (path.place []) = some text := by
    rw [files, same]
    exact writeTexts_last _ (adminsPath, text) _
  have reread : (parseUserConfigFile text).modelValidate = .ok adminsConfig := by
    change (Option.elim (((adminsSaved [admins]).writeRenderedFiles []).files (path.place [])) {}
      parseUserConfigFile).modelValidate = _ at parsed
    rwa [holds] at parsed
  have checked := (modelValidate_iff.mp reread).1 (.number .sessionTimeout)
  have absent : (parseUserConfigFile text).numbers .sessionTimeout = none := by
    obtain ⟨-, rfl⟩ := renderGroupPolicy_iff.mp policy
    decide +kernel
  rw [Validates, absent] at checked
  exact absurd checked (by decide +kernel)

end Korserver
