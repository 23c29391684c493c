import Korserver.AdminAccessCore
import Korserver.GroupFiles
import Korserver.SettingsCore

/-!
`delete_group` of `api/routes_groups.py`. It removes the group's file, rewrites the records of its
members, and saves the configuration without its policy.
-/

namespace Korserver

open PythonText PythonValue Effects PosixPaths

inductive TreeEntry
  | file (content : String)
  | directory
  deriving DecidableEq

structure GroupWorld (Config : Type) where
  passwd : TextFile
  tree : List (List Char) → Option TreeEntry
  settings : ConfigState Config

/-- What the request is given: the libraries and the environment behind the configuration, what it says of
groups, and how pydantic dumps a policy. -/
structure GroupService (Config : Type) where
  context : ConfigContext Config
  workingDir : List (List Char)
  groupSettings : Config → GroupSettings
  dumpPolicy : GroupPolicyConfig → Json

abbrev GroupRequest (Config α : Type) : Type := Program (GroupWorld Config) Empty RequestError α

/-- `raise HTTPException(400, str(exc))` for a `ValueError`. -/
def badRequest : PyError → RequestError
  | .valueError message => .http 400 message
  | error => .uncaught error

namespace GroupService

variable {Config : Type} (service : GroupService Config)

def onPasswd (change : TextFile → Except PyError TextFile) : GroupRequest Config Unit :=
  Program.tryModify fun world =>
    ((change world.passwd).map fun passwd => { world with passwd }).mapError .uncaught

def onConfig {α : Type} (program : Saving Config α) : GroupRequest Config α := fun world =>
  let outcome := program world.settings
  ⟨outcome.result.mapError .uncaught, { world with settings := outcome.state }, []⟩

def groupPlace (config : Config) (name : String) : List (List Char) :=
  ((service.groupSettings config).groupConfigDir.join name).place service.workingDir

/-- `delete_group_config`: whether there was a file. A directory cannot be unlinked. -/
def deleteGroupConfig (config : Config) (name : String) : GroupRequest Config Bool := do
  let _ ← Program.fromExcept fun _ =>
    ((service.groupSettings config).groupConfigPath name).mapError .uncaught
  let entry ← Program.read fun world => world.tree (service.groupPlace config name)
  match entry with
  | none => return false
  | some .directory => Program.raise (.uncaught .osError)
  | some (.file _) => do
      Program.modify fun world =>
        { world with tree := Function.update world.tree (service.groupPlace config name) none }
      return true

def clearMembers (name : String) : List UserRecord → GroupRequest Config (List String)
  | [] => return []
  | user :: rest => do
      let remaining := user.groups.filter (· ≠ name)
      if remaining.length ≠ user.groups.length then do
        onPasswd (setUserGroups user.username remaining)
        let cleared ← clearMembers name rest
        return user.username :: cleared
      else clearMembers name rest

def policyPatch (config : Config) (name : String) : List (String × Json) :=
  let policies := (service.groupSettings config).groupPolicies.filter (·.name ≠ name)
  [("identity", .dict [("group_policies", .list (policies.map service.dumpPolicy))])]

def writeEntries (tree : List (List Char) → Option TreeEntry) (files : List (PosixPath × String)) :
    List (List Char) → Option TreeEntry :=
  files.foldl (fun tree file => Function.update tree (file.1.place service.workingDir) (some (.file file.2))) tree

/-- The files are written once all of them are rendered. -/
def writeRendered (config : Config) : GroupRequest Config Unit := do
  let rendered ← Program.fromExcept fun _ => (service.groupSettings config).renderFiles.mapError .uncaught
  Program.modify fun world => { world with tree := service.writeEntries world.tree rendered }

/-- `apply_config_patch` with the patch; it renders the files of the configuration that it has loaded. -/
def savePolicies (config : Config) (name : String) : GroupRequest Config Unit := do
  let (loaded, _) ← onConfig (applyConfigPatch service.context (service.policyPatch config name) false)
  service.writeRendered loaded

def summary (configDeleted policyRemoved : Bool) (cleared : List String) : String :=
  let parts := (if configDeleted then ["config file removed"] else []) ++
    (if policyRemoved then ["group policy entry removed"] else []) ++
    if cleared.isEmpty then [] else ["cleared from: " ++ join ", " cleared]
  (if parts.isEmpty then "group had nothing to remove" else join "; " parts) ++ "\n"

def deleteGroup (name : String) : GroupRequest Config String := do
  let config ← Program.read (·.settings.config)
  let _ ← Program.fromExcept fun _ => (validateGroupConfigName name).mapError badRequest
  let configDeleted ← service.deleteGroupConfig config name
  let users ← Program.fromExcept fun world => (listUsers world.passwd).mapError .uncaught
  let cleared ← clearMembers name users
  service.savePolicies config name
  let policyRemoved := (service.groupSettings config).groupPolicies.any (·.name = name)
  return summary configDeleted policyRemoved cleared

def isFile : Option TreeEntry → Bool
  | some (.file _) => true
  | _ => false

/-- Whether `list_groups` has the name: that of a policy, or of a file that is not hidden. -/
def listsGroup (world : GroupWorld Config) (name : String) : Bool :=
  let settings := service.groupSettings world.settings.config
  settings.groupPolicies.any (·.name = name) ||
    (name.toList.head? ≠ some '.' &&
      isFile (world.tree (name.toList :: settings.groupConfigDir.place service.workingDir)))

end GroupService

end Korserver
