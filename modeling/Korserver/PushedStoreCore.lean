import Korserver.Interleavings
import Korserver.PushedParserCore

/-!
The store of pushed lists (`PushedRoutingStore` in `services/upstream_pushed.py`) and its two
writers in `services/upstream.py`: the vpnc hook and the sync, each step by step.
-/

namespace Korserver

open PythonText PythonValue Interleavings

/-- `asdict(pushed)`. -/
def PushedRouting.entries (pushed : PushedRouting) : List (String × Json) := [
  ("routes", pushed.routes), ("domains", pushed.domains), ("dns", pushed.dns),
  ("source", pushed.source), ("version", pushed.version), ("interface", pushed.interface),
  ("updated_at", pushed.updatedAt), ("synced_at", pushed.syncedAt),
  ("sync_error", pushed.syncError)]

/-- The file is replaced as a whole. -/
def Files.savePushed (files : Files) (config : AppConfig) (profile : UpstreamProfileConfig)
    (pushed : PushedRouting) : Files :=
  { files with
    json := Function.update files.json (pushedPath config profile) (.value (.dict pushed.entries)) }

def vpncConnectReasons : List String := ["connect", "reconnect"]

def profileForInterface (config : AppConfig) (interface : String) : Option UpstreamProfileConfig :=
  config.upstream.profiles.find? fun profile => config.upstream.profileInterface profile == interface

/-- `korctl upstream hook`: its argument, environment and clock. -/
structure HookCall where
  reason : String
  environ : Environ
  now : Int

def HookCall.profile (hook : HookCall) (config : AppConfig) : Option UpstreamProfileConfig :=
  if hook.reason ∈ vpncConnectReasons then
    profileForInterface config (hook.environ.get "TUNDEV")
  else none

def HookCall.pushed (hook : HookCall) : PushedRouting := parseVpncEnvironment hook.environ hook.now

/-- `replace(pushed, synced_at=previous.synced_at)`. -/
def PushedRouting.paced (pushed previous : PushedRouting) : PushedRouting :=
  { pushed with syncedAt := previous.syncedAt }

inductive HookStage
  | called
  | loaded (profile : UpstreamProfileConfig) (previous : PushedRouting)
  | finished

/-- `record_vpnc_event`: `save_handshake` loads, then saves. -/
def HookCall.step (hook : HookCall) (config : AppConfig) (files : Files) : HookStage → Files × HookStage
  | .called =>
      match hook.profile config with
      | some profile => (files, .loaded profile (files.loadPushed config profile))
      | none => (files, .finished)
  | .loaded profile previous =>
      (files.savePushed config profile (hook.pushed.paced previous), .finished)
  | .finished => (files, .finished)

/-- How the request ends: with an exception that `sync_server_routes` lets through, with a failed
curl, with a body that is no JSON, or with a value. -/
inductive SyncAnswer
  | raised
  | curlFailed (returncode : Int) (stderr : String)
  | notJson (message : String)
  | json (payload : Json)

/-- A sync of `profile`; `repr` is Python's for the version. -/
structure SyncCall where
  profile : UpstreamProfileConfig
  answer : SyncAnswer
  now : Int
  repr : Json → String

/-- The lists in the answer, or the text of the `ValueError`. -/
def SyncCall.lists (sync : SyncCall) : Except String SyncLists :=
  match sync.answer with
  | .raised => .error ""
  | .curlFailed returncode stderr =>
      .error (if strip stderr = "" then "curl exited " ++ toString returncode else strip stderr)
  | .notJson message => .error message
  | .json payload =>
      match parseSyncPayload sync.repr payload with
      | .ok lists => .ok lists
      | .error (.valueError message) => .error message
      | .error _ => .error ""

/-- `version != previous.version`, where the loaded version may be any value. -/
def sameVersion (version : String) : Json → Bool
  | .str text => text = version
  | _ => false

/-- `str(exc)[:500]`. -/
def maxErrorLength : Nat := 500

def SyncCall.result (sync : SyncCall) (config : AppConfig) (previous : PushedRouting) : PushedRouting :=
  match sync.lists with
  | .error message =>
      { previous with
        syncedAt := .int sync.now
        syncError := .str (String.ofList (message.toList.take maxErrorLength)) }
  | .ok lists =>
      { previous with
        routes := texts lists.routes
        domains := texts lists.domains
        source := .str "sync"
        version := .str lists.version
        interface := .str (config.upstream.profileInterface sync.profile)
        updatedAt := if sameVersion lists.version previous.version then previous.updatedAt else .int sync.now
        syncedAt := .int sync.now
        syncError := .str "" }

inductive SyncStage
  | called
  | loaded (previous : PushedRouting)
  | answered (previous : PushedRouting)
  | finished

/-- `sync_server_routes`: load, request, save. Without a URL it raises at once. -/
def SyncCall.step (sync : SyncCall) (config : AppConfig) (files : Files) : SyncStage → Files × SyncStage
  | .called =>
      match truthy sync.profile.syncUrl with
      | some _ => (files, .loaded (files.loadPushed config sync.profile))
      | none => (files, .finished)
  | .loaded previous =>
      match sync.answer with
      | .raised => (files, .finished)
      | _ => (files, .answered previous)
  | .answered previous => (files.savePushed config sync.profile (sync.result config previous), .finished)
  | .finished => (files, .finished)

abbrev Race := Pair Files SyncStage HookStage

def raceTurn (config : AppConfig) (sync : SyncCall) (hook : HookCall) : Race → Side → Race :=
  turn (sync.step config) (hook.step config)

def raceStart (files : Files) : Race := { shared := files, left := .called, right := .called }

end Korserver
