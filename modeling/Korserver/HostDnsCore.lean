import Korserver.ConfigCore
import Korserver.Effects
import Korserver.PythonValue
import Mathlib.Data.List.Infix

/-!
`services/host_dns.py`: the host's resolver configuration. Every change of a file is an event, so that
what a crash leaves can be read off the events.
-/

namespace Korserver

open Effects Effects.Program PythonText PythonValue

inductive HostDnsMode
  | off
  | resolvConf
  | resolved
  deriving DecidableEq, Repr

/-- `routing.host_dns` beside the rest of the configuration. -/
structure HostDnsConfig extends AppConfig where
  hostDns : HostDnsMode := .off
  deriving DecidableEq

/-- What a file holds; `undecodable` is no UTF-8. -/
inductive Contents
  | text (chars : String)
  | undecodable (bytes : List Nat)
  deriving DecidableEq

def universalNewlinesFrom : List Char → List Char
  | [] => []
  | '\r' :: '\n' :: rest => '\n' :: universalNewlinesFrom rest
  | '\r' :: rest => '\n' :: universalNewlinesFrom rest
  | c :: rest => c :: universalNewlinesFrom rest

/-- What reading in text mode makes of the line breaks. -/
def universalNewlines (text : String) : String := String.ofList (universalNewlinesFrom text.toList)

def Contents.readText : Contents → Except PyError String
  | .text chars => .ok (universalNewlines chars)
  | .undecodable _ => .error (.valueError "'utf-8' codec can't decode bytes")

/-- The files that can be mounted from the host, and the backups by their path. `resolved` is the
directory of the drop-ins, if it is mounted, with korserver's drop-in in it. -/
structure HostFiles where
  resolvConf : Option Contents
  resolved : Option (Option Contents) := none
  backups : String → Option Contents := fun _ => none

/-- `resolv.conf` is rewritten in two steps, everything else in one. -/
inductive FileWrite
  | unlinkDropin
  | replaceDropin (content : String)
  | replaceBackup (path content : String)
  | truncateResolvConf
  | writeResolvConf (content : String)
  deriving DecidableEq

def HostFiles.perform (files : HostFiles) : FileWrite → HostFiles
  | .unlinkDropin => { files with resolved := files.resolved.map fun _ => none }
  | .replaceDropin content => { files with resolved := files.resolved.map fun _ => some (.text content) }
  | .replaceBackup path content =>
      { files with backups := fun other => if other = path then some (.text content) else files.backups other }
  | .truncateResolvConf => { files with resolvConf := files.resolvConf.map fun _ => .text "" }
  | .writeResolvConf content => { files with resolvConf := files.resolvConf.map fun _ => .text content }

abbrev HostDns (α : Type) := Program HostFiles FileWrite PyError α

def change (write : FileWrite) : HostDns Unit := fun files => ⟨.ok (), files.perform write, [write]⟩

def readContents (contents : Contents) : HostDns String := fromExcept fun _ => contents.readText

def mark : String := "# Generated by korserver"

def ours (content : String) : Bool := decide (mark.toList <:+: content.toList)

structure HostDnsResult where
  mode : HostDnsMode
  changed : Bool
  detail : String
  deriving DecidableEq

def resolvConfUnmounted : String :=
  "/host/etc/resolv.conf is not mounted; add '/etc/resolv.conf:/host/etc/resolv.conf' " ++
    "to the container volumes"

def portNotStandard : String :=
  "resolv.conf can't name a port: internal_dns.port must be 53 (or use routing.host_dns: resolved)"

def resolvConfInPlace : String := "host resolv.conf already points at dnsmasq"

def resolvConfPointed : String := "host resolv.conf now points at dnsmasq"

def resolvedUnmounted : String :=
  "/host/resolved.conf.d is not mounted; add " ++
    "'/etc/systemd/resolved.conf.d:/host/resolved.conf.d' to the container volumes"

def dropinInPlace : String := "systemd-resolved drop-in already in place"

def dropinWritten : String :=
  "wrote /host/resolved.conf.d/korserver.conf; run `systemctl restart systemd-resolved` " ++
    "on the host to apply it"

namespace HostDnsConfig

variable (config : HostDnsConfig)

def answer (changed : Bool) (detail : String) : HostDnsResult :=
  { mode := config.hostDns, changed, detail }

def backupPath : String := config.system.dataDir ++ "/host-resolv.conf.orig"

/-- `wanted`; `pathExists` answers for the domains file of the host. -/
def wanted (pathExists : String → Bool) : Bool :=
  config.hostDns != .off && config.dnsTunnelActive pathExists

def desiredResolvConf : String :=
  mark ++ ": host lookups go through the korserver dnsmasq.\n# The original is kept in " ++
    config.backupPath ++ " and restored when\n# korserver stops or routing.host_dns is turned off.\n" ++
    "nameserver " ++ config.internalDns.listen ++ "\n"

def dropinServer : String :=
  if config.internalDns.port = 53 then config.internalDns.listen
  else config.internalDns.listen ++ ":" ++ toString config.internalDns.port

def desiredDropin : String :=
  mark ++ ": send all host DNS to the korserver dnsmasq.\n" ++
    "# Delete this file and restart systemd-resolved to undo.\n[Resolve]\nDNS=\nDNS=" ++
    config.dropinServer ++ "\nDomains=~.\n"

def writeInPlace (content : String) : HostDns Unit := do
  change .truncateResolvConf
  change (.writeResolvConf content)

def pointResolvConf : HostDns HostDnsResult := do
  match ← read HostFiles.resolvConf with
  | none => return config.answer false resolvConfUnmounted
  | some contents =>
      if config.internalDns.port ≠ 53 then return config.answer false portNotStandard
      let current ← readContents contents
      if current = config.desiredResolvConf then return config.answer false resolvConfInPlace
      when (!ours current) (change (.replaceBackup config.backupPath current))
      writeInPlace config.desiredResolvConf
      return config.answer true resolvConfPointed

def restoreResolvConf : HostDns Bool := do
  match ← read HostFiles.resolvConf with
  | none => return false
  | some contents =>
      let current ← readContents contents
      if ours current then
        match ← read fun files => files.backups config.backupPath with
        | none => return false
        | some backup =>
            let original ← readContents backup
            writeInPlace original
            return true
      else return false

def writeDropin : HostDns HostDnsResult := do
  match ← read HostFiles.resolved with
  | none => return config.answer false resolvedUnmounted
  | some dropin =>
      let present ← match dropin with
        | none => pure false
        | some contents => do
            let current ← readContents contents
            pure (decide (current = config.desiredDropin))
      if present then return config.answer false dropinInPlace
      change (.replaceDropin config.desiredDropin)
      return config.answer true dropinWritten

def removeDropin : HostDns Bool := do
  match ← read HostFiles.resolved with
  | some (some contents) =>
      let current ← readContents contents
      if ours current then
        change .unlinkDropin
        return true
      else return false
  | _ => return false

def apply (pathExists : String → Bool) : HostDns HostDnsResult := do
  if !config.wanted pathExists then
    let restored ← config.restoreResolvConf
    let removed ← removeDropin
    let reason := if config.hostDns = .off then "off" else "dnsmasq is not running"
    return config.answer (restored || removed) ("host resolver untouched (" ++ reason ++ ")")
  else if config.hostDns = .resolvConf then
    let changed ← removeDropin
    let result ← config.pointResolvConf
    return config.answer (changed || result.changed) result.detail
  else
    let changed ← config.restoreResolvConf
    let result ← config.writeDropin
    return config.answer (changed || result.changed) result.detail

def restore : HostDns HostDnsResult := do
  let changed ← config.restoreResolvConf
  return config.answer changed (if changed then "host resolv.conf restored" else "nothing to restore")

end HostDnsConfig

end Korserver
