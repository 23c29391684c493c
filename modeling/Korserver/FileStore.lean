import Korserver.ConfigCore
import Korserver.PythonValue

/-!
Files the routing code reads: line files (`services/files.py`), tolerant external lists and
their URL cache (`services/external_lists.py`), and what upstream servers pushed
(`services/upstream_pushed.py`).
-/

namespace Korserver

open PythonText IpAddress PythonValue

inductive TextFile
  | missing
  | unreadable
  | text (content : String)
  deriving DecidableEq

/-- The file system as these services see it. `urlSlug` is the digest that names the
cache file of a URL. -/
structure Files where
  text : String → TextFile := fun _ => .missing
  json : String → JsonFile := fun _ => .missing
  urlSlug : String → String := id

def Files.pathExists (files : Files) (path : String) : Bool := files.text path ≠ .missing

def Files.readLines (files : Files) (path : String) : Except PyError (List String) :=
  match files.text path with
  | .missing => .ok []
  | .unreadable => .error .osError
  | .text content => .ok (splitLines content)

def maxListEntries : Nat := 500000

structure ExternalListParseResult where
  items : List String := []
  totalLines : Nat := 0
  skipped : Nat := 0
  deriving DecidableEq

/-- The entry of a stripped line: its first word in front of any `#`. -/
def lineCandidate (line : String) : String :=
  let uncommented := line.toList.takeWhile (· ≠ '#')
  match splitSpace (stripChars isSpace uncommented) with
  | word :: _ => String.ofList word
  | [] => ""

def isCommentLine (line : String) : Bool :=
  line = "" || line.toList.head? == some '#' || line.toList.head? == some '!' ||
    line.toList.head? == some ';'

/-- One turn of the loop over the lines; a failed `normalize` only counts as skipped. -/
def parseListLine (normalize : String → Option String) (result : ExternalListParseResult)
    (rawLine : String) : Except PyError ExternalListParseResult :=
  let line := strip rawLine
  if isCommentLine line then .ok result
  else
    let result := { result with totalLines := result.totalLines + 1 }
    if lineCandidate line = "" then .ok { result with skipped := result.skipped + 1 }
    else match normalize (lineCandidate line) with
      | none => .ok { result with skipped := result.skipped + 1 }
      | some normalized =>
          let items := if normalized ∈ result.items then result.items else result.items ++ [normalized]
          if maxListEntries < items.length then
            .error (.valueError "list exceeds the safety limit of 500000 entries")
          else .ok { result with items }

def parseListLines (normalize : String → Option String) :
    List String → ExternalListParseResult → Except PyError ExternalListParseResult
  | [], result => .ok result
  | line :: rest, result => do
      let next ← parseListLine normalize result line
      parseListLines normalize rest next

def parseListText (text : String) (normalize : String → Option String) :
    Except PyError ExternalListParseResult :=
  parseListLines normalize (splitLines text) {}

/-- A list file, or the cache of a URL, read back through the tolerant parser. -/
def Files.listItems (files : Files) (path : String) (normalize : String → Option String) :
    Except PyError (List String) := do
  let lines ← files.readLines path
  let parsed ← parseListText (join "\n" lines) normalize
  return parsed.items

def Files.listItemsOfAll (files : Files) (normalize : String → Option String) :
    List String → Except PyError (List String)
  | [] => .ok []
  | path :: rest => do
      let items ← files.listItems path normalize
      let others ← files.listItemsOfAll normalize rest
      return items ++ others

def Files.cachePath (files : Files) (cacheDir url : String) : String :=
  cacheDir ++ "/" ++ files.urlSlug url ++ ".txt"

/-- A stored record as it is loaded: the loader keeps the known keys and checks no type. -/
structure PushedRouting where
  routes : Json := .list []
  domains : Json := .list []
  dns : Json := .list []
  source : Json := .str ""
  version : Json := .str ""
  interface : Json := .str ""
  updatedAt : Json := .int 0
  syncedAt : Json := .int 0
  syncError : Json := .str ""

/-- The DNS servers as single-address routes; entries that are no network are skipped. -/
def PushedRouting.dnsHostRoutes (pushed : PushedRouting) : Except PyError (List String) := do
  let servers ← pushed.dns.items
  return (servers.filterMap Json.ipNetwork).map Network.text

def pushedPath (config : AppConfig) (profile : UpstreamProfileConfig) : String :=
  config.system.generatedDir ++ "/upstream-pushed/" ++ profileSafeName profile.name ++ ".json"

def PushedRouting.ofEntries (entries : List (String × Json)) : PushedRouting :=
  let initial : PushedRouting := {}
  { routes := (lookup "routes" entries).getD initial.routes
    domains := (lookup "domains" entries).getD initial.domains
    dns := (lookup "dns" entries).getD initial.dns
    source := (lookup "source" entries).getD initial.source
    version := (lookup "version" entries).getD initial.version
    interface := (lookup "interface" entries).getD initial.interface
    updatedAt := (lookup "updated_at" entries).getD initial.updatedAt
    syncedAt := (lookup "synced_at" entries).getD initial.syncedAt
    syncError := (lookup "sync_error" entries).getD initial.syncError }

def Files.loadPushed (files : Files) (config : AppConfig) (profile : UpstreamProfileConfig) :
    PushedRouting :=
  match files.json (pushedPath config profile) with
  | .value (.dict entries) => PushedRouting.ofEntries entries
  | _ => {}

/-- What routing uses for a profile: nothing unless it accepts server routes for its
host traffic. -/
def Files.effectivePushed (files : Files) (config : AppConfig) (profile : UpstreamProfileConfig) :
    PushedRouting :=
  if profile.acceptServerRoutes && profile.routeHostEnabled then files.loadPushed config profile
  else {}

end Korserver
