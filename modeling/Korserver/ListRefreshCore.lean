import Korserver.UniqueLines

/-!
Refreshing the cached copy of a list URL: routes and domains (`services/external_lists.py`,
`services/routing.py`) and blocklists (`services/internal_dns.py`).
-/

namespace Korserver

open PythonText IpAddress PythonValue

def maxBlocklistEntries : Nat := 500000

def hostsFileNoise : List String := [
  "localhost", "localhost.localdomain", "local", "broadcasthost", "ip6-localhost", "ip6-loopback",
  "ip6-localnet", "ip6-mcastprefix", "ip6-allnodes", "ip6-allrouters", "ip6-allhosts"]

def isWordChar (c : Char) : Bool := isAlnum c || c == '_'

def matchesServiceLabel (label : List Char) : Bool :=
  decide (label ≠ [] ∧ label.length ≤ 63) &&
    (label.head?.any isWordChar && label.getLast?.any isWordChar && label.all fun c => isWordChar c || c == '-')

/-- `BLOCKLIST_DOMAIN_RE`: underscores may stand in front of the last dot. -/
def matchesBlocklistDomain (text : String) : Bool :=
  let body := beforeDollar text.toList
  let labels := splitChar '.' body
  decide (body.length ≤ 253 ∧ 2 ≤ labels.length) && labels.dropLast.all matchesServiceLabel &&
    labels.getLast?.any matchesLabel

def normalizeBlocklistDomain (candidate : String) : Option String :=
  let domain := stripEnd '.' (lower (strip candidate))
  if domain ≠ "" ∧ domain ∉ hostsFileNoise ∧ matchesBlocklistDomain domain = true then some domain else none

/-- `_line_candidates`: a hosts line, a filter rule, or a single word. -/
def lineCandidates (line : String) : List String :=
  match (splitSpace line.toList).map String.ofList with
  | [] => []
  | first :: rest =>
      if (ipAddress first).isSome = true then rest
      else if rest ≠ [] then []
      else if ['|', '|'] <+: first.toList ∧ first.toList.getLast? = some '^' then
        [String.ofList (first.toList.drop 2).dropLast]
      else [first]

/-- The line in front of any `#`. -/
def uncommented (line : String) : String :=
  String.ofList (stripChars isSpace (line.toList.takeWhile (· ≠ '#')))

def addUnseen (items : List String) (item : String) : List String :=
  if item ∈ items then items else items ++ [item]

def parseBlocklistLine (result : ExternalListParseResult) (rawLine : String) :
    Except PyError ExternalListParseResult :=
  let line := strip rawLine
  if isCommentLine line then .ok result
  else
    let result := { result with totalLines := result.totalLines + 1 }
    match lineCandidates (uncommented line) with
    | [] => .ok { result with skipped := result.skipped + 1 }
    | candidates =>
        let found := candidates.filterMap normalizeBlocklistDomain
        let items := found.foldl addUnseen result.items
        let skipped := if found = [] then result.skipped + 1 else result.skipped
        if maxBlocklistEntries < items.length then
          .error (.valueError "blocklist exceeds the safety limit of 500000 entries")
        else .ok { result with items, skipped }

def parseBlocklistLines : List String → ExternalListParseResult → Except PyError ExternalListParseResult
  | [], result => .ok result
  | line :: rest, result => do
      let next ← parseBlocklistLine result line
      parseBlocklistLines rest next

def parseBlocklistText (text : String) : Except PyError ExternalListParseResult :=
  parseBlocklistLines (splitLines text) {}

inductive ListSource
  | route
  | domain
  | hostRoute
  | hostDomain
  | blocklist
  deriving DecidableEq

structure ListFetchResult where
  url : String
  totalLines : Nat
  valid : Nat
  skipped : Nat
  sample : List String
  saved : Bool
  deriving DecidableEq

namespace ListSource

def urls (config : AppConfig) (blocklistUrls : List String) : ListSource → List String
  | route => config.routing.split.routesUrls
  | domain => config.routing.split.domainsUrls
  | hostRoute => config.routing.hostSplit.routesUrls
  | hostDomain => config.routing.hostSplit.domainsUrls
  | blocklist => blocklistUrls

def field : ListSource → String
  | route => "routing.split.routes_urls"
  | domain => "routing.split.domains_urls"
  | hostRoute => "routing.host_split.routes_urls"
  | hostDomain => "routing.host_split.domains_urls"
  | blocklist => "internal_dns.blocklist_urls"

def cacheDir (config : AppConfig) : ListSource → String
  | route => config.system.dataDir ++ "/routing/route-urls"
  | domain => config.system.dataDir ++ "/routing/domain-urls"
  | hostRoute => config.system.dataDir ++ "/routing/host-route-urls"
  | hostDomain => config.system.dataDir ++ "/routing/host-domain-urls"
  | blocklist => config.system.dataDir ++ "/internal-dns/urls"

def parse : ListSource → String → Except PyError ExternalListParseResult
  | route, text => parseListText text normalizeRoute
  | domain, text => parseListText text normalizeDomain
  | hostRoute, text => parseListText text normalizeRoute
  | hostDomain, text => parseListText text normalizeDomain
  | blocklist, text => parseBlocklistText text

def emptyMessage : ListSource → String
  | blocklist => "blocklist URL did not contain any valid domain entries; nothing was applied"
  | _ => "list did not contain any valid entries; nothing was applied"

variable (source : ListSource) (config : AppConfig)

def metaPath (files : Files) (url : String) : String := source.cacheDir config ++ "/" ++ files.urlSlug url ++ ".json"

/-- `cached_items`, or `url_cache_domains` of the blocklists. -/
def cachedItems (files : Files) (url : String) : Except PyError (List String) := do
  let lines ← files.readLines (files.cachePath (source.cacheDir config) url)
  let parsed ← source.parse (join "\n" lines)
  return parsed.items

def save (files : Files) (url : String) (parsed : ExternalListParseResult) (now : Int) : Files :=
  let written := files.writeUniqueLines (files.cachePath (source.cacheDir config) url) parsed.items
  { written with json := Function.update written.json (source.metaPath config files url) (.value (.dict [
      ("url", .str url), ("fetched_at", .int now), ("valid", .int parsed.items.length),
      ("skipped", .int parsed.skipped)])) }

def refreshUrl (blocklistUrls : List String) (files : Files) (url : String) (download : Except PyError String)
    (preview : Bool) (now : Int) : Except PyError (ListFetchResult × Files) :=
  if url ∉ source.urls config blocklistUrls then .error (.valueError (source.field ++ " does not contain: " ++ url))
  else do
    let text ← download
    let parsed ← source.parse text
    if parsed.items = [] then .error (.valueError source.emptyMessage)
    else
      let result := {
        url, totalLines := parsed.totalLines, valid := parsed.items.length, skipped := parsed.skipped
        sample := parsed.items.take 20, saved := !preview }
      return (result, if preview then files else source.save config files url parsed now)

end ListSource

def refreshRouteUrl := ListSource.route.refreshUrl

def refreshDomainUrl := ListSource.domain.refreshUrl

def refreshHostRouteUrl := ListSource.hostRoute.refreshUrl

def refreshHostDomainUrl := ListSource.hostDomain.refreshUrl

def refreshUrlBlocklist := ListSource.blocklist.refreshUrl

example : lineCandidates "0.0.0.0 ads.example.com tracker.example.com" =
    ["ads.example.com", "tracker.example.com"] := by decide +kernel
example : lineCandidates "||ads.example.com^" = ["ads.example.com"] := by decide +kernel
example : matchesBlocklistDomain "ad_srv.example.com" = true := by decide +kernel

end Korserver
