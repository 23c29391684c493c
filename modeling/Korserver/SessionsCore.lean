import Korserver.AdminAccessCore
import Korserver.ConfigCore

/-!
`services/sessions.py` and the caller of `/api/client/routing`: the sessions that occtl shows, read from
its JSON output. Reading its plain text, and the elapsed times, are given.
-/

namespace Korserver

open IpAddress PythonText PythonValue

structure SessionRecord where
  username : String
  vpnIp : Option String := none
  realIp : Option String := none
  device : Option String := none
  rx : Option String := none
  tx : Option String := none
  rxRate : Option String := none
  txRate : Option String := none
  durationSeconds : Option Int := none

structure OcctlResult where
  ok : Bool
  stdout : String := ""

structure SessionService where
  controlSocket : String
  ipv4Network : String
  run : List String → OcctlResult
  jsonLoads : String → Option Json
  repr : Json → String
  durationFromEpoch : Json → Option Int
  parseDurationSeconds : String → Option Int
  parseSessions : String → List SessionRecord
  parseDetailSessions : Option String → String → List SessionRecord

/-- Python's `value or fallback` for an optional text. -/
def textOr (value fallback : Option String) : Option String :=
  match value with
  | some text => if text = "" then fallback else some text
  | none => fallback

def isHeaderChar (c : Char) : Bool := ('a' ≤ c && c ≤ 'z') || ('0' ≤ c && c ≤ '9')

/-- `re.sub(r"[^a-z0-9]+", "_", text)`; the flag tells that a run has been replaced already. -/
def replaceRuns : List Char → Bool → List Char
  | [], _ => []
  | c :: rest, replaced =>
      if isHeaderChar c then c :: replaceRuns rest false
      else if replaced then replaceRuns rest true
      else '_' :: replaceRuns rest true

def normalizeHeader (value : String) : String :=
  String.ofList (stripChars (· == '_') (replaceRuns (lower (strip value)).toList false))

/-- `value is None`. -/
def Json.isNone : Json → Bool
  | .null => true
  | _ => false

def normalizedItem (item : List (String × Json)) : List (String × Json) :=
  dictOf ((item.filter fun entry => !Json.isNone entry.2).map fun entry => (normalizeHeader entry.1, entry.2))

namespace SessionService

variable (service : SessionService)

def occtlArgv (args : List String) : List String := ["occtl", "-s", service.controlSocket] ++ args

def occtlJsonArgv (args : List String) : List String := ["occtl", "--json", "-s", service.controlSocket] ++ args

def firstJsonValue (row : List (String × Json)) : List String → Option String
  | [] => none
  | key :: keys =>
      match dictGet key row with
      | none | some .null | some (.str "") => firstJsonValue row keys
      | some (.bool value) => some (if value then "true" else "false")
      | some value => some (value.pyStr service.repr)

def usernameKeys : List String := ["username", "user", "name", "login"]

def connectedKeys : List String :=
  ["session_started_at", "last_connected_at", "connected_since", "connected_at", "connected_time",
    "connected", "connected_for", "connection_time", "connect_time", "since", "session_time",
    "login_since", "login_time", "logged_in_since", "time"]

def vpnIpKeys : List String := ["vpn_ip", "assigned_ip", "assigned_address", "local_ip", "ipv4", "ip"]

def realIpKeys : List String := ["real_ip", "remote_ip", "remote_address", "peer_ip", "source_ip"]

def formatRawBytes (value : Option String) : Option String :=
  value.map fun text =>
    match readInt text with
    | some amount => s!"{amount} bytes"
    | none => text

/-- The raw times come first; the texts are read when neither is a time. -/
def durationOf (row : List (String × Json)) : Option Int :=
  (["raw_session_started_at", "raw_connected_at"].findSome? fun key =>
    (dictGet key row).bind service.durationFromEpoch) <|>
  (service.firstJsonValue row connectedKeys).bind service.parseDurationSeconds

def sessionFromJsonItem (item : List (String × Json)) (defaultUsername : Option String) :
    Option SessionRecord :=
  let row := normalizedItem item
  let first := service.firstJsonValue row
  match textOr (textOr (first usernameKeys) defaultUsername) none with
  | none => none
  | some username =>
      some {
        username
        vpnIp := first vpnIpKeys
        realIp := first realIpKeys
        device := first ["device"]
        rx := textOr (first ["rx", "download", "downloaded", "received"])
          (formatRawBytes (first ["raw_rx", "bytes_in"]))
        tx := textOr (first ["tx", "upload", "uploaded", "sent", "transmitted"])
          (formatRawBytes (first ["raw_tx", "bytes_out"]))
        rxRate := first ["average_rx", "rx_rate", "download_rate", "received_rate"]
        txRate := first ["average_tx", "tx_rate", "upload_rate", "sent_rate"]
        durationSeconds := service.durationOf row }

/-- A single value stands for a list of one. -/
def payloadItems : Json → List Json
  | .list items => items
  | payload => [payload]

def sessionOfItem (defaultUsername : Option String) : Json → Option SessionRecord
  | .dict entries => service.sessionFromJsonItem entries defaultUsername
  | _ => none

def parseJsonSessions (output : String) (defaultUsername : Option String) : List SessionRecord :=
  match service.jsonLoads output with
  | none => []
  | some payload => (payloadItems payload).filterMap (service.sessionOfItem defaultUsername)

def mergeSessionDetail (session detail : SessionRecord) : SessionRecord where
  username := session.username
  vpnIp := textOr detail.vpnIp session.vpnIp
  realIp := textOr detail.realIp session.realIp
  device := textOr detail.device session.device
  rx := textOr detail.rx session.rx
  tx := textOr detail.tx session.tx
  rxRate := textOr detail.rxRate session.rxRate
  txRate := textOr detail.txRate session.txRate
  durationSeconds := detail.durationSeconds <|> session.durationSeconds

/-- The text output is only looked at when the JSON output has no record. -/
def userDetail (username : String) : Option SessionRecord :=
  let jsonResult := service.run (service.occtlJsonArgv ["show", "user", username])
  let jsonDetails :=
    if jsonResult.ok then service.parseJsonSessions jsonResult.stdout (some username) else []
  jsonDetails.head? <|>
    let result := service.run (service.occtlArgv ["show", "user", username])
    if result.ok then (service.parseDetailSessions (some username) result.stdout).head? else none

def enrichSessions (sessions : List SessionRecord) : List SessionRecord :=
  sessions.map fun session =>
    match service.userDetail session.username with
    | some detail => mergeSessionDetail session detail
    | none => session

def isSessionIdChar (c : Char) : Bool := isAlnum c || c == '_' || c == '.' || c == ':' || c == '-'

def parseSessionIds (output : String) : List String :=
  (splitLines output).filterMap fun line =>
    let stripped := strip line
    let lowered := (lower stripped).toList
    if stripped = "" ∨ "id".toList <+: lowered ∨ "session".toList <+: lowered ∨ "cookie".toList <+: lowered then
      none
    else ((splitSpace stripped.toList).head?.filter (·.all isSessionIdChar)).map String.ofList

def sessionIdOf : Json → Option String
  | .str text => some text
  | .dict entries =>
      service.firstJsonValue (normalizedItem entries) ["sid", "id", "session_id", "session", "cookie"]
  | _ => none

/-- What `show session` tells about one session, in text when it has no JSON. -/
def sessionDetails (sessionId : String) : List SessionRecord :=
  let detail := service.run (service.occtlJsonArgv ["show", "session", sessionId])
  if detail.ok then service.parseJsonSessions detail.stdout none
  else
    let textDetail := service.run (service.occtlArgv ["show", "session", sessionId])
    if textDetail.ok then service.parseDetailSessions none textDetail.stdout else []

def listJsonSessionIds (output : String) : List SessionRecord :=
  match service.jsonLoads output with
  | none => []
  | some payload =>
      (payloadItems payload).flatMap fun item =>
        match textOr (service.sessionIdOf item) none with
        | some sessionId => service.sessionDetails sessionId
        | none => []

/-- The listing in text; `show sessions valid` is tried when it fails. -/
def listTextSessionIds : List SessionRecord :=
  let all := service.run (service.occtlArgv ["show", "sessions", "all"])
  let result := if all.ok then all else service.run (service.occtlArgv ["show", "sessions", "valid"])
  if result.ok then
    (parseSessionIds result.stdout).flatMap fun sessionId =>
      let detail := service.run (service.occtlArgv ["show", "session", sessionId])
      if detail.ok then service.parseDetailSessions none detail.stdout else []
  else []

def listSessionsFromSessionIds : List SessionRecord :=
  let jsonResult := service.run (service.occtlJsonArgv ["show", "sessions", "all"])
  let jsonSessions := if jsonResult.ok then service.listJsonSessionIds jsonResult.stdout else []
  if jsonSessions.isEmpty then service.listTextSessionIds else jsonSessions

def needsSessionDetail (session : SessionRecord) : Bool :=
  session.device.isNone || session.vpnIp.isNone || session.rx.isNone || session.tx.isNone ||
    session.durationSeconds.isNone

/-- `left and right == left` for optional texts. -/
def sameText (left right : Option String) : Bool := (textOr left none).isSome && right == left

/-- The record of the user with the session's VPN or real address, else the user's first one. -/
def bestDetail (session : SessionRecord) (details : List SessionRecord) : SessionRecord :=
  let own := details.filter (·.username == session.username)
  ((own.find? fun detail => sameText session.vpnIp detail.vpnIp || sameText session.realIp detail.realIp) <|>
    own.head?).getD { username := session.username }

def fillMissingSessionDetails (sessions : List SessionRecord) : List SessionRecord :=
  if sessions.any needsSessionDetail then
    let details := service.listSessionsFromSessionIds
    if details.isEmpty then sessions
    else sessions.map fun session => mergeSessionDetail session (bestDetail session details)
  else sessions

def listSessions : List SessionRecord :=
  let jsonResult := service.run (service.occtlJsonArgv ["show", "users"])
  let jsonSessions :=
    if jsonResult.ok then service.enrichSessions (service.parseJsonSessions jsonResult.stdout none) else []
  if !jsonSessions.isEmpty then service.fillMissingSessionDetails jsonSessions
  else
    let result := service.run (service.occtlArgv ["show", "users"])
    if result.ok then
      let sessions := service.enrichSessions (service.parseSessions result.stdout)
      if !sessions.isEmpty then service.fillMissingSessionDetails sessions
      else service.listSessionsFromSessionIds
    else []

/-- `_authenticate_vpn_client`: the user of the caller, from its source address. -/
def authenticateVpnClient (clientHost : Option String) : Except RequestError String :=
  match textOr clientHost none with
  | none => .error (.http 403 "client address unavailable")
  | some clientIp =>
      match ipAddress clientIp, ipNetwork service.ipv4Network with
      | none, _ => .error (.http 403 "client address unavailable")
      | some _, none =>
          .error (.uncaught (.valueError
            s!"'{service.ipv4Network}' does not appear to be an IPv4 or IPv6 network"))
      | some address, some network =>
          if !network.contains address then
            .error (.http 403 "client routing sync is only available through the VPN tunnel")
          else
            match service.listSessions.find? fun session =>
                session.vpnIp == some clientIp && session.username != "" with
            | some session => .ok session.username
            | none => .error (.http 403 "no active VPN session for this address")

end SessionService

end Korserver
