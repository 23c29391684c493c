import Korserver.AuthSessionsCore
import Korserver.PythonValue
import Korserver.PythonText
import Korserver.UrlText

/-!
`api/auth.py` and `api/routes_auth.py`: who is let in. Hashing and one-time codes are given.
-/

namespace Korserver

open PythonText PythonValue

/-- What these modules read of `config.web`. -/
structure WebConfig where
  adminUser : String := "admin"
  adminPassword : Option String := none
  adminPasswordHash : Option String := none
  adminTotpEnabled : Bool := false
  adminTotpSecret : Option String := none

/-- `verify_password`, and `AdminTotpService.verify_code` at a time of the wall clock; the text of a
base64 token. -/
structure AdminChecks where
  verifyPassword : String → String → Bool
  verifyCode : Int → String → String → Except PyError Bool
  decodeToken : String → Option String := fun _ => none

/-- How a request fails: with an answer, or with an exception that nothing catches. -/
inductive RequestError
  | http (status : Nat) (detail : String)
  | uncaught (error : PyError)
  deriving DecidableEq

/-- `secrets.compare_digest` of two texts, which has to be given ASCII. -/
def compareDigest (left right : String) : Except PyError Bool :=
  if left.toList.all (·.toNat < 128) && right.toList.all (·.toNat < 128) then .ok (left == right)
  else .error .typeError

def WebConfig.passwordConfigured (web : WebConfig) : Bool :=
  web.adminPassword.isSome || web.adminPasswordHash.isSome

/-- The comparison of `authenticate_password`. -/
def credentialsMatch (checks : AdminChecks) (web : WebConfig) (username password : String) :
    Except PyError Bool := do
  let passwordMatches ← match web.adminPasswordHash, web.adminPassword with
    | some hash, _ => .ok (checks.verifyPassword password hash)
    | none, some expected => compareDigest password expected
    | none, none => .ok false
  let userMatches ← compareDigest username web.adminUser
  return userMatches && passwordMatches

/-- The comparison of the second step of `login`. -/
def codeMatches (checks : AdminChecks) (web : WebConfig) (unixTime : Int) (code : String) :
    Except PyError Bool :=
  match web.adminTotpSecret with
  | none => .ok false
  | some secret => checks.verifyCode unixTime secret code

structure LoginRequest where
  host : String
  username : String
  password : String
  totpCode : Option String := none

/-- `payload.totp_code` unless it is missing or empty. -/
def LoginRequest.givenCode (request : LoginRequest) : Option String :=
  request.totpCode.filter fun code => code != ""

def totpSource (host : String) : String := "totp:" ++ host

/-- What a request reads of the two clocks. -/
structure Readings where
  sessionChecked : ℚ := 0
  sessionRenewed : ℚ := 0
  passwordAllowed : ℚ := 0
  passwordRecorded : ℚ := 0
  codeAllowed : ℚ := 0
  codeRecorded : ℚ := 0
  createdChecked : ℚ := 0
  created : ℚ := 0
  unixTime : Int := 0

/-- What `require_admin` reads of a request. -/
structure AdminRequest where
  host : String
  method : String := "GET"
  sessionToken : Option String := none
  csrfToken : String := ""
  authorization : Option String := none
  origin : Option String := none
  referer : Option String := none
  hostHeader : String := ""

structure BasicCredentials where
  username : String
  password : String

/-- `text.partition(separator)`, if the separator is there. -/
def partitionChar (separator : Char) : List Char → Option (List Char × List Char)
  | [] => none
  | c :: rest =>
      if c = separator then some ([], rest)
      else (partitionChar separator rest).map fun (before, after) => (c :: before, after)

def parseBasicAuthorization (checks : AdminChecks) (value : Option String) :
    Option BasicCredentials := do
  let header ← value
  let (scheme, token) ← partitionChar ' ' header.toList
  guard (lower (String.ofList scheme) = "basic" ∧ token ≠ [])
  let decoded ← checks.decodeToken (String.ofList token)
  let (username, password) ← partitionChar ':' decoded.toList
  return { username := String.ofList username, password := String.ofList password }

def AdminRequest.isMutating (request : AdminRequest) : Bool :=
  ["POST", "PUT", "PATCH", "DELETE"].contains request.method

/-- `request.headers.get("origin") or request.headers.get("referer")`, if it is there and not empty. -/
def AdminRequest.originText (request : AdminRequest) : Option String :=
  (request.origin.filter (· != "")).or (request.referer.filter (· != ""))

/-- What stands in the `Host` header before its first colon. -/
def AdminRequest.hostText (request : AdminRequest) : String :=
  String.ofList (UrlText.before ':' request.hostHeader.toList)

/-- Whether `_reject_cross_origin_basic_request` raises its own exception. -/
def AdminRequest.isCrossOrigin (request : AdminRequest) : Except PyError Bool :=
  match request.originText with
  | none => .ok false
  | some origin =>
      match UrlText.hostname origin with
      | .error message => .error (.valueError message)
      | .ok none => .ok false
      | .ok (some originHost) =>
          .ok (originHost != "" && request.hostText != "" && originHost != request.hostText)

def authenticatePassword (checks : AdminChecks) (web : WebConfig) (readings : Readings)
    (host username password : String) (registry : AuthSessionRegistry) :
    Except RequestError Unit × AuthSessionRegistry :=
  if !web.passwordConfigured then
    (.error (.http 403 "admin password is not configured"), registry)
  else
    let (allowed, registry) := registry.loginAllowed host readings.passwordAllowed
    if !allowed then (.error (.http 429 "too many failed login attempts"), registry)
    else match credentialsMatch checks web username password with
      | .error error => (.error (.uncaught error), registry)
      | .ok false =>
          (.error (.http 401 "invalid credentials"),
            registry.recordFailure host readings.passwordRecorded)
      | .ok true => (.ok (), registry.clearFailures host)

inductive Authentication
  | session (token : String)
  | password
  deriving DecidableEq

def AdminRequest.session (request : AdminRequest) (readings : Readings)
    (registry : AuthSessionRegistry) : Option (String × AdminSession) × AuthSessionRegistry :=
  match request.sessionToken.filter (· != "") with
  | none => (none, registry)
  | some token =>
      let (session, registry) := registry.get token readings.sessionChecked readings.sessionRenewed
      (session.map fun session => (token, session), registry)

def requireAdmin (checks : AdminChecks) (web : WebConfig) (readings : Readings)
    (request : AdminRequest) (registry : AuthSessionRegistry) :
    Except RequestError Authentication × AuthSessionRegistry :=
  match request.session readings registry with
  | (some (token, session), registry) =>
      if !request.isMutating then (.ok (.session token), registry)
      else match compareDigest request.csrfToken session.csrfToken with
        | .error error => (.error (.uncaught error), registry)
        | .ok false => (.error (.http 403 "CSRF validation failed"), registry)
        | .ok true => (.ok (.session token), registry)
  | (none, registry) =>
      match parseBasicAuthorization checks request.authorization with
      | none => (.error (.http 401 "authentication required"), registry)
      | some credentials =>
          match authenticatePassword checks web readings request.host credentials.username
            credentials.password registry with
          | (.error error, registry) => (.error error, registry)
          | (.ok (), registry) =>
              if !request.isMutating then (.ok .password, registry)
              else match request.isCrossOrigin with
                | .error error => (.error (.uncaught error), registry)
                | .ok true => (.error (.http 403 "cross-origin request rejected"), registry)
                | .ok false => (.ok .password, registry)

def secondStep (checks : AdminChecks) (web : WebConfig) (readings : Readings) (request : LoginRequest)
    (registry : AuthSessionRegistry) : Except RequestError Unit × AuthSessionRegistry :=
  if !web.adminTotpEnabled then (.ok (), registry)
  else match request.givenCode with
    | none => (.error (.http 401 "totp_code_required"), registry)
    | some code =>
        let source := totpSource request.host
        let (allowed, registry) := registry.loginAllowed source readings.codeAllowed
        if !allowed then (.error (.http 429 "too many failed login attempts"), registry)
        else match codeMatches checks web readings.unixTime code with
          | .error error => (.error (.uncaught error), registry)
          | .ok false =>
              (.error (.http 401 "invalid_totp_code"),
                registry.recordFailure source readings.codeRecorded)
          | .ok true => (.ok (), registry.clearFailures source)

/-- `token` and `csrfToken` are the tokens that are drawn for the session. -/
def login (checks : AdminChecks) (web : WebConfig) (readings : Readings) (request : LoginRequest)
    (token csrfToken : String) (registry : AuthSessionRegistry) :
    Except RequestError Unit × AuthSessionRegistry :=
  match authenticatePassword checks web readings request.host request.username request.password
    registry with
  | (.error error, registry) => (.error error, registry)
  | (.ok (), registry) =>
      match secondStep checks web readings request registry with
      | (.error error, registry) => (.error error, registry)
      | (.ok (), registry) =>
          (.ok (), (registry.create request.username token csrfToken
            readings.createdChecked readings.created).2)

/-! The panel over a run of requests, with what happened so far, the latest first. -/

/-- A login of this moment verifies a code: codes are asked for, and the given one is right. -/
def verifiesCode (checks : AdminChecks) (web : WebConfig) (unixTime : Int) (request : LoginRequest) : Bool :=
  web.adminTotpEnabled && request.givenCode.any fun code =>
    decide (codeMatches checks web unixTime code = .ok true)

inductive Happening
  | loggedIn (token : String) (codeVerified : Bool)
  | totpEnabled
  deriving DecidableEq

structure Panel where
  web : WebConfig
  registry : AuthSessionRegistry := {}
  history : List Happening := []

/-- A request with the clocks it reads. What a save of the settings fails on is not modelled: it
either happens or not. Any other request may change the configuration. -/
inductive PanelRequest
  | login (readings : Readings) (request : LoginRequest) (token csrfToken : String)
  | logout (token : Option String)
  | totpConfirm (readings : Readings) (request : AdminRequest) (secret code : String) (saves : Bool)
  | totpDisable (readings : Readings) (request : AdminRequest) (saves : Bool)
  | other (readings : Readings) (request : AdminRequest) (change : WebConfig → WebConfig)

def PanelRequest.guarded : PanelRequest → Option (Readings × AdminRequest)
  | .login _ _ _ _ => none
  | .logout _ => none
  | .totpConfirm readings request _ _ _ => some (readings, request)
  | .totpDisable readings request _ => some (readings, request)
  | .other readings request _ => some (readings, request)

def Panel.configure (panel : Panel) (web : WebConfig) : Panel :=
  { panel with
    web
    history := if !panel.web.adminTotpEnabled && web.adminTotpEnabled then
      .totpEnabled :: panel.history else panel.history }

/-- `require_admin`, then the request itself. -/
def Panel.asAdmin (checks : AdminChecks) (panel : Panel) (readings : Readings) (request : AdminRequest)
    (handle : Panel → Panel) : Panel :=
  match requireAdmin checks panel.web readings request panel.registry with
  | (.error _, registry) => { panel with registry }
  | (.ok _, registry) => handle { panel with registry }

def Panel.step (checks : AdminChecks) (panel : Panel) : PanelRequest → Panel
  | .login readings request token csrfToken =>
      match login checks panel.web readings request token csrfToken panel.registry with
      | (.error _, registry) => { panel with registry }
      | (.ok (), registry) =>
          { panel with
            registry
            history := .loggedIn token (verifiesCode checks panel.web readings.unixTime request) ::
              panel.history }
  | .logout none => panel
  | .logout (some token) =>
      if token = "" then panel else { panel with registry := panel.registry.revoke token }
  | .totpConfirm readings request secret code saves =>
      panel.asAdmin checks readings request fun panel =>
        if checks.verifyCode readings.unixTime secret code = .ok true ∧ saves = true then
          panel.configure
            { panel.web with adminTotpEnabled := true, adminTotpSecret := some secret }
        else panel
  | .totpDisable readings request saves =>
      panel.asAdmin checks readings request fun panel =>
        if saves then
          panel.configure { panel.web with adminTotpEnabled := false, adminTotpSecret := none }
        else panel
  | .other readings request change =>
      panel.asAdmin checks readings request fun panel => panel.configure (change panel.web)

end Korserver
