import Korserver.AdminAccessCore

/-!
`login` of `api/routes_auth.py` step by step. Requests run in worker threads: the registry is
locked in each of its calls, and nothing is held between them.
-/

namespace Korserver

open PythonValue

inductive LoginStep
  | password
  | totp
  deriving DecidableEq

def LoginRequest.source (request : LoginRequest) : LoginStep → String
  | .password => request.host
  | .totp => totpSource request.host

def LoginStep.detail : LoginStep → String
  | .password => "invalid credentials"
  | .totp => "invalid_totp_code"

/-- How far a login has come. `evaluated` remembers when its comparison was made. -/
inductive LoginStage
  | called
  | admitted (step : LoginStep) (web : WebConfig)
  | evaluated (step : LoginStep) (isRight : Bool) (time : ℚ)
  | passwordAccepted
  | authenticated
  | failed (error : RequestError)

structure Evaluation where
  source : String
  time : ℚ
  verdict : Except PyError Bool

def Evaluation.isRight (evaluation : Evaluation) : Bool :=
  match evaluation.verdict with
  | .ok isRight => isRight
  | .error _ => false

/-- Whose turn it is, and what it finds: the clocks and the configuration in use. -/
structure LoginTurn where
  request : Nat
  now : ℚ
  unixTime : Int := 0
  web : WebConfig

structure LoginRace where
  registry : AuthSessionRegistry := {}
  attempts : List (LoginRequest × LoginStage)
  evaluations : List Evaluation := []

def loginStart (requests : List LoginRequest) : LoginRace :=
  { attempts := requests.map fun request => (request, .called) }

/-- `login_allowed` before a comparison. -/
def admission (registry : AuthSessionRegistry) (request : LoginRequest) (turn : LoginTurn)
    (step : LoginStep) : AuthSessionRegistry × LoginStage :=
  let (allowed, registry) := registry.loginAllowed (request.source step) turn.now
  if allowed then (registry, .admitted step turn.web)
  else (registry, .failed (.http 429 "too many failed login attempts"))

def verdict (checks : AdminChecks) (request : LoginRequest) (turn : LoginTurn) (web : WebConfig) :
    LoginStep → Except PyError Bool
  | .password => credentialsMatch checks web request.username request.password
  | .totp => codeMatches checks web turn.unixTime (request.totpCode.getD "")

def loginTurn (checks : AdminChecks) (registry : AuthSessionRegistry) (request : LoginRequest)
    (turn : LoginTurn) : LoginStage → AuthSessionRegistry × LoginStage
  | .called =>
      if turn.web.passwordConfigured then admission registry request turn .password
      else (registry, .failed (.http 403 "admin password is not configured"))
  | .admitted step web =>
      match verdict checks request turn web step with
      | .ok isRight => (registry, .evaluated step isRight turn.now)
      | .error error => (registry, .failed (.uncaught error))
  | .evaluated step false _ =>
      (registry.recordFailure (request.source step) turn.now, .failed (.http 401 step.detail))
  | .evaluated .password true _ => (registry.clearFailures (request.source .password), .passwordAccepted)
  | .evaluated .totp true _ => (registry.clearFailures (request.source .totp), .authenticated)
  | .passwordAccepted =>
      if turn.web.adminTotpEnabled then
        if request.givenCode.isNone then (registry, .failed (.http 401 "totp_code_required"))
        else admission registry request turn .totp
      else (registry, .authenticated)
  | stage => (registry, stage)

def evaluationOf (checks : AdminChecks) (request : LoginRequest) (turn : LoginTurn) :
    LoginStage → List Evaluation
  | .admitted step web =>
      [{ source := request.source step, time := turn.now, verdict := verdict checks request turn web step }]
  | _ => []

def LoginRace.step (checks : AdminChecks) (race : LoginRace) (turn : LoginTurn) : LoginRace :=
  match race.attempts[turn.request]? with
  | none => race
  | some (request, stage) =>
      let (registry, next) := loginTurn checks race.registry request turn stage
      { registry, attempts := race.attempts.set turn.request (request, next),
        evaluations := evaluationOf checks request turn stage ++ race.evaluations }

end Korserver
