import Korserver.CertPinCore
import Korserver.MaskedValuesCore
import Korserver.Redaction
import Korserver.UpstreamServiceCore

/-!
How openconnect is run and what is recorded of it: `mask_text` of `services/secrets.py`, the command
runner of `services/command.py`, and `UpstreamService.connect` from its command line on. What goes
before, and the routing after it, is in `UpstreamServiceCore`.
-/

namespace Korserver

open PythonText PythonValue IpAddress Redaction

def asterisks : List Char := "***".toList

def secretLength (secret chars : List Char) : Option Nat :=
  if secret <+: chars then some secret.length else none

/-- `if secret: masked = masked.replace(secret, "***")`. -/
def replaceSecret (chars : List Char) (secret : String) : List Char :=
  if secret = "" then chars else substitute (secretLength secret.toList) asterisks 0 chars

def isBlank (c : Char) : Bool := c == ' ' || c == '\t'

/-! What `ASSIGNMENT_RE` finds in a line. -/

def separatorValue : List Char → Option (List Char)
  | [] => none
  | c :: rest =>
      if isBlank c then separatorValue rest
      else if c = ':' ∨ c = '=' then some rest
      else none

def keyValue (key : List Char) : List Char → Option (List Char × List Char)
  | [] => none
  | c :: rest =>
      if isNameChar c then keyValue (key ++ [c]) rest
      else (separatorValue (c :: rest)).map fun value => (key, value)

def assignment : List Char → Option (List Char × List Char)
  | [] => none
  | c :: rest =>
      if isBlank c then assignment rest
      else if isNameChar c then keyValue [c] rest
      else none

def isSecretKeyInText (key : String) : Bool :=
  lower key ≠ "camouflage_secret" && isSecretKey key

/-- The blanks before a value, which has at least one character itself. -/
def valueIndent (value : List Char) : List Char :=
  if value.all isBlank = true then value.dropLast else value.takeWhile isBlank

def redactAssignment (line : List Char) : List Char :=
  match assignment line with
  | some (key, value) =>
      if value ≠ [] ∧ isSecretKeyInText (String.ofList key) = true then
        line.take (line.length - value.length) ++ valueIndent value ++ asterisks
      else line
  | none => line

def redactAssignments (chars : List Char) : List Char :=
  joinChars '\n' ((splitChar '\n' chars).map redactAssignment)

def maskText (secrets : List String) (text : String) : String :=
  String.ofList (redactAssignments (secrets.foldl replaceSecret (maskReferencesFrom 0 text.toList)))

/-! `CommandRunner`. -/

/-- `Popen.returncode`: an exit code, or a signal in negative. -/
abbrev ExitStatus : Type := { code : Int // -64 ≤ code ∧ code ≤ 255 }

structure CommandResult where
  argv : List String
  returncode : Int
  stdout : String
  stderr : String

/-- `str(CommandError(result))`. -/
def CommandResult.message (result : CommandResult) : String :=
  "command failed (" ++ toString result.returncode ++ "): " ++ join " " result.argv

/-- A `CommandError`, or an error that carries no result. -/
inductive DialError
  | command (result : CommandResult)
  | other (error : PyError)

/-- How a command that is run to a file ends. `logged` is what the log holds from the offset on where
it ended before, the other connections write there too. -/
inductive Execution
  | notStarted (reason : String)
  | interrupted (error : PyError)
  | exited (status : ExitStatus) (logged : String)
  | timedOut (logged : String)

def maskedArgv (secrets argv : List String) : List String := argv.map (maskText secrets)

/-- The line that `_run_to_file` writes to the log. -/
def logHeader (argv : List String) : String := "--- " ++ join " " argv ++ " ---\n"

def timeoutNote (timeout : Nat) : String := "command timed out after " ++ toString timeout ++ " seconds"

/-- `_run_to_file`, with `check` set. -/
def runToFile (secrets argv : List String) (timeout : Nat) : Execution → Except DialError CommandResult
  | .notStarted reason => .error (.command
      { argv := maskedArgv secrets argv, returncode := 127, stdout := ""
        stderr := maskText secrets ((maskedArgv secrets argv).headD "" ++ ": " ++ reason) })
  | .interrupted error => .error (.other error)
  | .timedOut logged =>
      let output := strip logged
      let stderr := if output = "" then timeoutNote timeout else output ++ "\n" ++ timeoutNote timeout
      .error (.command
        { argv := maskedArgv secrets argv, returncode := 124, stdout := "", stderr := maskText secrets stderr })
  | .exited status logged =>
      let result : CommandResult :=
        { argv := maskedArgv secrets argv, returncode := status.1, stdout := maskText secrets (strip logged)
          stderr := "" }
      if status.1 = 0 then .ok result else .error (.command result)

/-! `UpstreamService`. -/

/-- A profile with what only dialing reads of it. The text of a path is never empty. -/
structure DialedProfile extends UpstreamProfileConfig where
  password : Option String := none
  certPass : Option String := none
  camouflageSecret : Option String := none
  trustedCert : Bool := false
  serverCertPin : Option String := none
  certFileText : certFile ≠ some "" := by decide
  keyFileText : keyFile ≠ some "" := by decide

/-- What there is to accept a certificate by: the hash, the pin accepted last, and what the server
presents. -/
structure PinSource where
  sha256 : List UInt8 → List UInt8
  previous : Option String := none
  presented : Except String (List UInt8) := .ok []

/-- `_accepted_server_pin`. -/
def DialedProfile.acceptedPin (profile : DialedProfile) (source : PinSource) : Except CertError (Option String) := do
  let pinned : PinnedProfile :=
    { name := profile.name, server := profile.server, port := profile.port, trustedCert := profile.trustedCert
      serverCertPin := profile.serverCertPin }
  let accepted ← acceptedServerPin source.sha256 pinned false source.previous source.presented
  return accepted.pin

/-- Its `CommandError` is that of no command. -/
def DialedProfile.pinError (profile : DialedProfile) : CertError → DialError
  | .commandError stderr =>
      .command { argv := ["openconnect", profile.server], returncode := 1, stdout := "", stderr }
  | .indexError => .other .indexError
  | .osError _ => .other .osError
  | .valueError message => .other (.valueError message)

structure DialPaths where
  secretsDir : String := "/var/lib/korserver/secrets"
  logDir : String := "/var/log/korserver"

def DialPaths.logFile (paths : DialPaths) : String := paths.logDir ++ "/upstream.log"

def optionArgument (option : String) (value : Option String) : List String :=
  value.elim [] fun value => [option, value]

section

variable (config : AppConfig) (paths : DialPaths) (profile : DialedProfile)

def pidFile : String :=
  config.system.generatedDir ++ "/upstream-" ++
    String.ofList (profile.name.toList.map fun c => if isNameChar c then c else '_') ++ ".pid"

def profileSecretsDir : String := paths.secretsDir ++ "/upstream/" ++ profile.name

def materializeCert : Option String × Option String :=
  let decoded (base64 path : Option String) (file : String) : Option String :=
    if (truthy base64).isSome then some (profileSecretsDir paths profile ++ file) else path
  (decoded profile.certFileBase64 profile.certFile "/cert", decoded profile.keyFileBase64 profile.keyFile "/key")

def certificateArguments : List String :=
  let (certPath, keyPath) := materializeCert paths profile
  match certPath with
  | none => []
  | some certPath =>
      ["--certificate", certPath] ++ optionArgument "--sslkey" keyPath ++
        if (truthy profile.certPass).isSome then
          ["--config=" ++ profileSecretsDir paths profile ++ "/openconnect.conf"]
        else []

def dialedServer : String :=
  profile.server ++ ":" ++ profile.port ++ (truthy profile.camouflageSecret).elim "" ("/?" ++ ·)

def openconnectArgv (acceptedPin : Option String) : List String :=
  ["openconnect", "--interface", config.upstream.profileInterface profile.toUpstreamProfileConfig,
    "--protocol=anyconnect", "--non-inter", "--background", "--pid-file=" ++ pidFile config profile,
    "--script=" ++ config.system.generatedDir ++ "/vpnc-script-korserver"] ++
    optionArgument "--servercert" ((truthy profile.serverCertPin).or (truthy acceptedPin)) ++
    (if profile.authType = .password ∨ (truthy profile.password).isSome = true then ["--passwd-on-stdin"] else []) ++
    optionArgument "--user" (truthy profile.username) ++
    (if profile.authType = .password then [] else certificateArguments paths profile) ++
    [dialedServer profile]

/-- `extra_secrets` of `connect`; the runner has none of its own. -/
def DialedProfile.extraSecrets : List String :=
  [profile.password.getD "", profile.certPass.getD "", profile.port]

def goneNotice : String :=
  "openconnect backgrounded but the process was gone moments later; see " ++ paths.logFile ++
    " for the actual failure (e.g. the tun interface name already in use)"

/-- `_verify_backgrounded`: `alive` is whether the process is still there in time. -/
def verifyBackgrounded (alive : Bool) (result : CommandResult) : Except DialError CommandResult :=
  if alive then .ok result
  else .error (.command { result with
    returncode := 1, stderr := strip (result.stderr ++ "\n" ++ goneNotice paths) })

/-- How openconnect ends, and whether it is still there a moment later. -/
structure OpenconnectRun where
  execution : Execution
  alive : Bool

/-- What is written to the log, and how `connect` ends unless the routing after it fails. -/
structure DialReport where
  header : Option String
  outcome : Except DialError CommandResult

/-- `runner.run` and the look at the process afterwards. -/
def runOpenconnect (argv : List String) (run : OpenconnectRun) : DialReport :=
  if "" ∈ argv then
    { header := none, outcome := .error (.other (.valueError "argv must contain non-empty strings")) }
  else
    { header := some (logHeader (maskedArgv profile.extraSecrets argv))
      outcome := do
        let result ← runToFile profile.extraSecrets argv 60 run.execution
        verifyBackgrounded paths run.alive result }

def dialOpenconnect (source : PinSource) (run : OpenconnectRun) : DialReport :=
  match profile.acceptedPin source with
  | .ok pin => runOpenconnect paths profile (openconnectArgv config paths profile pin) run
  | .error error => { header := none, outcome := .error (profile.pinError error) }

end

/-- The response to a `CommandError`: its detail and its arguments. -/
def commandErrorDetail (result : CommandResult) : String :=
  if strip result.stderr ≠ "" then strip result.stderr
  else if strip result.stdout ≠ "" then strip result.stdout
  else result.message

end Korserver
