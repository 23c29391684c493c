import Korserver.ConfigCore
import Korserver.PushedParserCore
import Mathlib.Logic.Function.Basic

/-!
`services/users.py`: the settings of one user or group, their validation, and the file they are
written to and read from.
-/

namespace Korserver

open PythonText IpAddress PythonValue

inductive ListField
  | dns
  | nbns
  | splitDns
  | routes
  | noRoutes
  | iroutes
  deriving DecidableEq

inductive TextField
  | ipv4Network
  | ipv4Netmask
  | ipv6Network
  | explicitIpv4
  | explicitIpv6
  | netPriority
  | restrictUserToPorts
  | hostname
  deriving DecidableEq

inductive NumberField
  | ipv6SubnetPrefix
  | rxDataPerSec
  | txDataPerSec
  | keepalive
  | dpd
  | mobileDpd
  | maxSameClients
  | statsReportTime
  | mtu
  | idleTimeout
  | mobileIdleTimeout
  | sessionTimeout
  deriving DecidableEq

inductive FlagField
  | denyRoaming
  | noUdp
  | tunnelAllDns
  | restrictUserToRoutes
  deriving DecidableEq

inductive ConfigField
  | list (field : ListField)
  | text (field : TextField)
  | number (field : NumberField)
  | flag (field : FlagField)
  deriving DecidableEq

/-- The dictionaries `repeated`, `scalar` and `booleans`. -/
def ConfigField.directive : ConfigField → String
  | .list .dns => "dns"
  | .list .nbns => "nbns"
  | .list .splitDns => "split-dns"
  | .list .routes => "route"
  | .list .noRoutes => "no-route"
  | .list .iroutes => "iroute"
  | .text .ipv4Network => "ipv4-network"
  | .text .ipv4Netmask => "ipv4-netmask"
  | .text .ipv6Network => "ipv6-network"
  | .number .ipv6SubnetPrefix => "ipv6-subnet-prefix"
  | .text .explicitIpv4 => "explicit-ipv4"
  | .text .explicitIpv6 => "explicit-ipv6"
  | .number .rxDataPerSec => "rx-data-per-sec"
  | .number .txDataPerSec => "tx-data-per-sec"
  | .text .netPriority => "net-priority"
  | .number .keepalive => "keepalive"
  | .number .dpd => "dpd"
  | .number .mobileDpd => "mobile-dpd"
  | .number .maxSameClients => "max-same-clients"
  | .number .statsReportTime => "stats-report-time"
  | .number .mtu => "mtu"
  | .number .idleTimeout => "idle-timeout"
  | .number .mobileIdleTimeout => "mobile-idle-timeout"
  | .text .restrictUserToPorts => "restrict-user-to-ports"
  | .number .sessionTimeout => "session-timeout"
  | .text .hostname => "hostname"
  | .flag .denyRoaming => "deny-roaming"
  | .flag .noUdp => "no-udp"
  | .flag .tunnelAllDns => "tunnel-all-dns"
  | .flag .restrictUserToRoutes => "restrict-user-to-routes"

def ConfigField.all : List ConfigField :=
  [.list .dns, .list .nbns, .list .splitDns, .list .routes, .list .noRoutes, .list .iroutes,
    .text .ipv4Network, .text .ipv4Netmask, .text .ipv6Network, .number .ipv6SubnetPrefix,
    .text .explicitIpv4, .text .explicitIpv6, .number .rxDataPerSec, .number .txDataPerSec,
    .text .netPriority, .number .keepalive, .number .dpd, .number .mobileDpd, .number .maxSameClients,
    .number .statsReportTime, .number .mtu, .number .idleTimeout, .number .mobileIdleTimeout,
    .text .restrictUserToPorts, .number .sessionTimeout, .text .hostname,
    .flag .denyRoaming, .flag .noUdp, .flag .tunnelAllDns, .flag .restrictUserToRoutes]

/-- `UserConfig`, and the data it is validated from: a field that is not given is as good as `None`. -/
structure UserConfig where
  lists : ListField → List String := fun _ => []
  texts : TextField → Option String := fun _ => none
  numbers : NumberField → Option Int := fun _ => none
  flags : FlagField → Option Bool := fun _ => none

/-! Validation. -/

/-- `value.split(c, 1)`, if there is a `c`. -/
def splitOnce (separator : Char) (value : String) : Option (String × String) :=
  match value.toList.span (· ≠ separator) with
  | (_, []) => none
  | (before, _ :: rest) => some (String.ofList before, String.ofList rest)

def UserConfig.validateIp (value : String) : Except PyError String :=
  if (ipAddress value).isSome then .ok value
  else .error (.valueError s!"'{value}' does not appear to be an IPv4 or IPv6 address")

def UserConfig.validateNetwork (value : String) : Except PyError String :=
  if (ipNetwork value).isSome then .ok value
  else .error (.valueError s!"'{value}' does not appear to be an IPv4 or IPv6 network")

def UserConfig.validateRoute (value : String) : Except PyError String :=
  if value = "default" then .ok value
  else match splitOnce '/' value with
    | some (left, right) =>
        if (ipNetwork value).isSome then .ok value
        else do
          let _ ← validateIp left
          let _ ← validateIp right
          return value
    | none => validateNetwork value

def UserConfig.validateDomain (value : String) : Except PyError String :=
  let candidate := stripEnd '.' (strip value)
  if candidate ≠ "" ∧ matchesDomain candidate = true then .ok candidate
  else .error (.valueError s!"invalid domain name: {value}")

def stripOptional (value : Option String) : Option String :=
  value.bind fun text => if strip text = "" then none else some (strip text)

/-- `HOSTNAME_RE`. -/
def matchesHostname (text : String) : Bool :=
  let body := beforeDollar text.toList
  decide (body.length ≤ 253) && (splitChar '.' body).all matchesLabel

def isPortRuleChar (c : Char) : Bool :=
  isAlnum c || ['_', '(', ')', ',', '!', ':', '-'].contains c || isSpace c

/-- `PORT_RULE_RE`. -/
def matchesPortRule (text : String) : Bool := decide (text ≠ "") && text.toList.all isPortRuleChar

/-- `int(text, 0)`: decimal digits are limited, those of the other bases are not. -/
def intOfAnyBase (text : String) : Option Int :=
  let chars := stripChars isIntSpace (text.toList.map asciiDecimal)
  let magnitude := if chars.head? = some '-' ∨ chars.head? = some '+' then chars.tail else chars
  let marked := magnitude.head? = some '0' ∧
    (magnitude.tail.head?.any fun c => ['x', 'X', 'o', 'O', 'b', 'B'].contains c) = true
  if ¬marked ∧ maxIntDigits < digitCount chars then none else intLiteral text

def UserConfig.validateItem : ListField → String → Except PyError String
  | .dns, item | .nbns, item => validateIp (strip item)
  | .splitDns, item => validateDomain item
  | .routes, item | .noRoutes, item | .iroutes, item => validateRoute (strip item)

def validateItems (validate : String → Except PyError String) : List String → Except PyError (List String)
  | [] => .ok []
  | item :: rest => do
      if strip item = "" then validateItems validate rest
      else
        let value ← validate item
        return value :: (← validateItems validate rest)

def UserConfig.validateFamily (family : Family) (expected value : String) : Except PyError Unit :=
  match ipAddress value with
  | some address =>
      if address.family = family then .ok () else .error (.valueError s!"expected {expected} address")
  | none => .error (.valueError s!"'{value}' does not appear to be an IPv4 or IPv6 address")

/-- What is asked of a text once it is stripped. -/
def UserConfig.checkText : TextField → String → Except PyError Unit
  | .ipv4Network, value | .ipv6Network, value => do
      let _ ← validateNetwork value
  | .ipv4Netmask, value | .explicitIpv4, value => validateFamily .v4 "IPv4" value
  | .explicitIpv6, value => validateFamily .v6 "IPv6" value
  | .netPriority, value =>
      match intOfAnyBase value with
      | some number =>
          if number < 0 then .error (.valueError "net-priority must be non-negative") else .ok ()
      | none => .error (.valueError s!"invalid literal for int() with base 0: '{value}'")
  | .restrictUserToPorts, value =>
      if matchesPortRule value = true then .ok ()
      else .error (.valueError "restrict-user-to-ports contains unsupported characters")
  | .hostname, value =>
      if matchesHostname value = true then .ok ()
      else .error (.valueError "hostname must be a valid DNS hostname")

def UserConfig.validateText (field : TextField) (value : Option String) : Except PyError (Option String) :=
  match stripOptional value with
  | some text => do
      checkText field text
      return some text
  | none => .ok none

/-- `ge` and `le` of the numbers. -/
def NumberField.bounds : NumberField → Int × Option Int
  | .ipv6SubnetPrefix => (1, some 128)
  | .rxDataPerSec | .txDataPerSec | .keepalive | .dpd | .mobileDpd | .statsReportTime => (0, none)
  | .maxSameClients | .idleTimeout | .mobileIdleTimeout | .sessionTimeout => (1, none)
  | .mtu => (576, some 65535)

def UserConfig.validateNumber (field : NumberField) : Option Int → Except PyError (Option Int)
  | some number =>
      if number < field.bounds.1 then .error (.valueError "input is too small")
      else if field.bounds.2.any (· < number) then .error (.valueError "input is too large")
      else .ok (some number)
  | none => .ok none

def UserConfig.validateField (data : UserConfig) : ConfigField → Except PyError Unit
  | .list field => do let _ ← validateItems (validateItem field) (data.lists field)
  | .text field => do let _ ← validateText field (data.texts field)
  | .number field => do let _ ← validateNumber field (data.numbers field)
  | .flag _ => .ok ()

def valueOr {α : Type} (fallback : α) : Except PyError α → α
  | .ok value => value
  | .error _ => fallback

/-- The value with every field as its validator returns it. -/
def UserConfig.validated (data : UserConfig) : UserConfig where
  lists field := valueOr [] (validateItems (validateItem field) (data.lists field))
  texts field := valueOr none (validateText field (data.texts field))
  numbers field := valueOr none (validateNumber field (data.numbers field))
  flags := data.flags

def UserConfig.modelValidate (data : UserConfig) : Except PyError UserConfig := do
  ConfigField.all.forM data.validateField
  if data.validated.texts .ipv4Netmask ≠ none ∧ data.validated.texts .ipv4Network = none then
    .error (.valueError "ipv4-netmask requires ipv4-network")
  else return data.validated

/-- `str` of a number, which may raise. -/
def numberText (number : Int) : Except PyError String :=
  if maxIntDigits < (Nat.toDigits 10 number.natAbs).length then
    .error (.valueError "Exceeds the limit (4300 digits) for integer string conversion")
  else .ok (toString number)

def boolText (value : Bool) : String := if value then "true" else "false"

/-- What is written behind the directive of a field, once for each item. -/
def UserConfig.values (config : UserConfig) : ConfigField → List String
  | .list field => config.lists field
  | .text field => (config.texts field).toList
  | .number field => (config.numbers field).toList.map toString
  | .flag field => (config.flags field).toList.map boolText

def directiveLine (field : ConfigField) (value : String) : String := field.directive ++ " = " ++ value

def UserConfig.directiveLines (config : UserConfig) (fields : List ConfigField) : List String :=
  fields.flatMap fun field => (config.values field).map (directiveLine field)

def UserConfig.writeField (config : UserConfig) : ConfigField → Except PyError Unit
  | .number field =>
      match config.numbers field with
      | some number => do let _ ← numberText number
      | none => .ok ()
  | _ => .ok ()

def generatedComment : String := "# Generated by korserver. Manual edits may be overwritten."

def renderUserConfig (config : UserConfig) : Except PyError String := do
  ConfigField.all.forM config.writeField
  return join "\n" (generatedComment :: config.directiveLines ConfigField.all) ++ "\n"

def parseBool (value : String) : Option Bool :=
  let lowered := lower (strip value)
  if ["true", "yes", "1", "on"].contains lowered then some true
  else if ["false", "no", "0", "off"].contains lowered then some false
  else none

def parseInt (value : String) : Option Int := readInt (strip value)

/-- `text.strip(c)`. -/
def stripBoth (c : Char) (text : String) : String := String.ofList (stripChars (· == c) text.toList)

def readDirective (line : String) : Option (String × String) :=
  let clean := strip (String.ofList (line.toList.takeWhile (· ≠ '#')))
  (splitOnce '=' clean).map fun parts =>
    let rawValue := strip parts.2
    (strip parts.1, stripBoth '"' (strip rawValue))

def fieldOf (key : String) : Option ConfigField :=
  ConfigField.all.find? fun field => decide (field.directive = key)

def UserConfig.assign (parsed : UserConfig) (value : String) : ConfigField → UserConfig
  | .list field => { parsed with lists := Function.update parsed.lists field (parsed.lists field ++ [value]) }
  | .text field => { parsed with texts := Function.update parsed.texts field (some value) }
  | .number field => { parsed with numbers := Function.update parsed.numbers field (parseInt value) }
  | .flag field => { parsed with flags := Function.update parsed.flags field (parseBool value) }

def UserConfig.parseLine (parsed : UserConfig) (line : String) : UserConfig :=
  match readDirective line with
  | some (key, value) =>
      match fieldOf key with
      | some field => parsed.assign value field
      | none => parsed
  | none => parsed

/-- `parse_user_config_file` on the text of the file. -/
def parseUserConfigFile (text : String) : UserConfig :=
  (splitLines text).foldl UserConfig.parseLine {}

end Korserver
