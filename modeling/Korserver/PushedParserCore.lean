import Korserver.RoutingCore

/-!
What upstream servers push, as `services/upstream_pushed.py` parses it: the environment of
the vpnc-script and the JSON of the sync endpoint. Malformed entries are skipped.
-/

namespace Korserver

open PythonText IpAddress PythonValue

abbrev Environ := String → Option String

def Environ.get (environ : Environ) (key : String) : String := (environ key).getD ""

def parseCount (value : String) : Nat :=
  let text := if strip value = "" then "0" else strip value
  if maxIntDigits < (text.toList.filter fun c => (digitValue (asciiDecimal c)).isSome).length then 0
  else ((decimalLiteral text).getD 0).toNat

def normalizePushedRoute (value : String) : Option String :=
  (ipNetwork (strip value)).map Network.text

def normalizePushedDomain (value : String) : Option String :=
  let candidate := stripEnd '.' (lower (strip value))
  if candidate ≠ "" ∧ matchesDomain candidate = true then some candidate else none

def normalizePushedIp (value : String) : Option String :=
  (ipAddress (strip value)).map Address.text

def appendUnique (items : List String) : Option String → List String
  | some value => if value = "" ∨ value ∈ items then items else items ++ [value]
  | none => items

/-- The loop that collects what `normalize` accepts. -/
def collect (normalize : String → Option String) (candidates : List String) : List String :=
  candidates.foldl (fun items candidate => appendUnique items (normalize candidate)) []

/-- The address and mask under one index, when both are given. -/
def splitRoute (environ : Environ) (key : String) (index : Nat) : Option String :=
  let address := strip (environ.get (key ++ "_" ++ toString index ++ "_ADDR"))
  let masklen := strip (environ.get (key ++ "_" ++ toString index ++ "_MASKLEN"))
  if address = "" ∨ masklen = "" then none else some (address ++ "/" ++ masklen)

def splitRoutes (environ : Environ) : List String :=
  ["CISCO_SPLIT_INC", "CISCO_IPV6_SPLIT_INC"].flatMap fun key =>
    (List.range (parseCount (environ.get key))).filterMap (splitRoute environ key)

def splitDomains (environ : Environ) : List String :=
  (splitChar ',' (environ.get "CISCO_SPLIT_DNS").toList).map String.ofList

def pushedServers (environ : Environ) : List String :=
  ["INTERNAL_IP4_DNS", "INTERNAL_IP6_DNS"].flatMap fun key =>
    (splitSpace (environ.get key).toList).map String.ofList

def parseVpncEnvironment (environ : Environ) (now : Int) : PushedRouting where
  routes := texts (collect normalizePushedRoute (splitRoutes environ))
  domains := texts (collect normalizePushedDomain (splitDomains environ))
  dns := texts (collect normalizePushedIp (pushedServers environ))
  source := .str "handshake"
  interface := .str (environ.get "TUNDEV")
  updatedAt := .int now

structure SyncLists where
  routes : List String
  domains : List String
  version : String

def parseSyncPayload (repr : Json → String) : Json → Except PyError SyncLists
  | .dict payload =>
      .ok {
        routes := collect normalizePushedRoute (stringItems (lookup "routes" payload))
        domains := collect normalizePushedDomain (stringItems (lookup "split_dns" payload))
        version :=
          match lookup "version" payload with
          | some version => if version.truthy then version.pyStr repr else ""
          | none => "" }
  | _ => .error (.valueError "sync response must be a JSON object")

end Korserver
