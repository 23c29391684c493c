import Korserver.PythonText
import Mathlib.Algebra.Group.Nat.Defs

/-!
Textual IPv4 and IPv6 addresses and networks, read and written the way Python's
`ipaddress` module does: no leading zeros in octets, one `::` at most, an IPv4 tail, an
IPv6 scope after `%`, and a prefix length or (IPv4 only) a netmask after the slash.
-/

namespace IpAddress

open PythonText

inductive Family
  | v4
  | v6
  deriving DecidableEq, Repr

@[simp] theorem Family.v4_beq_v6 : (Family.v4 == Family.v6) = false := rfl

@[simp] theorem Family.v6_beq_v4 : (Family.v6 == Family.v4) = false := rfl

def Family.bits : Family → Nat
  | .v4 => 32
  | .v6 => 128

/-- An address: its number fits the family, and only IPv6 has a scope. -/
structure Address where
  family : Family
  value : Nat
  scope : Option String := none
  fits : value < 2 ^ family.bits
  deriving DecidableEq

/-- A network: the bits of `base` behind the prefix are zero. -/
structure Network where
  base : Address
  prefixLength : Nat
  short : prefixLength ≤ base.family.bits
  masked : base.value % 2 ^ (base.family.bits - prefixLength) = 0
  deriving DecidableEq

def Network.family (network : Network) : Family := network.base.family

/-- Python's `address in network`; the scope plays no part. -/
def Network.contains (network : Network) (address : Address) : Bool :=
  address.family == network.family &&
    address.value / 2 ^ (network.family.bits - network.prefixLength) ==
      network.base.value / 2 ^ (network.family.bits - network.prefixLength)

def isAsciiDigit (c : Char) : Bool := '0' ≤ c && c ≤ '9'

def decimalValue (digits : List Char) : Nat :=
  digits.foldl (fun value c => value * 10 + (c.toNat - 48)) 0

def parseOctet (octet : List Char) : Option Nat :=
  if octet ≠ [] ∧ octet.all isAsciiDigit = true ∧ octet.length ≤ 3 ∧
      (octet = ['0'] ∨ octet.head? ≠ some '0') ∧ decimalValue octet ≤ 255 then
    some (decimalValue octet)
  else none

def parseV4 (text : List Char) : Option Nat :=
  match splitChar '.' text with
  | [a, b, c, d] => do
      let a ← parseOctet a
      let b ← parseOctet b
      let c ← parseOctet c
      let d ← parseOctet d
      return ((a * 256 + b) * 256 + c) * 256 + d
  | _ => none

def hexDigitValue (c : Char) : Option Nat :=
  match digitValue c with
  | some digit => if digit < 16 then some digit else none
  | none => none

def hexValue : List Char → Nat → Option Nat
  | [], value => some value
  | c :: rest, value => do hexValue rest (value * 16 + (← hexDigitValue c))

def parseHextet (hextet : List Char) : Option Nat :=
  if hextet = [] ∨ 4 < hextet.length then none else hexValue hextet 0

/-- An IPv4 tail stands for the last two hextets. -/
def expandTail (parts : List (List Char)) : Option (List (List Char)) :=
  match parts.getLast? with
  | some last =>
      if '.' ∈ last then do
        let tail ← parseV4 last
        return parts.dropLast ++ [Nat.toDigits 16 (tail / 65536), Nat.toDigits 16 (tail % 65536)]
      else some parts
  | none => some parts

/-- The parts in front of the `::` and behind it, when there is one: an empty part that
is neither the first nor the last. Two of them are an error. -/
def splitSkip (parts : List (List Char)) : Option (Option (List (List Char) × List (List Char))) :=
  match (List.range parts.length).filter (fun i =>
      decide (0 < i ∧ i + 1 < parts.length) && parts[i]?.getD ['0'] == []) with
  | [] => some none
  | [i] => some (some (parts.take i, parts.drop (i + 1)))
  | _ => none

/-- An empty outer part next to the `::` belongs to it; elsewhere it is an error. -/
def trimEdge (parts : List (List Char)) (edge : Option (List Char)) : Option (List (List Char)) :=
  if edge = some [] then (if parts.length = 1 then some [] else none) else some parts

def hextetsValue (hextets : List Nat) : Nat :=
  hextets.foldl (fun value hextet => value * 65536 + hextet) 0

def parseV6 (text : List Char) : Option Nat := do
  let raw := splitChar ':' text
  if raw.length < 3 then none
  let parts ← expandTail raw
  if 9 < parts.length then none
  match ← splitSkip parts with
  | some (front, back) =>
      let front ← trimEdge front front.head?
      let back ← trimEdge back back.getLast?
      if 8 ≤ front.length + back.length then none
      let high ← front.mapM parseHextet
      let low ← back.mapM parseHextet
      return hextetsValue (high ++ List.replicate (8 - (front.length + back.length)) 0 ++ low)
  | none =>
      if parts.length ≠ 8 then none
      return hextetsValue (← parts.mapM parseHextet)

/-- The text before the first `%` and the scope after it, which must not be empty and
holds no further `%`. -/
def splitScope (text : List Char) : Option (List Char × Option String) :=
  match text.span (· ≠ '%') with
  | (address, []) => some (address, none)
  | (address, _ :: scope) =>
      if scope = [] ∨ '%' ∈ scope then none else some (address, some (String.ofList scope))

def addressOf (family : Family) (scope : Option String) (value : Nat) : Option Address :=
  if fits : value < 2 ^ family.bits then some { family, value, scope, fits } else none

def ipv4Address (text : List Char) : Option Address := do
  if '/' ∈ text then none
  addressOf .v4 none (← parseV4 text)

def ipv6Address (text : List Char) : Option Address := do
  if '/' ∈ text then none
  let (address, scope) ← splitScope text
  addressOf .v6 scope (← parseV6 address)

/-- `ipaddress.ip_address(text)`. -/
def ipAddress (text : String) : Option Address :=
  ipv4Address text.toList <|> ipv6Address text.toList

def parsePrefixLength (family : Family) (digits : List Char) : Option Nat :=
  if digits ≠ [] ∧ digits.all isAsciiDigit = true ∧ decimalValue digits ≤ family.bits then
    some (decimalValue digits)
  else none

def netmask (length : Nat) : Nat := (2 ^ length - 1) * 2 ^ (32 - length)

def prefixOfMask (mask : Nat) : Option Nat :=
  (List.range 33).find? (fun length => netmask length == mask) <|>
    (List.range 33).find? (fun length => netmask length == 2 ^ 32 - 1 - mask)

def parseMask (family : Family) (mask : List Char) : Option Nat :=
  match family with
  | .v4 => parsePrefixLength .v4 mask <|> (parseV4 mask).bind prefixOfMask
  | .v6 => parsePrefixLength .v6 mask

/-- The network of an address: host bits are cleared, and a cleared bit drops the scope. -/
def networkOf (address : Address) (length : Nat) (short : length ≤ address.family.bits) :
    Network :=
  let hostSize := 2 ^ (address.family.bits - length)
  if clean : address.value % hostSize = 0 then
    { base := address, prefixLength := length, short, masked := clean }
  else
    { base := {
        family := address.family
        value := address.value / hostSize * hostSize
        fits := Nat.lt_of_le_of_lt (Nat.div_mul_le_self _ _) address.fits }
      prefixLength := length
      short
      masked := Nat.mul_mod_left _ _ }

/-- A strict reading refuses host bits instead of clearing them. -/
def readNetwork (strict : Bool) (family : Family) (address : List Char → Option Address)
    (text : List Char) : Option Network := do
  let (base, length) ← match splitChar '/' text with
    | [base] => some (base, family.bits)
    | [base, mask] => do some (base, ← parseMask family mask)
    | _ => none
  let base ← address base
  if strict && base.value % 2 ^ (base.family.bits - length) != 0 then none
  if short : length ≤ base.family.bits then some (networkOf base length short) else none

/-- `ipaddress.ip_network(text, strict=False)`. -/
def ipNetwork (text : String) : Option Network :=
  readNetwork false .v4 ipv4Address text.toList <|> readNetwork false .v6 ipv6Address text.toList

/-- `ipaddress.ip_network(text)`. -/
def ipNetworkStrict (text : String) : Option Network :=
  readNetwork true .v4 ipv4Address text.toList <|> readNetwork true .v6 ipv6Address text.toList

/-- `ipaddress.ip_network(number)`: the single address with that number, IPv4 if it fits. -/
def ipNetworkOfNumber (value : Nat) : Option Network :=
  ((addressOf .v4 none value).map fun address => networkOf address _ (Nat.le_refl _)) <|>
    (addressOf .v6 none value).map fun address => networkOf address _ (Nat.le_refl _)

def octets (value : Nat) : List Nat :=
  [value / 256 ^ 3, value / 256 ^ 2 % 256, value / 256 % 256, value % 256]

def hextets (value : Nat) : List Nat :=
  (List.range 8).map fun i => value / 65536 ^ (7 - i) % 65536

/-- The first longest run of zeros as `(start, length)`, scanning with the run that ends
here and the best run so far. -/
def longestZeros : List Nat → Nat → Nat × Nat → Nat × Nat → Nat × Nat
  | [], _, _, best => best
  | hextet :: rest, index, current, best =>
      if hextet = 0 then
        let start := if current.2 = 0 then index else current.1
        let length := current.2 + 1
        longestZeros rest (index + 1) (start, length) (if best.2 < length then (start, length) else best)
      else longestZeros rest (index + 1) (0, 0) best

def compressHextets (values : List Nat) : List (List Char) :=
  let texts := values.map (Nat.toDigits 16)
  let best := longestZeros values 0 (0, 0) (0, 0)
  if 1 < best.2 then
    (if best.1 = 0 then [[]] else []) ++ texts.take best.1 ++ [[]] ++
      texts.drop (best.1 + best.2) ++ (if best.1 + best.2 = values.length then [[]] else [])
  else texts

def joinChars (separator : Char) : List (List Char) → List Char
  | [] => []
  | [part] => part
  | part :: rest => part ++ separator :: joinChars separator rest

/-- `str(address)`. -/
def Address.text (address : Address) : String :=
  match address.family with
  | .v4 => String.ofList (joinChars '.' ((octets address.value).map (Nat.toDigits 10)))
  | .v6 => String.ofList (joinChars ':' (compressHextets (hextets address.value))) ++
      match address.scope with
      | some scope => "%" ++ scope
      | none => ""

/-- `str(network)`. -/
def Network.text (network : Network) : String :=
  network.base.text ++ "/" ++ toString network.prefixLength

/-- The family of a text that `ip_network` accepts. -/
def familyOf (text : String) : Option Family :=
  (ipNetwork text).map Network.family

example : (ipNetwork "10.10.10.1/24").map Network.text = some "10.10.10.0/24" := by decide
example : (ipNetwork "2001:DB8:0:0:1::/96").map Network.text = some "2001:db8:0:0:1::/96" := by decide
example : (ipAddress "::ffff:1.2.3.4").map Address.text = some "::ffff:102:304" := by decide
example : familyOf "10.0.0.0/0.255.255.255" = some .v4 := by decide
example : familyOf "10.0.0.08" = none := by decide

end IpAddress
