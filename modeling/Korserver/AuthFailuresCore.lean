import Korserver.AdminAccessCore
import Korserver.BaseEncodings

/-!
`services/password_hash.py` and `services/admin_totp.py`: what a password and a code are compared
with. The two hash functions of `hashlib` are given.
-/

namespace Korserver

open PythonText PythonValue BaseEncodings

/-- `hashlib.scrypt` with the parameters of `password_hash.py`, unless it raises a `ValueError`, and
the digest of `hmac.new(key, struct.pack(">Q", counter), hashlib.sha1)`. -/
structure HashFunctions where
  scrypt : String → List UInt8 → Option (List UInt8)
  hmacSha1 : List UInt8 → Nat → Vector UInt8 20

def scryptN : Int := 2 ^ 14
def scryptR : Int := 8
def scryptP : Int := 1
def keyLength : Nat := 32

/-- `encoded.split("$", 5)`, if that gives six parts. -/
def hashParts (encoded : String) : Option (List (List Char)) :=
  let parts := splitChar '$' encoded.toList
  if parts.length < 6 then none
  else some (parts.take 5 ++ [List.intercalate ['$'] (parts.drop 5)])

def verifyPassword (hashes : HashFunctions) (password encoded : String) : Bool :=
  match hashParts encoded with
  | some [algorithm, rawN, rawR, rawP, rawSalt, rawExpected] =>
      if String.ofList algorithm ≠ "scrypt" then false
      else if (decimalLiteral (String.ofList rawN), decimalLiteral (String.ofList rawR),
          decimalLiteral (String.ofList rawP)) ≠ (some scryptN, some scryptR, some scryptP) then false
      else match urlsafeB64decode rawSalt, urlsafeB64decode rawExpected with
        | some salt, some expected =>
            if salt.length ≠ 16 ∨ expected.length ≠ keyLength then false
            else hashes.scrypt password salt == some expected
        | _, _ => false
  | _ => false

def totpStepSeconds : Int := 30
def totpDigits : Nat := 6

/-- `str.upper()` for one character; where other capitals are not ASCII either, the character
stays. -/
def upperChars (c : Char) : List Char :=
  if 'a' ≤ c ∧ c ≤ 'z' then [Char.ofNat (c.toNat - 32)]
  else match c.toNat with
    | 0xdf => ['S', 'S']
    | 0x131 => ['I']
    | 0x17f => ['S']
    | 0xfb00 => ['F', 'F']
    | 0xfb01 => ['F', 'I']
    | 0xfb02 => ['F', 'L']
    | 0xfb03 => ['F', 'F', 'I']
    | 0xfb04 => ['F', 'F', 'L']
    | 0xfb05 => ['S', 'T']
    | 0xfb06 => ['S', 'T']
    | _ => [c]

/-- The key of a secret: its base 32 text in capitals, padded. -/
def totpKey (secret : String) : Except String (List UInt8) :=
  let upper := secret.toList.flatMap upperChars
  b32decode (upper ++ List.replicate ((8 - upper.length % 8) % 8) '=')

def bigEndian (bytes : List UInt8) : Nat := bytes.foldl (fun value byte => value * 256 + byte.toNat) 0

/-- `AdminTotpService._code_at`. No reading of the clock gives a counter that is too large to pack. -/
def codeAt (hashes : HashFunctions) (secret : String) (counter : Int) : Except PyError String :=
  match totpKey secret with
  | .error message => .error (.valueError message)
  | .ok key =>
      if counter < 0 then .error .structError
      else
        let digest := hashes.hmacSha1 key counter.toNat
        let offset := digest[19].toNat % 16
        let truncated := bigEndian ((digest.toList.drop offset).take 4) % 2 ^ 31
        .ok (String.ofList (zeroPad totpDigits (Nat.toDigits 10 (truncated % 10 ^ totpDigits))))

/-- The characters that are digits and no decimals: superscripts, circled digits and the like. -/
def otherDigits : List (Nat × Nat) :=
  [(0xb2, 0xb3), (0xb9, 0xb9), (0x1369, 0x1371), (0x19da, 0x19da), (0x2070, 0x2070), (0x2074, 0x2079),
    (0x2080, 0x2089), (0x2460, 0x2468), (0x2474, 0x247c), (0x2488, 0x2490), (0x24ea, 0x24ea),
    (0x24f5, 0x24fd), (0x24ff, 0x24ff), (0x2776, 0x277e), (0x2780, 0x2788), (0x278a, 0x2792),
    (0x10a40, 0x10a43), (0x10e60, 0x10e68), (0x11052, 0x1105a), (0x1f100, 0x1f10a)]

def isDigit (c : Char) : Bool :=
  decimalZeros.any (fun first => first ≤ c.toNat && c.toNat < first + 10) ||
    otherDigits.any fun (first, last) => first ≤ c.toNat && c.toNat ≤ last

/-- `AdminTotpService.verify_code` from an offset on. -/
def verifyOffsets (hashes : HashFunctions) (secret code : String) (counter : Int) :
    List Int → Except PyError Bool
  | [] => .ok false
  | offset :: rest => do
      let expected ← codeAt hashes secret (counter + offset)
      if ← compareDigest expected code then return true
      verifyOffsets hashes secret code counter rest

def isSixDigits (code : String) : Bool :=
  code.toList.all isDigit && code.toList.length == totpDigits

def verifyCode (hashes : HashFunctions) (unixTime : Int) (secret code : String) : Except PyError Bool :=
  let code := strip code
  if !isSixDigits code then .ok false
  else verifyOffsets hashes secret code (unixTime / totpStepSeconds) [-1, 0, 1]

/-- `base64.b64decode(token, validate=True).decode("utf-8")`. -/
def decodeToken (token : String) : Option String :=
  (b64decode true token.toList).bind fun bytes => String.fromUTF8? (ByteArray.mk bytes.toArray)

/-- What `auth.py` and `routes_auth.py` call. -/
def adminChecks (hashes : HashFunctions) : AdminChecks where
  verifyPassword := verifyPassword hashes
  verifyCode := verifyCode hashes
  decodeToken := decodeToken

end Korserver
