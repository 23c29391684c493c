import Korserver.UsersCore

/-!
`services/otp.py`: the one-time password secrets in the users.oath file.
-/

namespace Korserver

open PythonText PythonValue

def base32Digit (value : Nat) : Char := "ABCDEFGHIJKLMNOPQRSTUVWXYZ234567".toList.getD (value % 32) 'A'

def base32Group (value : Nat) : List Char := (List.range 8).map fun i => base32Digit (value / 32 ^ (7 - i))

def base32Value (bytes : List UInt8) : Nat := bytes.foldl (fun value byte => value * 256 + byte.toNat) 0

def b32encode : List UInt8 → List Char
  | a :: b :: c :: d :: e :: rest => base32Group (base32Value [a, b, c, d, e]) ++ b32encode rest
  | [] => []
  | short =>
      let digits := (8 * short.length + 4) / 5
      (base32Group (base32Value short * 256 ^ (5 - short.length))).take digits ++ List.replicate (8 - digits) '='

example : String.ofList (b32encode "foobar".toUTF8.toList) = "MZXW6YTBOI======" := by decide +kernel

/-- What `secrets.token_bytes(20)` gives. -/
abbrev OtpToken := Vector UInt8 20

structure OtpRecord where
  username : String
  enabled : Bool
  deriving DecidableEq

/-- `line.split()`. -/
def words (line : String) : List String := (splitSpace line.toList).map String.ofList

/-- `read_lines` on the users.oath file. -/
def oathLines : TextFile → Except PyError (List String) := passwdLines

def isOathComment (line : String) : Bool := line.toList.head? == some '#'

def listOtpRecords (file : TextFile) : Except PyError (List OtpRecord) := do
  let lines ← oathLines file
  return (lines.filter fun line => line ≠ "" && !isOathComment line).filterMap fun line =>
    (words line)[1]?.map fun username => { username, enabled := true }

def generateSecret (token : OtpToken) : String := stripEnd '=' (String.ofList (b32encode token.toList))

def otherLines (username : String) (lines : List String) : List String :=
  lines.filter fun line => (words line)[1]? ≠ some username

def oathLine (username secret : String) : String := "HOTP/T30/6 " ++ username ++ " - " ++ secret

def enableOtp (username : String) (token : OtpToken) (file : TextFile) : Except PyError (String × TextFile) := do
  let _ ← validateUsername username
  let secret := generateSecret token
  let lines ← oathLines file
  return (secret, .text (join "\n" (otherLines username lines ++ [oathLine username secret]) ++ "\n"))

def disableOtp (username : String) (file : TextFile) : Except PyError (Bool × TextFile) := do
  let _ ← validateUsername username
  let lines ← oathLines file
  let kept := otherLines username lines
  return if kept.length ≠ lines.length then (true, .text (fileText kept)) else (false, file)

/-- The fourth word of the first line of at least four words whose second is the name. -/
def firstSecret (username : String) (lines : List String) : Option String :=
  lines.findSome? fun line => if (words line)[1]? = some username then (words line)[3]? else none

def secretForUser (username : String) (file : TextFile) : Except PyError (Option String) := do
  let _ ← validateUsername username
  let lines ← oathLines file
  return firstSecret username lines

inductive OtpOperation
  | enable (username : String) (token : OtpToken)
  | disable (username : String)

def OtpOperation.username : OtpOperation → String
  | enable username _ => username
  | disable username => username

def OtpOperation.run (file : TextFile) : OtpOperation → Except PyError TextFile
  | enable username token => do
      let (_, after) ← enableOtp username token file
      return after
  | disable username => do
      let (_, after) ← disableOtp username file
      return after

def runOtp : List OtpOperation → TextFile → Except PyError TextFile
  | [], file => .ok file
  | operation :: rest, file => do
      let after ← operation.run file
      runOtp rest after

end Korserver
