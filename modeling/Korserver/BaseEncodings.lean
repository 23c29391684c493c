import Korserver.IpAddressCore

/-!
`base64` and `binascii` of the standard library: the readers of base 64 and base 32.
-/

namespace BaseEncodings

open PythonText IpAddress

def isAscii (text : List Char) : Bool := text.all (·.toNat < 128)

def base64Digit (c : Char) : Option Nat :=
  if 'A' ≤ c ∧ c ≤ 'Z' then some (c.toNat - 65)
  else if 'a' ≤ c ∧ c ≤ 'z' then some (c.toNat - 71)
  else if isAsciiDigit c then some (c.toNat + 4)
  else if c = '+' then some 62
  else if c = '/' then some 63
  else none

/-- `binascii.a2b_base64` with the position in the group of four, the bits that are left of the last
digit, and the padding so far. -/
def a2bBase64From (strict : Bool) : List Char → Nat → Nat → Nat → Bool → Option (List UInt8)
  | [], quadPos, _, _, _ => if quadPos = 0 then some [] else none
  | c :: rest, quadPos, left, pads, padded =>
      if c = '=' then
        if 2 ≤ quadPos ∧ 4 ≤ quadPos + (pads + 1) then
          if strict && !rest.isEmpty then none else some []
        else a2bBase64From strict rest quadPos left (if 2 ≤ quadPos then pads + 1 else pads) true
      else match base64Digit c with
        | none => if strict then none else a2bBase64From strict rest quadPos left pads padded
        | some digit =>
            if strict && padded then none
            else match quadPos with
              | 0 => a2bBase64From strict rest 1 digit 0 padded
              | 1 =>
                  (a2bBase64From strict rest 2 (digit % 16) 0 padded).map
                    (UInt8.ofNat (left * 4 + digit / 16) :: ·)
              | 2 =>
                  (a2bBase64From strict rest 3 (digit % 4) 0 padded).map
                    (UInt8.ofNat (left * 16 + digit / 4) :: ·)
              | _ =>
                  (a2bBase64From strict rest 0 0 0 padded).map (UInt8.ofNat (left * 64 + digit) :: ·)

/-- `base64.b64decode(text, validate=strict)`. -/
def b64decode (strict : Bool) (text : List Char) : Option (List UInt8) :=
  if !isAscii text || strict && text.head? == some '=' then none
  else a2bBase64From strict text 0 0 0 false

def urlsafeB64decode (text : List Char) : Option (List UInt8) :=
  b64decode false (text.map fun c => if c = '-' then '+' else if c = '_' then '/' else c)

def base32Digit? (c : Char) : Option Nat :=
  if 'A' ≤ c ∧ c ≤ 'Z' then some (c.toNat - 65)
  else if '2' ≤ c ∧ c ≤ '7' then some (c.toNat - 24)
  else none

def toBytes (count value : Nat) : List UInt8 :=
  (List.range count).map fun i => UInt8.ofNat (value / 256 ^ (count - 1 - i))

def base32Quanta : List Nat → List UInt8
  | a :: b :: c :: d :: e :: f :: g :: h :: rest =>
      toBytes 5 ([a, b, c, d, e, f, g, h].foldl (fun acc digit => acc * 32 + digit) 0) ++ base32Quanta rest
  | _ => []

/-- `base64.b32decode`. The last group is filled up with zeros, and the bytes that stand for nothing
but padding are left out. -/
def b32decode (text : List Char) : Except String (List UInt8) :=
  let digits := dropEndWhile (· == '=') text
  let padding := text.length - digits.length
  if !isAscii text then .error "string argument should contain only ASCII characters"
  else if text.length % 8 ≠ 0 then .error "Incorrect padding"
  else match digits.mapM base32Digit? with
    | none => .error "Non-base32 digit found"
    | some values =>
        if padding ∉ [0, 1, 3, 4, 6] then .error "Incorrect padding"
        else
          let decoded := base32Quanta (values ++ List.replicate padding 0)
          .ok (decoded.take (decoded.length - (5 - (43 - 5 * padding) / 8)))

example : b64decode true "Zm9vYg==".toList = some "foob".toUTF8.toList := by decide +kernel
example : b64decode true "YW=J".toList = none := by decide +kernel
example : b32decode "MZXW6YTBOI======".toList = .ok "foobar".toUTF8.toList := by decide +kernel

end BaseEncodings
