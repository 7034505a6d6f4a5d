/-! Octets of an address as a percent sign and two hexadecimal digits.

Which ASCII characters are written like that depends on the part of the address; others always are.
-/

set_option autoImplicit false

namespace Runbook.Url.Percent

def hexValue? (c : Char) : Option Nat :=
  if c.isDigit then some (c.toNat - 48)
  else if 'a' ≤ c ∧ c ≤ 'f' then some (c.toNat - 87)
  else if 'A' ≤ c ∧ c ≤ 'F' then some (c.toNat - 55)
  else none

def hexDigit (n : Nat) : Char :=
  Char.ofNat (if n < 10 then 48 + n else 55 + n)

def octets (c : Char) : List UInt8 :=
  (String.singleton c).toUTF8.toList

def encodeOctet (octet : UInt8) : List Char :=
  ['%', hexDigit (octet.toNat / 16), hexDigit (octet.toNat % 16)]

def encode (covers : Char → Bool) (cs : List Char) : String :=
  String.ofList <| cs.flatMap fun c =>
    if c.toNat < 128 && !covers c then [c] else (octets c).flatMap encodeOctet

def inControls (c : Char) : Bool :=
  c.toNat < 0x20 || c.toNat == 0x7F

def inFragment (c : Char) : Bool :=
  inControls c || [' ', '"', '<', '>', '\x60'].contains c

def inQuery (special : Bool) (c : Char) : Bool :=
  inControls c || [' ', '"', '#', '<', '>'].contains c || (special && c == '\'')

def inPath (c : Char) : Bool :=
  inFragment c || ['#', '?', '\x7b', '\x7d'].contains c

def inUserInfo (c : Char) : Bool :=
  inPath c || ['/', ':', ';', '=', '@', '[', '\\', ']', '^', '|'].contains c

/-- The octets of a text, with those that are written in digits as they are. -/
def decode : List Char → List UInt8
  | '%' :: a :: b :: rest =>
    match hexValue? a, hexValue? b with
    | some high, some low => UInt8.ofNat (16 * high + low) :: decode rest
    | _, _ => 37 :: decode (a :: b :: rest)
  | c :: rest => octets c ++ decode rest
  | [] => []

def decodeText? (cs : List Char) : Option (List Char) :=
  (String.fromUTF8? (ByteArray.mk (decode cs).toArray)).map String.toList

end Runbook.Url.Percent
