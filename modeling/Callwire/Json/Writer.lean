import Callwire.Json.Record

/-!
# Writing JSON

Records are written without blanks, their fields in the order of declaration.
In text only quotes, backslashes and control characters are escaped.
-/

set_option autoImplicit false

namespace Callwire.Json

def hexByte (n : Nat) : UInt8 := UInt8.ofNat (if n < 10 then 48 + n else 87 + n)

def shortLetter? (b : UInt8) : Option UInt8 :=
  if b == quote || b == backslash then some b
  else if b == 8 then some 98
  else if b == 12 then some 102
  else if b == 10 then some 110
  else if b == 13 then some 114
  else if b == 9 then some 116
  else none

def writeByte (b : UInt8) : Bytes :=
  match shortLetter? b with
  | some c => [backslash, c]
  | none =>
    if b < 32 then [backslash, 117, 48, 48, hexByte (b.toNat / 16), hexByte (b.toNat % 16)]
    else [b]

def writeText (s : String) : Bytes :=
  quote :: (Bytes.ofString s).flatMap writeByte ++ [quote]

def writeCount (n : Nat) : Bytes :=
  (Nat.toDigits 10 n).map fun c => UInt8.ofNat c.toNat

def Scalar.write : Scalar → Bytes
  | .text s => writeText s
  | .count n => writeCount n.toNat

def writeFields : List (String × Scalar) → Bytes
  | [] => []
  | [(name, v)] => writeText name ++ colon :: v.write
  | (name, v) :: rest => writeText name ++ colon :: v.write ++ comma :: writeFields rest

def Shape.encode (s : Shape) (vs : List Scalar) : Bytes :=
  openObject :: writeFields ((s.fields.map (·.1)).zip vs) ++ [closeObject]

end Callwire.Json
