import Callwire.Json.Reader

/-!
# Text in JSON

Text stands in double quotes. A backslash starts an escape; characters outside
the first plane may be escaped as two surrogates.
-/

set_option autoImplicit false

namespace Callwire.Json

def hexDigit? (b : UInt8) : Option Nat :=
  if isDigit b then some (digitOf b)
  else if 97 ≤ b && b ≤ 102 then some (b.toNat - 87)
  else if 65 ≤ b && b ≤ 70 then some (b.toNat - 55)
  else none

def hexWord? (a b c d : UInt8) : Option Nat := do
  return (((← hexDigit? a) * 16 + (← hexDigit? b)) * 16 + (← hexDigit? c)) * 16 + (← hexDigit? d)

def hexWord : Reader Nat
  | a :: b :: c :: d :: rest =>
    match hexWord? a b c d with
    | some n => .ok (n, rest)
    | none => .error ⟨.escape, rest.length⟩
  | _ => .error ⟨.endInText, 0⟩

def nextInText : Reader UInt8 := do
  match ← next with
  | some b => return b
  | none => fail .endInText

def pairByte (b : UInt8) : Reader Unit := do
  if (← nextInText) = b then return else fail .hexEnd

def isLead (n : Nat) : Bool := 0xD800 ≤ n && n ≤ 0xDBFF

def isTrail (n : Nat) : Bool := 0xDC00 ≤ n && n ≤ 0xDFFF

def codePoint : Reader Nat := do
  let n ← hexWord
  if isTrail n then fail .surrogate
  else if isLead n then
    pairByte backslash
    pairByte 117
    let m ← hexWord
    if isTrail m then return (n - 0xD800) * 1024 + (m - 0xDC00) + 0x10000 else fail .surrogate
  else return n

def shortEscape? (b : UInt8) : Option UInt8 :=
  if b == quote || b == backslash || b == 47 then some b
  else if b == 98 then some 8
  else if b == 102 then some 12
  else if b == 110 then some 10
  else if b == 114 then some 13
  else if b == 116 then some 9
  else none

def escape : Reader Bytes := do
  let b ← nextInText
  match shortEscape? b with
  | some x => return [x]
  | none =>
    if b = 117 then return Bytes.ofString (String.singleton (Char.ofNat (← codePoint)))
    else fail .escape

def body : Nat → Reader Bytes
  | 0 => fail .endInText
  | fuel + 1 => do
    let b ← nextInText
    if b = quote then return []
    else if b = backslash then
      let piece ← escape
      return piece ++ (← body fuel)
    else if b < 32 then fail .control
    else return b :: (← body fuel)

def validLength (b : Bytes) : Nat :=
  ((List.range (b.length + 1)).reverse.find? fun n => (Bytes.toString? (b.take n)).isSome).getD 0

/-- Text whose opening quote was taken. Bytes that are no UTF-8 are reported as
far before the end of the text as there are bytes from the first of them on, an
escape counted as the bytes it stands for. -/
def text : Reader String := fun rest => do
  let (bytes, rest') ← body rest.length rest
  match Bytes.toString? bytes with
  | some s => return (s, rest')
  | none => .error ⟨.codePoint, rest'.length + (bytes.length - validLength bytes)⟩

def skipText : Nat → Reader Unit
  | 0 => fail .endInText
  | fuel + 1 => do
    match ← peek with
    | none => fail .endInText
    | some b =>
      if b = quote then eat
      else if b = backslash then
        eat
        let e ← nextInText
        if e = 117 then discard hexWord
        else if (shortEscape? e).isNone then fail .escape
        skipText fuel
      else if b < 32 then fail .control
      else
        eat
        skipText fuel

end Callwire.Json
