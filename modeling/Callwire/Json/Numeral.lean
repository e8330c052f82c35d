import Callwire.Json.Reader
import Callwire.Number.Shortest

/-!
# Numbers in JSON

Whole numbers stay whole as long as they fit into 64 bits; all others become
floating point numbers.
-/

set_option autoImplicit false

namespace Callwire.Json

inductive Numeral
  | whole (n : Nat)
  | below (n : Nat)
  | floating (negative : Bool) (magnitude : Binary64)
  deriving DecidableEq, Repr

def Numeral.found : Numeral → String
  | .whole n => "integer `" ++ toString n ++ "`"
  | .below n => "integer `-" ++ toString n ++ "`"
  | .floating negative magnitude =>
    "floating point `" ++ (if negative then "-" else "") ++ magnitude.text ++ "`"

def gather : Nat → Bytes → Nat × Nat
  | s, [] => (s, 0)
  | s, b :: rest =>
    if s * 10 + digitOf b < UInt64.size then
      let (t, count) := gather (s * 10 + digitOf b) rest
      (t, count + 1)
    else (s, 0)

def floating (positive : Bool) (significand : Nat) (exponent : Int) : Reader Numeral :=
  match Binary64.ofDecimal significand exponent with
  | some a => return .floating (!positive) a
  | none => fail .numberRange

def maxExponent : Nat := 2147483647

def exponentDigits : Nat → Bytes → Except Bytes (Nat × Bytes)
  | e, [] => .ok (e, [])
  | e, b :: rest =>
    if isDigit b then
      if maxExponent < e * 10 + digitOf b then .error rest
      else exponentDigits (e * 10 + digitOf b) rest
    else .ok (e, b :: rest)

def isExponentMark (b : Option UInt8) : Bool := b == some 101 || b == some 69

def exponentSign : Reader Bool := do
  match ← peek with
  | some 43 => eat; return true
  | some 45 => eat; return false
  | _ => return true

def withExponent (positive : Bool) (significand : Nat) (exponent : Int) : Reader Numeral := do
  eat
  let up ← exponentSign
  match ← next with
  | none => fail .endInValue
  | some b =>
    if isDigit b then
      match exponentDigits (digitOf b) (← get) with
      | .ok (e, rest) =>
        set rest
        floating positive significand (if up then exponent + e else exponent - e)
      | .error rest =>
        set rest
        if significand ≠ 0 && up then fail .numberRange
        else
          discard digits
          return .floating (!positive) ⟨0⟩
    else fail .number

def withFraction (positive : Bool) (significand : Nat) (exponent : Int) : Reader Numeral := do
  eat
  match ← digits with
  | [] => failNext (if (← peek).isSome then .number else .endInValue)
  | ds =>
    let (s, used) := gather significand ds
    if isExponentMark (← peek) then withExponent positive s (exponent - used)
    else floating positive s (exponent - used)

def whole (positive : Bool) (n : Nat) : Reader Numeral :=
  if positive then return .whole n
  else if n = 0 ∨ 9223372036854775808 < n then floating false n 0
  else return .below n

def number (positive : Bool) : Reader Numeral := do
  match ← next with
  | none => fail .endInValue
  | some b =>
    if b = 48 then
      if ((← peek).map isDigit).getD false then failNext .number
      else rest 0 0 (whole positive 0)
    else if isDigit b then
      let ds ← digits
      let (s, used) := gather (digitOf b) ds
      if used < ds.length then
        let e : Int := ds.length - used
        rest s e (floating positive s e)
      else rest s 0 (whole positive s)
    else fail .number
where
  rest (s : Nat) (e : Int) (atEnd : Reader Numeral) : Reader Numeral := do
    let b ← peek
    if b = some point then withFraction positive s e
    else if isExponentMark b then withExponent positive s e
    else atEnd

/-! Numbers nobody asks for are only checked. -/

def skipExponent : Reader Unit := do
  eat
  discard exponentSign
  if ((← next).map isDigit).getD false then discard digits else fail .number

def skipFraction : Reader Unit := do
  eat
  if (← digits).isEmpty then failNext .number
  else if isExponentMark (← peek) then skipExponent

def skipNumber : Reader Unit := do
  match ← next with
  | none => fail .number
  | some b =>
    if b = 48 then
      if ((← peek).map isDigit).getD false then failNext .number
    else if isDigit b then discard digits
    else fail .number
    let b ← peek
    if b = some point then skipFraction
    else if isExponentMark b then skipExponent

end Callwire.Json
