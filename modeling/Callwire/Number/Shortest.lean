import Callwire.Number.Binary64

/-!
# Shortest decimals

A floating point number is shown by the fewest digits that lead back to it,
and of those by the ones nearest to it.
-/

set_option autoImplicit false

namespace Callwire.Binary64

structure Decimal where
  digits : Nat
  exponent : Int
  deriving DecidableEq, Repr

namespace Decimal

def quarters (d : Decimal) (shift : Nat) : Nat :=
  4 * one * d.digits * Nat.pow 10 (d.exponent + shift).toNat

/-- Whether a decimal lies so near to a magnitude that it is rounded to it.
Halfway points go to the even significand, and below a power of two the
neighbour is only half as far away. -/
def leadsTo (d : Decimal) (a : Binary64) : Bool :=
  let shift := (-d.exponent).toNat
  let step := spacing a.units
  let significand := a.units / step
  let below := if significand = Nat.pow 2 52 ∧ 1 < step then step else 2 * step
  let low := (4 * a.units - below) * Nat.pow 10 shift
  let high := (4 * a.units + 2 * step) * Nat.pow 10 shift
  let x := d.quarters shift
  if significand % 2 = 0 then low ≤ x && x ≤ high else low < x && x < high

def distance (d : Decimal) (a : Binary64) : Nat :=
  let shift := (-d.exponent).toNat
  let x := d.quarters shift
  let y := 4 * a.units * Nat.pow 10 shift
  (x - y) + (y - x)

def around (a : Binary64) (exponent : Int) : List Decimal :=
  let floor := a.units * Nat.pow 10 (-exponent).toNat / (one * Nat.pow 10 exponent.toNat)
  [⟨floor, exponent⟩, ⟨floor + 1, exponent⟩]

def nearer (a : Binary64) (x y : Decimal) : Decimal :=
  if x.distance a < y.distance a then x
  else if y.distance a < x.distance a then y
  else if x.digits % 2 = 0 then x else y

def trimmed (d : Decimal) : Decimal :=
  if h : d.digits ≠ 0 ∧ d.digits % 10 = 0 then trimmed ⟨d.digits / 10, d.exponent + 1⟩ else d
termination_by d.digits
decreasing_by exact Nat.div_lt_self (by omega) (by decide)

end Decimal

def exponents : List Int := (List.range 660).map fun n : Nat => 330 - (n : Int)

def shortest (a : Binary64) : Decimal :=
  if a.isZero then ⟨0, 0⟩
  else
    match exponents.findSome? fun e =>
        match (Decimal.around a e).filter (fun d => d.digits ≠ 0 && d.leadsTo a) with
        | [] => none
        | [x] => some x
        | x :: y :: _ => some (Decimal.nearer a x y) with
    | some d => d.trimmed
    | none => ⟨0, 0⟩

structure PointStyle where
  lowest : Int
  highest : Int

def plain : PointStyle := ⟨-5, 15⟩

def digitsOf (n : Nat) : List Char := Nat.toDigits 10 n

def decimalText (style : PointStyle) (d : Decimal) : List Char :=
  let digits := digitsOf d.digits
  let lead : Int := d.exponent + digits.length - 1
  if style.lowest ≤ lead ∧ lead ≤ style.highest then
    if 0 ≤ d.exponent then
      digits ++ List.replicate d.exponent.toNat '0' ++ ['.', '0']
    else if 0 ≤ lead then
      digits.take (lead.toNat + 1) ++ '.' :: digits.drop (lead.toNat + 1)
    else '0' :: '.' :: (List.replicate ((-lead).toNat - 1) '0' ++ digits)
  else
    digits.take 1 ++ (if digits.length = 1 then [] else '.' :: digits.drop 1) ++
      'e' :: (if lead < 0 then '-' else '+') :: digitsOf lead.natAbs

def text (a : Binary64) : String := String.ofList (decimalText plain a.shortest)

end Callwire.Binary64
