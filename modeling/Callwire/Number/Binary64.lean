/-!
# Numbers of 64 bit binary floating point

A finite magnitude is a whole number of units of `2 ^ -1074`, the smallest one
there is. A significand has 53 bits, so larger magnitudes are multiples of a
higher power of two.
-/

set_option autoImplicit false

namespace Callwire

/-- A magnitude, counted in units of `2 ^ -1074`. -/
structure Binary64 where
  units : Nat
  deriving DecidableEq, Repr

namespace Binary64

def one : Nat := Nat.pow 2 1074

def limit : Nat := Nat.pow 2 2098

def roundDiv (n d : Nat) : Nat :=
  let q := n / d
  let twice := 2 * (n % d)
  if twice < d ∨ (twice = d ∧ q % 2 = 0) then q else q + 1

def spacing (units : Nat) : Nat := Nat.pow 2 (units.log2 - 52)

def nearest (num den : Nat) : Option Binary64 :=
  let step := spacing (num * one / den)
  let units := roundDiv (num * one) (den * step) * step
  if units < limit then some ⟨units⟩ else none

def mul (a b : Binary64) : Option Binary64 := nearest (a.units * b.units) (one * one)

def div (a b : Binary64) : Option Binary64 := nearest a.units b.units

def isZero (a : Binary64) : Bool := a.units == 0

def powerOfTen (e : Nat) : Option Binary64 := nearest (Nat.pow 10 e) 1

def maxPower : Nat := 308

/-- The significand is rounded first and then multiplied or divided by a power
of ten, in steps that are powers themselves. -/
def ofDecimal (significand : Nat) (exponent : Int) : Option Binary64 := do
  scale (← nearest significand 1) exponent
where
  scale (a : Binary64) (e : Int) : Option Binary64 := do
    if e.natAbs ≤ maxPower then
      let p ← powerOfTen e.natAbs
      if 0 ≤ e then a.mul p else a.div p
    else if a.isZero then some a
    else if 0 < e then none
    else scale (← a.div (← powerOfTen maxPower)) (e + maxPower)
  termination_by e.natAbs
  decreasing_by unfold maxPower at *; omega

end Binary64

end Callwire
