import Callwire.Client.Calls

/-!
# Sweeps

Deadlines are looked at from time to time. A sweep is due one period after the
one before it; if that was late, missed ones are left out.
-/

set_option autoImplicit false

namespace Callwire

structure Sweep where
  due : Instant
  period : Nat
  deriving DecidableEq, Repr

namespace Sweep

def periodOf : Option Nat → Nat
  | some timeout => max timeout (Instant.ofMillis 1)
  | none => Instant.ofMillis 60000

/-- How late a sweep may be before missed ones are left out. -/
def slack : Nat := Instant.ofMillis 5

def start (now : Instant) (timeout : Option Nat) : Sweep := ⟨now, periodOf timeout⟩

def next (s : Sweep) (now : Instant) : Sweep :=
  if now ≤ s.due + slack then { s with due := s.due + s.period }
  else { s with due := now + s.period - (now - s.due) % s.period }

end Sweep

end Callwire
