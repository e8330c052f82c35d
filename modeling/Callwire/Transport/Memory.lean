import Callwire.Transport.Fault

/-!
# Connections in memory

Two ends with a lane of messages in each direction. A lane ends when its sender
shuts it down or goes away; what is queued then can still be received.
-/

set_option autoImplicit false

namespace Callwire

inductive Side
  | a
  | b
  deriving DecidableEq, Repr

def Side.other : Side → Side
  | .a => .b
  | .b => .a

namespace Memory

structure Lane where
  queue : List Bytes
  sending : Bool
  attached : Bool
  deriving DecidableEq

namespace Lane

def fresh : Lane := ⟨[], true, true⟩

def send (l : Lane) (m : Bytes) : Except TransportFault Lane :=
  if !l.sending then .error (.plain .notConnected)
  else if !l.attached then .error (.plain .brokenPipe)
  else .ok { l with queue := l.queue ++ [m] }

def receive (l : Lane) : Lane × Poll :=
  match l.queue with
  | m :: rest => ({ l with queue := rest }, .message m)
  | [] => (l, if l.sending then .waiting else .finished)

def shut (l : Lane) : Lane := { l with sending := false }

def detach (l : Lane) : Lane := { l with queue := [], attached := false }

end Lane

structure Pair where
  toA : Lane
  toB : Lane
  deriving DecidableEq

namespace Pair

def fresh : Pair := ⟨.fresh, .fresh⟩

def lane (p : Pair) : Side → Lane
  | .a => p.toA
  | .b => p.toB

def set (p : Pair) (s : Side) (l : Lane) : Pair :=
  match s with
  | .a => { p with toA := l }
  | .b => { p with toB := l }

@[simp] theorem lane_set (p : Pair) (s : Side) (l : Lane) : (p.set s l).lane s = l := by
  cases s <;> rfl

@[simp] theorem lane_set_other (p : Pair) (s : Side) (l : Lane) :
    (p.set s l).lane s.other = p.lane s.other := by
  cases s <;> rfl

def send (s : Side) (p : Pair) (m : Bytes) : Except TransportFault Pair :=
  (p.lane s.other).send m |>.map (p.set s.other)

def receive (s : Side) (p : Pair) : Pair × Poll :=
  let (l, r) := (p.lane s).receive
  (p.set s l, r)

def shutdown (s : Side) (p : Pair) : Pair := p.set s.other (p.lane s.other).shut

def detach (s : Side) (p : Pair) : Pair :=
  (shutdown s p).set s ((shutdown s p).lane s).detach

def present (p : Pair) (s : Side) : Bool := (p.lane s).attached

end Pair

end Memory

end Callwire
