import Callwire.Transport.Stream

/-!
# Links

What connects two ends: lanes in memory or a byte stream.
-/

set_option autoImplicit false

namespace Callwire

inductive Link
  | memory (p : Memory.Pair)
  | stream (d : Stream.Duplex)
  deriving DecidableEq

namespace Link

def send (s : Side) : Link → Bytes → Except TransportFault Link
  | memory p, m => (Memory.Pair.send s p m).map memory
  | stream d, m => (Stream.Duplex.send s d m).map stream

def receive (s : Side) : Link → Link × Poll
  | memory p => let (p, r) := Memory.Pair.receive s p; (memory p, r)
  | stream d => let (d, r) := Stream.Duplex.receive s d; (stream d, r)

def shutdown (s : Side) : Link → Link
  | memory p => memory (Memory.Pair.shutdown s p)
  | stream d => stream (Stream.Duplex.shutdown s d)

def detach (s : Side) : Link → Link
  | memory p => memory (Memory.Pair.detach s p)
  | stream d => stream (Stream.Duplex.detach s d)

def terminal (s : Side) : Terminal Link := ⟨send s, receive s, shutdown s, detach s⟩

def feed (s : Side) : Link → Bytes → Except TransportFault Link
  | memory p, m => (Memory.Pair.send s p m).map memory
  | stream d, b => (Stream.Duplex.write s d b).map stream

def drain (s : Side) : Link → Link × List Bytes
  | memory p => (memory (p.set s { p.lane s with queue := [] }), (p.lane s).queue)
  | stream d =>
    let (d, b) := Stream.Duplex.drain s d
    (stream d, if b.isEmpty then [] else [b])

def isEnded (s : Side) : Link → Bool
  | memory p => !(p.lane s).sending
  | stream d => !(d.pipe s).writing

def size : Link → Nat
  | memory p => p.toA.queue.length + p.toB.queue.length
  | stream d =>
    d.toA.bytes.length + d.toB.bytes.length + d.a.buffer.length + d.b.buffer.length

end Link

end Callwire
