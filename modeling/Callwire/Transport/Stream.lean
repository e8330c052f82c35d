import Callwire.Transport.Memory

/-!
# Messages on a byte stream

A message is sent as its length in four bytes and its bytes. The receiver puts
what arrives into a buffer and takes messages off its front, so that it can stop
waiting at any moment without losing anything.
-/

set_option autoImplicit false

namespace Callwire.Stream

structure Pipe where
  bytes : Bytes
  writing : Bool
  attached : Bool
  deriving DecidableEq

namespace Pipe

def fresh : Pipe := ⟨[], true, true⟩

/-- Nothing can be written to any pipe. -/
def write (p : Pipe) (b : Bytes) : Except TransportFault Pipe :=
  if b.isEmpty then .ok p
  else if p.writing && p.attached then .ok { p with bytes := p.bytes ++ b }
  else .error (.plain .brokenPipe)

def shut (p : Pipe) : Pipe := { p with writing := false }

def detach (p : Pipe) : Pipe := { p with bytes := [], attached := false }

end Pipe

def chunk : Nat := 4096

/-- The receiving buffer of an end, and the length its messages may have; zero
for any. -/
structure Framer where
  buffer : Bytes
  limit : Nat
  deriving DecidableEq

namespace Framer

def tooLong (length : Nat) : TransportFault :=
  ⟨.invalidData, some ("message of " ++ toString length ++ " bytes exceeds the body limit")⟩

def check (f : Framer) (length : Nat) : Except TransportFault Unit :=
  if f.limit ≠ 0 ∧ f.limit < length then .error (tooLong length) else .ok ()

/-- A message with its length, which wraps around where four bytes end. -/
def frame (m : Bytes) : Bytes := Bytes.ofWord (UInt32.ofNat m.length) ++ m

def encode (f : Framer) (m : Bytes) : Except TransportFault Bytes :=
  match f.check m.length with
  | .ok () => .ok (frame m)
  | .error e => .error e

/-- The first complete message of the buffer. The length is checked as soon as
it is there. -/
def take (f : Framer) : Except TransportFault (Option (Bytes × Framer)) :=
  match Bytes.word? f.buffer with
  | none => .ok none
  | some (length, rest) =>
    match f.check length.toNat with
    | .error e => .error e
    | .ok () =>
      if rest.length < length.toNat then .ok none
      else .ok (some (rest.take length.toNat, { f with buffer := rest.drop length.toNat }))

def receive : Nat → Framer → Pipe → (Framer × Pipe) × Poll
  | 0, f, p => ((f, p), .waiting)
  | fuel + 1, f, p =>
    match f.take with
    | .error e => ((f, p), .failed e)
    | .ok (some (m, f)) => ((f, p), .message m)
    | .ok none =>
      match p.bytes with
      | [] =>
        if p.writing then ((f, p), .waiting)
        else if f.buffer.isEmpty then ((f, p), .finished)
        else ((f, p), .failed (.plain .unexpectedEnd))
      | bytes =>
        receive fuel { f with buffer := f.buffer ++ bytes.take chunk }
          { p with bytes := bytes.drop chunk }

end Framer

/-- Two ends with a pipe in each direction; each is named by the side it leads
to, and every side has its own framer. -/
structure Duplex where
  toA : Pipe
  toB : Pipe
  a : Framer
  b : Framer
  deriving DecidableEq

namespace Duplex

def fresh (limit : Nat) : Duplex := ⟨.fresh, .fresh, ⟨[], limit⟩, ⟨[], limit⟩⟩

def pipe (d : Duplex) : Side → Pipe
  | .a => d.toA
  | .b => d.toB

def setPipe (d : Duplex) (s : Side) (p : Pipe) : Duplex :=
  match s with
  | .a => { d with toA := p }
  | .b => { d with toB := p }

def framer (d : Duplex) : Side → Framer
  | .a => d.a
  | .b => d.b

def setFramer (d : Duplex) (s : Side) (f : Framer) : Duplex :=
  match s with
  | .a => { d with a := f }
  | .b => { d with b := f }

def write (s : Side) (d : Duplex) (b : Bytes) : Except TransportFault Duplex :=
  ((d.pipe s.other).write b).map (d.setPipe s.other)

def send (s : Side) (d : Duplex) (m : Bytes) : Except TransportFault Duplex :=
  match (d.framer s).encode m with
  | .error e => .error e
  | .ok b => write s d b

def receive (s : Side) (d : Duplex) : Duplex × Poll :=
  let pipe := d.pipe s
  let ((f, p), r) := (d.framer s).receive (pipe.bytes.length + 1) pipe
  ((d.setFramer s f).setPipe s p, r)

def shutdown (s : Side) (d : Duplex) : Duplex := d.setPipe s.other (d.pipe s.other).shut

def detach (s : Side) (d : Duplex) : Duplex :=
  let d := shutdown s d
  d.setPipe s (d.pipe s).detach

def present (d : Duplex) (s : Side) : Bool := (d.pipe s).attached

def setLimit (s : Side) (d : Duplex) (limit : Nat) : Duplex :=
  d.setFramer s { d.framer s with limit }

def drain (s : Side) (d : Duplex) : Duplex × Bytes :=
  (d.setPipe s { d.pipe s with bytes := [] }, (d.pipe s).bytes)

end Duplex

end Callwire.Stream
