import Callwire.Client.Request
import Callwire.Payload.Basic

/-!
# Calls of a client

The calls of a connection that wait for a response, and the ids of their
requests. Ids are handed out in order and never twice.
-/

set_option autoImplicit false

namespace Callwire

/-- Points in time, in quarters of a millisecond. -/
abbrev Instant := Nat

def Instant.ofMillis (ms : Nat) : Instant := 4 * ms

/-- The clock counts seconds in 63 bits. -/
def Instant.last : Instant := 4000 * 0x8000000000000000 - 1

def OnClock (deadline : Option Instant) : Prop := ∀ d ∈ deadline, d ≤ Instant.last

instance (deadline : Option Instant) : Decidable (OnClock deadline) :=
  inferInstanceAs (Decidable (∀ d ∈ deadline, _))

structure PendingCall where
  id : Nat
  method : String
  deadline : Option Instant
  caller : Nat
  abandoned : Bool
  deriving DecidableEq

namespace PendingCall

variable {ε : Type}

def reply (p : PendingCall) (r : CallResult) : List (Effect ε) :=
  Callwire.reply p.caller p.abandoned r

def isDue (p : PendingCall) (t : Instant) : Bool :=
  match p.deadline with
  | some d => d ≤ t
  | none => false

end PendingCall

inductive Outgoing
  | declined
  | framed (frame : Bytes)
  | panicked
  deriving DecidableEq

structure Calls where
  /-- None once every id was handed out. -/
  nextId : Option Nat
  pending : List PendingCall
  /-- How long calls wait, in milliseconds; none for ever. -/
  timeout : Option Nat
  deriving DecidableEq

namespace Calls

variable {ε : Type}

def fresh (timeout : Option Nat) : Calls := ⟨some 1, [], timeout⟩

def find? (c : Calls) (id : Nat) : Option PendingCall := c.pending.find? (·.id == id)

def without (c : Calls) (id : Nat) : Calls :=
  { c with pending := c.pending.filter (·.id != id) }

def advance (c : Calls) (id : Nat) : Calls :=
  { c with nextId := if id < Frame.maxId then some (id + 1) else none }

/-- Registers a call and gives the frame to send. Adding up to a deadline that is not on
the clock panics, which drops the call. -/
def outbound (c : Calls) (now : Instant) (call : Call) : Calls × Outgoing × List (Effect ε) :=
  match c.nextId with
  | none => (c, .declined, reply call.caller call.abandoned (.error .idsExhausted))
  | some id =>
    let c := c.advance id
    match Request.encode ⟨call.method, Int32.ofNat id, call.payload⟩ with
    | .error e => (c, .declined, reply call.caller call.abandoned (.error (.frame e)))
    | .ok frame =>
      let deadline := c.timeout.map fun t => now + Instant.ofMillis t
      if OnClock deadline then
        let p : PendingCall := ⟨id, call.method, deadline, call.caller, call.abandoned⟩
        ({ c with pending := c.pending ++ [p] }, .framed frame, [])
      else (c, .panicked, reply call.caller call.abandoned (.error .closed))

def result (r : Response) : CallResult :=
  if r.isSuccess then .ok r.payload
  else
    match Payload.decode (α := Failure) r.payload with
    | .ok f => .error (.remote f.error)
    | .error e => .error (.codec e)

def failureTrace (method : String) (r : CallResult) : List (Effect ε) :=
  match r with
  | .ok _ => []
  | .error e => [.trace ⟨.debug, "call " ++ method ++ " failed: " ++ e.message⟩]

def respond (c : Calls) (r : Response) : Calls × List (Effect ε) :=
  match c.find? r.requestId.toInt.toNat with
  | none =>
    (c, [.trace ⟨.error, "no pending call found for id " ++ toString r.id.toInt⟩])
  | some p =>
    (c.without p.id, failureTrace p.method (result r) ++ p.reply (result r))

def inbound (c : Calls) (frame : Bytes) : Calls × List (Effect ε) × Option Push :=
  match Frame.decode .client frame with
  | .ok (.response r) =>
    let (c, effects) := c.respond r
    (c, effects, none)
  | .ok (.push p) => (c, [], some p)
  | .ok (.request r) =>
    (c, [.trace ⟨.error, "client received a request " ++ Text.quoted r.name⟩], none)
  | .error e => (c, [.trace ⟨.error, "dropping undecodable frame: " ++ e.message⟩], none)

def timedOut (p : PendingCall) : List (Effect ε) :=
  .trace ⟨.warn, "call " ++ p.method ++ " (" ++ toString p.id ++ ") timed out"⟩ ::
    p.reply (.error .timeout)

def expire (c : Calls) (t : Instant) : Calls × List (Effect ε) :=
  let waited := c.pending.filter (!·.abandoned)
  ({ c with pending := waited.filter (!·.isDue t) },
    (waited.filter (·.isDue t)).flatMap timedOut)

def close (c : Calls) : Calls × List (Effect ε) :=
  ({ c with pending := [] }, c.pending.flatMap (·.reply (.error .closed)))

def abandon (c : Calls) (caller : Nat) : Calls :=
  { c with pending := c.pending.map fun p =>
      if p.caller = caller then { p with abandoned := true } else p }

def setTimeout (c : Calls) (timeout : Option Nat) : Calls := { c with timeout }

end Calls

end Callwire
