import Callwire.Client.Listeners
import Callwire.Client.Sweep
import Callwire.TaskEnd

/-!
# Client connections

A connection is driven by a task that receives frames, sends the calls handed to
it, looks at deadlines and at its configuration, and ends when it is told to or
when the transport does. Calls are handed over in a queue of limited length;
callers that find it full wait.

Every way in which the state can change is an action. Which of the possible
actions comes next is left open.
-/

set_option autoImplicit false

namespace Callwire

structure Delivery (H ε : Type) where
  hub : H
  effects : List (Effect ε)
  panicked : Bool

namespace Client

inductive Phase
  | running
  | leaving (e : TaskEnd)
  | ended (e : TaskEnd)
  deriving DecidableEq

def capacity : Nat := 10

end Client

structure Client (H : Type) where
  calls : Calls
  hub : H
  queue : List Call
  blocked : List Call
  config : Option (Option Nat)
  sweep : Sweep
  closing : Bool
  phase : Client.Phase

namespace Client

inductive Action
  | enqueue
  | receive
  | take
  | sweep
  | configure
  | close
  | leave
  deriving DecidableEq, Repr

variable {H S ε : Type}

def start (hub : H) (now : Instant) (timeout : Option Nat) : Client H :=
  ⟨.fresh timeout, hub, [], [], none, .start now timeout, false, .running⟩

def end? (c : Client H) : Option TaskEnd :=
  match c.phase with
  | .ended e => some e
  | _ => none

/-- A caller comes with a call. A name that cannot be framed is refused before
the connection is looked at. -/
def submit (c : Client H) (call : Call) : Client H × List (Effect ε) :=
  match Frame.checkName call.method with
  | .error e => (c, reply call.caller call.abandoned (.error (.frame e)))
  | .ok () => ({ c with blocked := c.blocked ++ [call] }, [])

def abandon (c : Client H) (caller : Nat) : Client H :=
  { c with
    blocked := c.blocked.filter (·.caller != caller)
    queue := c.queue.map fun q => if q.caller = caller then { q with abandoned := true } else q
    calls := c.calls.abandon caller }

def configure (c : Client H) (timeout : Option Nat) : Client H := { c with config := some timeout }

def requestClose (c : Client H) : Client H := { c with closing := true }

def endTrace : TaskEnd → List (Effect ε)
  | .failed f => [.trace ⟨.error, "client bg_task error Io(" ++ f.inspected ++ ")"⟩]
  | _ => []

def inbound (deliver : H → Push → Delivery H ε) (c : Client H) (frame : Bytes) :
    Client H × List (Effect ε) :=
  let (calls, effects, push) := c.calls.inbound frame
  let c := { c with calls }
  match push with
  | none => (c, effects)
  | some p =>
    let d := deliver c.hub p
    ({ c with hub := d.hub, phase := if d.panicked then .leaving .panicked else c.phase },
      effects ++ d.effects)

def enqueue (c : Client H) : Option (Client H × List (Effect ε)) :=
  match c.blocked with
  | [] => none
  | call :: rest =>
    match c.phase with
    | .ended _ =>
      some ({ c with blocked := rest }, reply call.caller call.abandoned (.error .alreadyClosed))
    | _ =>
      if c.queue.length < capacity then
        some ({ c with blocked := rest, queue := c.queue ++ [call] }, [])
      else none

def receive (t : Terminal S) (deliver : H → Push → Delivery H ε) (c : Client H) (s : S) :
    Option (Client H × S × List (Effect ε)) :=
  match t.receive s with
  | (_, .waiting) => none
  | (s, .message frame) =>
    let (c, effects) := c.inbound deliver frame
    some (c, s, effects)
  | (s, .finished) => some ({ c with phase := .leaving .finished }, s, [])
  | (s, .failed f) => some ({ c with phase := .leaving (.failed f) }, s, [])

def take (t : Terminal S) (now : Instant) (c : Client H) (s : S) :
    Option (Client H × S × List (Effect ε)) :=
  match c.queue with
  | [] => none
  | call :: rest =>
    let (calls, outgoing, effects) := c.calls.outbound now call
    let c := { c with calls, queue := rest }
    match outgoing with
    | .declined => some (c, s, effects)
    | .panicked => some ({ c with phase := .leaving .panicked }, s, effects)
    | .framed frame =>
      match t.send s frame with
      | .ok s => some (c, s, effects)
      | .error f => some ({ c with phase := .leaving (.failed f) }, s, effects)

/-- Deadlines are compared with the time the sweep was due. -/
def runSweep (now : Instant) (c : Client H) : Option (Client H × List (Effect ε)) :=
  if c.sweep.due ≤ now then
    let (calls, effects) := c.calls.expire c.sweep.due
    some ({ c with calls, sweep := c.sweep.next now }, effects)
  else none

def applyConfig (now : Instant) (c : Client H) : Option (Client H) :=
  c.config.map fun timeout =>
    { c with calls := c.calls.setTimeout timeout, config := none, sweep := .start now timeout }

/-- The end of the task: every call it still has is rejected. A panic leaves no
time to shut the transport down. -/
def leave (t : Terminal S) (e : TaskEnd) (c : Client H) (s : S) :
    Client H × S × List (Effect ε) :=
  let (calls, effects) := c.calls.close
  let queued := c.queue.flatMap fun q => reply q.caller q.abandoned (.error .closed)
  let s := if e = .panicked then s else t.shutdown s
  ({ c with calls, queue := [], phase := .ended e }, t.detach s, effects ++ queued ++ endTrace e)

def act (t : Terminal S) (deliver : H → Push → Delivery H ε) (now : Instant) (a : Action)
    (c : Client H) (s : S) : Option (Client H × S × List (Effect ε)) :=
  match a, c.phase with
  | .enqueue, _ => c.enqueue.map fun (c, effects) => (c, s, effects)
  | .receive, .running => c.receive t deliver s
  | .take, .running => c.take t now s
  | .sweep, .running => (c.runSweep now).map fun (c, effects) => (c, s, effects)
  | .configure, .running => (c.applyConfig now).map fun c => (c, s, [])
  | .close, .running =>
    if c.closing then some ({ c with phase := .leaving .finished }, s, []) else none
  | .leave, .leaving e => some (c.leave t e s)
  | _, _ => none

end Client

end Callwire
