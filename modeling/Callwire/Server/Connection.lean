import Callwire.Server.Dispatch
import Callwire.Server.Values
import Callwire.TaskEnd
import Callwire.Trace

/-!
# Server connections

A connection is driven by a task that hands received frames to its host in a
queue of limited length and sends the frames that were written to its socket.
While the queue is full it waits for the host and does nothing else. When it
ends by itself it first sends what was written before.

Every way in which the state can change is an action. Which of the possible
actions comes next is left open.
-/

set_option autoImplicit false

namespace Callwire

namespace Server

inductive Phase
  | running
  | leaving (e : TaskEnd)
  | flushing (e : TaskEnd)
  | ended (e : TaskEnd)
  deriving DecidableEq

def capacity : Nat := 10

end Server

structure Server (T : Type) [Universe T] where
  inbound : List Bytes
  held : Option Bytes
  outbound : List Bytes
  values : Values T
  receiving : Bool
  closing : Bool
  phase : Server.Phase

namespace Server

inductive Action
  | receive
  | deliver
  | send
  | close
  | shut
  | flush
  deriving DecidableEq, Repr

variable {T S : Type} [Universe T]

def start : Server T := ⟨[], none, [], .empty, true, false, .running⟩

def end? (c : Server T) : Option TaskEnd :=
  match c.phase with
  | .ended e => some e
  | _ => none

def isOpen (c : Server T) : Bool :=
  match c.phase with
  | .running | .leaving _ => true
  | .flushing _ | .ended _ => false

instance : Socket (Server T) where
  write c frame :=
    if c.isOpen then .ok { c with outbound := c.outbound ++ [frame] }
    else .error (.plain .notConnected)

instance : Carrier (Server T) T where
  values c := c.values
  setValues c values := { c with values }

def requestClose (c : Server T) : Server T := { c with closing := true }

def poll (c : Server T) : Server T × Poll :=
  match c.inbound with
  | frame :: rest => ({ c with inbound := rest }, .message frame)
  | [] => (c, if c.end?.isSome then .finished else .waiting)

def release (c : Server T) : Server T :=
  { c with inbound := [], receiving := false, closing := true }

def hand (c : Server T) (frame : Bytes) : Server T :=
  if !c.receiving then { c with held := none, phase := .leaving .finished }
  else if c.inbound.length < capacity then
    { c with held := none, inbound := c.inbound ++ [frame] }
  else { c with held := some frame }

def endTrace : TaskEnd → List Trace
  | .failed f => [⟨.error, "server bg_task error Io(" ++ f.inspected ++ ")"⟩]
  | _ => []

def receive (t : Terminal S) (c : Server T) (s : S) : Option (Server T × S × List Trace) :=
  match t.receive s with
  | (_, .waiting) => none
  | (s, .message frame) => some (c.hand frame, s, [])
  | (s, .finished) => some ({ c with phase := .leaving .finished }, s, [])
  | (s, .failed f) => some ({ c with phase := .leaving (.failed f) }, s, [])

def send (t : Terminal S) (c : Server T) (s : S) : Option (Server T × S × List Trace) :=
  match c.outbound with
  | [] => none
  | frame :: rest =>
    let c := { c with outbound := rest }
    match t.send s frame with
    | .ok s => some (c, s, [])
    | .error f => some ({ c with phase := .leaving (.failed f) }, s, [])

/-- Only a task that ends by itself sends the rest. -/
def shut (c : Server T) (e : TaskEnd) : Server T :=
  { c with
    outbound := if e = .finished then c.outbound else []
    phase := .flushing e }

def flush (t : Terminal S) (e : TaskEnd) (c : Server T) (s : S) : Server T × S × List Trace :=
  match c.outbound with
  | [] => ({ c with phase := .ended e }, t.detach (t.shutdown s), endTrace e)
  | frame :: rest =>
    match t.send s frame with
    | .ok s => ({ c with outbound := rest }, s, [])
    | .error f =>
      ({ c with outbound := [] }, s, [⟨.error, "failed to flush frame " ++ f.message⟩])

def act (t : Terminal S) (a : Action) (c : Server T) (s : S) :
    Option (Server T × S × List Trace) :=
  match a, c.phase, c.held with
  | .receive, .running, none => c.receive t s
  | .deliver, .running, some frame =>
    if c.receiving && capacity ≤ c.inbound.length then none else some (c.hand frame, s, [])
  | .send, .running, none => c.send t s
  | .close, .running, none =>
    if c.closing then some ({ c with phase := .leaving .finished }, s, []) else none
  | .shut, .leaving e, _ => some (c.shut e, s, [])
  | .flush, .flushing e, _ => some (c.flush t e s)
  | _, _, _ => none

end Server

end Callwire
