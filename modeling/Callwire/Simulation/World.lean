import Callwire.Sample.EchoClient
import Callwire.Sample.Hub
import Callwire.Server.Connection
import Callwire.Server.Recording
import Callwire.Transport.Link

/-!
# Simulated worlds

A client connection, a server connection, or both linked with each other, on a
clock that only moves when it is told to. Where one of them is missing, a peer
sits at the other end of the link and sees what arrives there.
-/

set_option autoImplicit false

namespace Callwire.Simulation
open Sample

inductive ValueType
  | u32
  | i64
  | bool
  | text
  deriving DecidableEq, Repr

@[reducible] def ValueType.type : ValueType → Type
  | u32 => UInt32
  | i64 => Int64
  | bool => Bool
  | text => String

instance : Universe ValueType := ⟨ValueType.type⟩

inductive Task
  | closeClient
  | waitClient
  | closeServer
  | waitServer
  | serve (closing : Bool)
  deriving DecidableEq, Repr

def Task.name : Task → String
  | closeClient => "close_client"
  | waitClient => "wait_client"
  | closeServer => "close_server"
  | waitServer => "wait_server"
  | serve _ => "serve"

inductive TaskResult
  | plain (e : TaskEnd)
  | served (calls : Nat) (e : TaskEnd)
  deriving DecidableEq, Repr

structure Sight (τ : Type) where
  results : List (Nat × CallResult)
  events : List (τ × Seen)
  log : List String
  traces : List Trace

def Sight.empty {τ : Type} : Sight τ := ⟨[], [], [], []⟩

structure World (τ : Type) where
  now : Instant
  link : Link
  client : Option (Client (Hub τ))
  server : Option (Server ValueType)
  hasClient : Bool
  hasServer : Bool
  peer : Option Side
  peerEnded : Bool
  tasks : List Task
  echo : Echo
  methods : List (Option Echo.Method)
  sight : Sight τ

def clientSide : Side := .a

def serverSide : Side := .b

inductive Mode
  | client
  | server
  | link
  deriving DecidableEq, Repr

namespace World

variable {τ : Type}

def start (mode : Mode) (link : Link) (timeout : Option Nat) : World τ where
  now := 0
  link := link
  client := if mode = .server then none else some (.start .empty 0 timeout)
  server := if mode = .client then none else some .start
  hasClient := mode ≠ .server
  hasServer := mode ≠ .client
  peer := match mode with
    | .client => some serverSide
    | .server => some clientSide
    | .link => none
  peerEnded := false
  tasks := []
  echo := ⟨0⟩
  methods := []
  sight := .empty

def trace (w : World τ) (t : List Trace) : World τ :=
  { w with sight := { w.sight with traces := w.sight.traces ++ t } }

def absorb (w : World τ) : List (Effect (τ × Seen)) → World τ
  | [] => w
  | .finish caller r :: rest =>
    absorb { w with sight := { w.sight with results := w.sight.results ++ [(caller, r)] } } rest
  | .trace t :: rest => absorb (w.trace [t]) rest
  | .event e :: rest =>
    absorb { w with sight := { w.sight with events := w.sight.events ++ [e] } } rest

def withHost {α : Type} (w : World τ) (c : Server ValueType)
    (f : Host Echo (Server ValueType) RecordingLogger →
      Host Echo (Server ValueType) RecordingLogger × α) : World τ × α :=
  let (h, a) := f ⟨w.echo, c, ⟨w.sight.log⟩⟩
  ({ w with
      echo := h.service, server := some h.socket
      sight := { w.sight with log := h.logger.lines } }, a)

def clientAct (w : World τ) (a : Client.Action) : Option (World τ) := do
  let c ← w.client
  let (c, link, effects) ← c.act (Link.terminal clientSide) Hub.deliver w.now a w.link
  return absorb { w with client := some c, link } effects

def serverAct (w : World τ) (a : Server.Action) : Option (World τ) := do
  let c ← w.server
  let (c, link, traces) ← c.act (Link.terminal serverSide) a w.link
  return trace { w with server := some c, link } traces

def isServing (w : World τ) : Bool :=
  w.tasks.any fun
    | .serve _ => true
    | _ => false

def serveAct (w : World τ) : Option (World τ) := do
  if !w.isServing then none
  let c ← w.server
  match c.poll with
  | (c, .message frame) =>
    let (w, outcome) := w.withHost c fun h => h.dispatch Echo.service frame
    match outcome with
    | .malformed e => some (w.trace [⟨.warn, "dropped malformed frame " ++ e.message⟩])
    | _ => some w
  | _ => none

/-! ## Scheduling

Everybody works as long as there is something to do and then passes on. -/

inductive Worker
  | callers
  | client
  | server
  | host
  deriving DecidableEq, Repr

def Worker.next : Worker → Worker
  | callers => client
  | client => server
  | server => host
  | host => callers

def work (w : World τ) : Worker → Option (World τ)
  | .callers => w.clientAct .enqueue
  | .client =>
    [.receive, .take, .sweep, .configure, .close, .leave].findSome? w.clientAct
  | .server => [.receive, .deliver, .send, .close, .shut, .flush].findSome? w.serverAct
  | .host => w.serveAct

def settleFrom : Nat → Nat → Worker → World τ → World τ
  | 0, _, _, w => w
  | fuel + 1, idle, worker, w =>
    match w.work worker with
    | some w => settleFrom fuel 0 worker w
    | none => if 3 ≤ idle then w else settleFrom fuel (idle + 1) worker.next w

/-- A bound on the work there is: what is on its way or queued, and a little for
timers and for tasks that end. -/
def load (w : World τ) : Nat :=
  let client := match w.client with
    | some c => c.queue.length + c.blocked.length
    | none => 0
  let server := match w.server with
    | some c => c.inbound.length + c.outbound.length
    | none => 0
  w.link.size + client + server + 16

def settle (w : World τ) : World τ := settleFrom (64 * w.load) 0 .callers w

def taskResult? (w : World τ) (t : Task) : Option TaskResult :=
  match t with
  | .closeClient | .waitClient => (w.client.bind (·.end?)).map .plain
  | .closeServer | .waitServer => (w.server.bind (·.end?)).map .plain
  | .serve _ =>
    match w.server with
    | none => none
    | some c => if c.inbound.isEmpty then c.end?.map (.served w.echo.calls) else none

end World

end Callwire.Simulation
