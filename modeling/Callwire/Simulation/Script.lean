import Callwire.Simulation.World

/-!
# Scripts

What can be done to a world step by step, and what each step lets see. After a
step everybody works until there is nothing left to do.
-/

set_option autoImplicit false

namespace Callwire.Simulation
open Sample

inductive CallSpec
  | plain (method : String) (payload : Bytes)
  | typed (q : Echo.Query)

inductive Step (τ : Type)
  | calls (l : List CallSpec)
  | cancel (caller : Nat)
  | listen (name : String) (tag : τ) (panics : Bool)
  | attach
  | subscribe (e : Ticker.Event) (tag : τ)
  | configure (timeout : Option Nat)
  | clientTask (t : Task)
  | dropClient
  | serverTask (t : Task)
  | dropServer
  | receive
  | receiveDispatch
  | write (b : Bytes)
  | emit (v : Ticker.Value)
  | pushBytes (name : String) (payload : Bytes)
  | set (key : String) (v : Stored ValueType)
  | get (key : String) (t : ValueType)
  | take (key : String) (t : ValueType)
  | feed (b : Bytes)
  | peerShutdown
  | peerDrop
  | advance (ms times : Nat)

inductive StepResult
  | done
  | gone
  | noPeer
  | null
  | pending
  | finished
  | fault (f : TransportFault)
  | frame (b : Bytes)
  | outcome (o : Outcome)
  | found (v : Option (Stored ValueType))

inductive CallReply
  | bytes (b : Bytes)
  | typed (r : Echo.Reply)
  deriving DecidableEq

structure Report (τ : Type) where
  result : StepResult
  sent : List Bytes
  peerEnded : Bool
  results : List (Nat × Except RequestError CallReply)
  events : List (τ × Seen)
  ended : List (Task × TaskResult)
  log : List String
  traces : List Trace

namespace World

variable {τ : Type}

def refuse (w : World τ) (caller : Nat) (e : CodecError) : World τ :=
  w.absorb [.finish caller (.error (.codec e))]

def submit (w : World τ) (caller : Nat) (method : String) (payload : Bytes) : World τ :=
  match w.client with
  | none => w
  | some c =>
    let (c, effects) := c.submit ⟨caller, method, payload, false⟩
    absorb { w with client := some c } effects

def call (w : World τ) (spec : CallSpec) : World τ :=
  let caller := w.methods.length
  match spec with
  | .plain method payload =>
    submit { w with methods := w.methods ++ [none] } caller method payload
  | .typed q =>
    let w := { w with methods := w.methods ++ [some q.method] }
    match q.encode with
    | .error e => w.refuse caller e
    | .ok payload => w.submit caller q.method.name payload

def onClient (w : World τ) (f : Client (Hub τ) → Client (Hub τ)) : World τ :=
  { w with client := w.client.map f }

def onHub (w : World τ) (f : Hub τ → Hub τ) : World τ :=
  w.onClient fun c => { c with hub := f c.hub }

def onServer (w : World τ) (f : Server ValueType → Server ValueType) : World τ :=
  { w with server := w.server.map f }

def clientTask (w : World τ) (t : Task) : World τ × StepResult :=
  if w.hasClient then
    let w := { w with hasClient := false, tasks := w.tasks ++ [t] }
    (if t = .closeClient then w.onClient (·.requestClose) else w, .done)
  else (w, .gone)

def serverTask (w : World τ) (t : Task) : World τ × StepResult :=
  if w.hasServer then
    let w := { w with hasServer := false, tasks := w.tasks ++ [t] }
    (if t = .closeServer then w.onServer (·.requestClose) else w, .done)
  else (w, .gone)

def receive (w : World τ) (dispatching : Bool) : World τ × StepResult :=
  match w.hasServer, w.server with
  | true, some c =>
    match c.poll with
    | (c, .message frame) =>
      if dispatching then
        let (w, o) := w.withHost c fun h => h.dispatch Echo.service frame
        (w, .outcome o)
      else ({ w with server := some c }, .frame frame)
    | (_, .finished) => (w, .finished)
    | _ => (w, .pending)
  | _, _ => (w, .gone)

def onHost (w : World τ)
    (f : Host Echo (Server ValueType) RecordingLogger →
      Host Echo (Server ValueType) RecordingLogger) : World τ × StepResult :=
  match w.server with
  | none => (w, .gone)
  | some c => ((w.withHost c fun h => (f h, ())).1, .done)

def onLink (w : World τ) (r : Except TransportFault Link) : World τ × StepResult :=
  match r with
  | .ok link => ({ w with link }, .done)
  | .error f => (w, .fault f)

def write (w : World τ) (b : Bytes) : World τ × StepResult :=
  match w.server with
  | none => (w, .gone)
  | some c =>
    match Socket.write c b with
    | .ok c => ({ w with server := some c }, .done)
    | .error f => (w, .fault f)

def withPeer (w : World τ) (f : Side → World τ × StepResult) : World τ × StepResult :=
  match w.peer with
  | none => (w, .noPeer)
  | some s => f s

def stored (t : ValueType) (v : Option (Universe.type t)) : Option (Stored ValueType) :=
  v.map fun x => ⟨t, x⟩

def begin (w : World τ) : Step τ → World τ × StepResult
  | .calls l => (l.foldl call w, .done)
  | .cancel caller => (w.onClient (·.abandon caller), .done)
  | .listen name tag panics => (w.onHub (·.listen name tag panics), .done)
  | .attach => (w.onHub (·.attach), .done)
  | .subscribe e tag => (w.onHub (·.subscribe e tag), .done)
  | .configure timeout =>
    if w.hasClient then (w.onClient (·.configure timeout), .done) else (w, .gone)
  | .clientTask t => w.clientTask t
  | .dropClient =>
    if w.hasClient then ({ w.onClient (·.requestClose) with hasClient := false }, .done)
    else (w, .done)
  | .serverTask t => w.serverTask t
  | .dropServer =>
    if w.hasServer then ({ w.onServer (·.release) with hasServer := false }, .done)
    else (w, .done)
  | .receive => w.receive false
  | .receiveDispatch => w.receive true
  | .write b => w.write b
  | .emit v => w.onHost fun h => Ticker.emit h v
  | .pushBytes name payload => w.onHost fun h => h.pushBytes name payload
  | .set key v => (w.onServer fun c => Carrier.set c key v.code v.value, .null)
  | .get key t => (w, .found (w.server.bind fun c => stored t (Carrier.get c key t)))
  | .take key t =>
    match w.server with
    | none => (w, .found none)
    | some c =>
      let (c, v) := Carrier.take c key t
      ({ w with server := some c }, .found (stored t v))
  | .feed b => w.withPeer fun s => w.onLink (Link.feed s w.link b)
  | .peerShutdown => w.withPeer fun s => ({ w with link := Link.shutdown s w.link }, .done)
  | .peerDrop =>
    w.withPeer fun s => ({ w with link := Link.detach s w.link, peer := none }, .done)
  | .advance _ _ => (w, .done)

def advance (ms : Nat) : Nat → World τ → World τ
  | 0, w => w
  | times + 1, w => advance ms times (settle { w with now := w.now + Instant.ofMillis ms })

def look (w : World τ) : World τ × List Bytes :=
  match w.peer with
  | none => ({ w with peerEnded := false }, [])
  | some s =>
    let (link, sent) := Link.drain s w.link
    ({ w with link, peerEnded := w.peerEnded || Link.isEnded s link }, sent)

def callReply (w : World τ) (caller : Nat) (r : CallResult) : Except RequestError CallReply :=
  match w.methods[caller]? with
  | some (some m) => (Echo.typedResult m r).map .typed
  | _ => r.map .bytes

def report (w : World τ) (result : StepResult) : World τ × Report τ :=
  let (w, sent) := w.look
  let ended := w.tasks.filterMap fun t => (w.taskResult? t).map fun r => (t, r)
  let results := (w.sight.results.mergeSort fun x y => x.1 ≤ y.1).map fun (caller, r) =>
    (caller, w.callReply caller r)
  ({ w with tasks := w.tasks.filter fun t => (w.taskResult? t).isNone, sight := .empty },
    ⟨result, sent, w.peerEnded, results, w.sight.events, ended, w.sight.log,
      Trace.sorted w.sight.traces⟩)

def step (w : World τ) (s : Step τ) : World τ × Report τ :=
  let (w, result) := w.begin s
  let w := match s with
    | .advance ms times => advance ms times w
    | _ => w
  w.settle.report result

def run (w : World τ) : List (Step τ) → List (Report τ)
  | [] => []
  | s :: rest =>
    let (w, r) := w.step s
    r :: run w rest

def play (mode : Mode) (link : Link) (timeout : Option Nat) (script : List (Step τ)) :
    List (Report τ) :=
  run (settle (start mode link timeout)) script

end World

end Callwire.Simulation
