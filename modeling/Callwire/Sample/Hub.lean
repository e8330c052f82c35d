import Callwire.Client.Connection
import Callwire.Client.Subscribers
import Callwire.Sample.Ticker

/-!
# Listening to the sample push service

Listeners for bytes stand beside subscribers, each of which listens to every
event and hands the decoded values to its callbacks.
-/

set_option autoImplicit false

namespace Callwire.Sample

inductive Seen
  | bytes (b : Bytes)
  | value (v : Ticker.Value)
  deriving DecidableEq

inductive Listener (τ : Type)
  | plain (tag : τ) (panics : Bool)
  | subscriber (index : Nat) (event : Ticker.Event)

structure Subscriber (τ : Type) where
  tick : Subscribers Unit τ
  price : Subscribers Price τ
  blob : Subscribers Raw τ
  alarm : Subscribers Failure τ
  picky : Subscribers Picky τ

namespace Subscriber
open Ticker

variable {τ : Type}

def fresh : Subscriber τ :=
  ⟨.fresh Event.tick.name, .fresh Event.price.name, .fresh Event.blob.name,
    .fresh Event.alarm.name, .fresh Event.picky.name⟩

def subscribe (s : Subscriber τ) (e : Event) (tag : τ) : Subscriber τ :=
  match e with
  | .tick => { s with tick := s.tick.subscribe (.plain tag) }
  | .price => { s with price := s.price.subscribe (.plain tag) }
  | .blob => { s with blob := s.blob.subscribe (.plain tag) }
  | .alarm => { s with alarm := s.alarm.subscribe (.plain tag) }
  | .picky => { s with picky := s.picky.subscribe (.plain tag) }

def effects {α : Type} (wrap : α → Value) (seen : List (τ × α)) (traces : List Trace) :
    List (Effect (τ × Seen)) :=
  (seen.map fun (tag, a) => .event (tag, .value (wrap a))) ++ traces.map .trace

def publish (s : Subscriber τ) (e : Event) (payload : Bytes) :
    Subscriber τ × List (Effect (τ × Seen)) :=
  match e with
  | .tick =>
    let (x, seen, traces) := s.tick.publish payload
    ({ s with tick := x }, effects (fun _ => .tick) seen traces)
  | .price =>
    let (x, seen, traces) := s.price.publish payload
    ({ s with price := x }, effects .price seen traces)
  | .blob =>
    let (x, seen, traces) := s.blob.publish payload
    ({ s with blob := x }, effects .blob seen traces)
  | .alarm =>
    let (x, seen, traces) := s.alarm.publish payload
    ({ s with alarm := x }, effects .alarm seen traces)
  | .picky =>
    let (x, seen, traces) := s.picky.publish payload
    ({ s with picky := x }, effects .picky seen traces)

end Subscriber

structure Hub (τ : Type) where
  listeners : Listeners (Listener τ)
  subscribers : List (Subscriber τ)

namespace Hub

variable {τ : Type}

def empty : Hub τ := ⟨.empty, []⟩

def listen (h : Hub τ) (name : String) (tag : τ) (panics : Bool) : Hub τ :=
  { h with listeners := h.listeners.register name (.plain tag panics) }

def attach (h : Hub τ) : Hub τ :=
  ⟨Ticker.Event.all.foldl
      (fun l e => l.register e.name (.subscriber h.subscribers.length e)) h.listeners,
    h.subscribers ++ [.fresh]⟩

def subscribe (h : Hub τ) (e : Ticker.Event) (tag : τ) : Hub τ :=
  { h with subscribers := h.subscribers.modify (h.subscribers.length - 1) (·.subscribe e tag) }

def run (payload : Bytes) : List (Listener τ) → Hub τ → Delivery (Hub τ) (τ × Seen)
  | [], h => ⟨h, [], false⟩
  | .plain tag panics :: rest, h =>
    let seen := .event (tag, .bytes payload)
    if panics then ⟨h, [seen], true⟩
    else
      let d := run payload rest h
      { d with effects := seen :: d.effects }
  | .subscriber index e :: rest, h =>
    match h.subscribers[index]? with
    | none => run payload rest h
    | some s =>
      let (s, effects) := s.publish e payload
      let d := run payload rest { h with subscribers := h.subscribers.set index s }
      { d with effects := effects ++ d.effects }

def deliver (h : Hub τ) (p : Push) : Delivery (Hub τ) (τ × Seen) :=
  match h.listeners.of p.name with
  | [] => ⟨h, [.trace ⟨.error, "No listener for " ++ Text.quoted p.name⟩], false⟩
  | listeners => run p.payload listeners h

end Hub

end Callwire.Sample
