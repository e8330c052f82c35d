import Callwire.Payload.Codec
import Callwire.Trace

/-!
# Subscribers

The callbacks of one push event. Its payload is decoded once for all of them.
Callbacks may subscribe further ones while they run; those have to wait for the
next payload.
-/

set_option autoImplicit false

namespace Callwire

structure Registry (κ : Type) where
  event : String
  callbacks : List κ

namespace Registry

variable {κ : Type}

def fresh (event : String) : Registry κ := ⟨event, []⟩

def subscribe (r : Registry κ) (c : κ) : Registry κ :=
  { r with callbacks := r.callbacks ++ [c] }

def size (r : Registry κ) : Nat := r.callbacks.length

def isEmpty (r : Registry κ) : Bool := r.size == 0

def inspected (r : Registry κ) : String :=
  "Subscribers \x7b event: " ++ Text.quoted r.event ++ ", len: " ++ toString r.size ++ " \x7d"

end Registry

inductive Happening (κ α : Type)
  | subscribed (c : κ)
  | decoded (payload : Bytes)
  | called (c : κ) (value : α)
  | reported (trace : Trace)
  deriving DecidableEq

/-- A callback sees the registry and the world around it. It subscribes others, one after
the other, and leaves the world changed. -/
abbrev Behaviour (κ α σ : Type) := κ → α → Registry κ → σ → List κ × σ

structure Fanout (κ α σ : Type) where
  registry : Registry κ
  world : σ
  log : List (Happening κ α)

namespace Fanout

variable {κ α σ : Type}

def fresh (event : String) (world : σ) : Fanout κ α σ := ⟨.fresh event, world, []⟩

def note (s : Fanout κ α σ) (h : Happening κ α) : Fanout κ α σ := { s with log := s.log ++ [h] }

def subscribe (s : Fanout κ α σ) (c : κ) : Fanout κ α σ :=
  { s with registry := s.registry.subscribe c }.note (.subscribed c)

def call (behave : Behaviour κ α σ) (a : α) (s : Fanout κ α σ) (c : κ) : Fanout κ α σ :=
  let (others, world) := behave c a s.registry s.world
  others.foldl subscribe ({ s with world }.note (.called c a))

/-- Calls the callbacks that there are before it calls the first of them. Without callbacks
nothing is decoded. -/
def publish [Payload α] (behave : Behaviour κ α σ) (s : Fanout κ α σ) (payload : Bytes) :
    Fanout κ α σ :=
  let callbacks := s.registry.callbacks
  if callbacks.isEmpty then
    s.note (.reported ⟨.warn, "No listener for: " ++ s.registry.event⟩)
  else
    let s := s.note (.decoded payload)
    match Payload.decode payload with
    | .error e =>
      s.note (.reported
        ⟨.error, "failed to decode " ++ s.registry.event ++ ": " ++ e.message⟩)
    | .ok a => callbacks.foldl (call behave a) s

def handler [Payload α] (behave : Behaviour κ α σ) (payload : Bytes) :
    Fanout κ α σ → Fanout κ α σ :=
  fun s => s.publish behave payload

end Fanout

inductive Callback (α τ : Type)
  | mk (tag : τ) (adds : α → List (Callback α τ))

namespace Callback

variable {α τ : Type}

def tag : Callback α τ → τ
  | mk tag _ => tag

def adds : Callback α τ → α → List (Callback α τ)
  | mk _ adds => adds

def plain (tag : τ) : Callback α τ := mk tag fun _ => []

def behave : Behaviour (Callback α τ) α Unit := fun c a _ _ => (c.adds a, ())

end Callback

abbrev Subscribers (α τ : Type) := Registry (Callback α τ)

namespace Subscribers

variable {α τ : Type}

def seen? : Happening (Callback α τ) α → Option (τ × α)
  | .called c a => some (c.tag, a)
  | .subscribed _ | .decoded _ | .reported _ => none

def trace? : Happening (Callback α τ) α → Option Trace
  | .reported t => some t
  | .subscribed _ | .decoded _ | .called _ _ => none

def publish [Payload α] (s : Subscribers α τ) (payload : Bytes) :
    Subscribers α τ × List (τ × α) × List Trace :=
  let t := (Fanout.mk s () []).publish Callback.behave payload
  (t.registry, t.log.filterMap seen?, t.log.filterMap trace?)

end Subscribers

end Callwire
