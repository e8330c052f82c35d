import Callwire.Proofs.Push.Meanwhile
import Callwire.Proofs.Server.Sending

/-!
# Broadcasting over linked connections

A server emits events and answers requests, and the callbacks of a client are called for
what comes. Callers, listeners, both tasks, the host and the clock move in any order, and
callbacks register more of them while others run. Histories tell what was registered,
written, processed and called.
-/

set_option autoImplicit false

namespace Callwire.Sample
open Ticker

inductive Emission
  | event (v : Value)
  | raw (name : String) (payload : Bytes)
  deriving DecidableEq

namespace Emission

def push? : Emission → Option Push
  | event v =>
    match v.encode with
    | .ok bytes => some ⟨v.event.name, bytes⟩
    | .error _ => none
  | raw name payload => some ⟨name, payload⟩

def frame? (e : Emission) : Option Bytes := e.push?.bind fun p => p.encode.toOption

def apply {σ S L : Type} [Socket S] [Logger L] (h : Host σ S L) : Emission → Host σ S L
  | event v => Ticker.emit h v
  | raw name payload => h.pushBytes name payload

end Emission

inductive Source
  | emitted (e : Emission)
  | answered

structure Written where
  frame : Bytes
  source : Source

structure Processed (τ : Type) where
  frame : Bytes
  before : List (Registration τ)
  during : List (Registration τ)
  calls : List (τ × Seen)

structure Broadcast (T σ L M τ : Type) [Universe T] where
  session : Session Link T σ (Hub τ) L M
  registered : List (Registration τ)
  written : List Written
  processed : List (Processed τ)
  heard : List (τ × Seen)

namespace Broadcast

inductive Aside
  | call (name : String) (payload : Bytes)
  | giveUp (caller : Nat)
  | configure (timeout : Option Nat)
  | closeClient
  | closeServer
  | release
  | server (a : Server.Action)
  | pass (time : Nat)

def Aside.move {H : Type} : Aside → Session.Move H
  | call name payload => .call name payload
  | giveUp caller => .giveUp caller
  | configure timeout => .configure timeout
  | closeClient => .closeClient
  | closeServer => .closeServer
  | release => .release
  | server a => .server a
  | pass time => .pass time

inductive Move (τ : Type)
  | register (r : Registration τ)
  | emit (e : Emission)
  | serve
  | client (a : Client.Action) (amid : List (List (Registration τ)))
  | aside (m : Aside)

variable {T σ L M τ : Type} [Universe T]

def setup (service : CallService σ M) (amid : List (List (Registration τ))) :
    Setup Link (Hub τ) (τ × Seen) σ M :=
  ⟨Link.terminal, Hub.deliverAmid amid, Hub.deliverAmid_quiet amid, service⟩

def start (link : Link) (timeout : Option Nat) (state : σ) (logger : L) :
    Broadcast T σ L M τ :=
  ⟨Session.start link .empty timeout state logger, [], [], [], []⟩

def write (s : Broadcast T σ L M τ) (next : Session Link T σ (Hub τ) L M) (source : Source) :
    Broadcast T σ L M τ :=
  { s with
    session := next
    written := s.written ++
      (next.host.socket.outbound.drop s.session.host.socket.outbound.length).map (⟨·, source⟩) }

def seen (u : Setup Link (Hub τ) (τ × Seen) σ M) (s : Session Link T σ (Hub τ) L M)
    (a : Client.Action) : List (τ × Seen) :=
  match s.client.act (u.ends .a).recording u.deliver s.now a (s.link, s.sent) with
  | some (_, _, effects) => events effects
  | none => []

def clientAct (service : CallService σ M) (s : Broadcast T σ L M τ) (a : Client.Action)
    (amid : List (List (Registration τ))) : Option (Broadcast T σ L M τ) :=
  let calls := seen (setup service amid) s.session a
  let arrival := Client.arrival (Link.terminal .a) s.session.link a
  let during := if (arrival.bind Push.read?).isSome then amid.flatten else []
  (s.session.clientAct (setup service amid) a).map fun session =>
    { s with
      session
      registered := s.registered ++ during
      processed := s.processed ++ arrival.toList.map (⟨·, s.registered, during, calls⟩)
      heard := s.heard ++ calls }

variable [Logger L]

def step (service : CallService σ M) (s : Broadcast T σ L M τ) :
    Move τ → Option (Broadcast T σ L M τ)
  | .register r =>
    if Registrations.orderly 0 (s.registered ++ [r]) then
      let client := { s.session.client with hub := r.apply s.session.client.hub }
      some { s with session := { s.session with client }, registered := s.registered ++ [r] }
    else none
  | .emit e => some (s.write { s.session with host := e.apply s.session.host } (.emitted e))
  | .serve => (s.session.serve (setup service [])).map (s.write · .answered)
  | .client a amid =>
    if Registrations.orderly 0 (s.registered ++ amid.flatten) then s.clientAct service a amid
    else none
  | .aside m => (s.session.step (setup service []) m.move).map fun session => { s with session }

def run (service : CallService σ M) (s : Broadcast T σ L M τ) :
    List (Move τ) → Broadcast T σ L M τ
  | [] => s
  | move :: moves => run service ((s.step service move).getD s) moves

end Broadcast

/-! ## Emissions -/

section
variable {σ S L : Type} [Socket S] [Logger L]

theorem Ticker.emit_eq (h : Host σ S L) (v : Value) : Ticker.emit h v =
    match v.encode with
    | .ok bytes => h.pushBytes v.event.name bytes
    | .error e =>
      h.note ("Error in " ++ serviceName ++ "." ++ v.event.name ++ ": " ++ e.message) := by
  cases v <;> rfl

/-- What cannot be encoded or framed is noted, and that is all. -/
theorem Emission.apply_refused {e : Emission} (he : e.frame? = none) (h : Host σ S L) :
    ∃ line, e.apply h = h.note line := by
  have hpush (name : String) (payload : Bytes)
      (hp : ((⟨name, payload⟩ : Push).encode).toOption = none) :
      ∃ line, h.pushBytes name payload = h.note line := by
    unfold Host.pushBytes
    cases hf : (⟨name, payload⟩ : Push).encode with
    | error e => exact ⟨_, rfl⟩
    | ok frame =>
      rw [hf] at hp
      cases hp
  cases e with
  | event v =>
    simp only [apply, Ticker.emit_eq]
    simp only [frame?, push?] at he
    cases hv : v.encode with
    | error e => exact ⟨_, rfl⟩
    | ok bytes =>
      rw [hv] at he
      exact hpush _ _ he
  | raw name payload => exact hpush name payload he

end

end Callwire.Sample
