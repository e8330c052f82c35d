import Callwire.Client.Connection
import Callwire.Proofs.Server.Executions
import Callwire.Transport.Link

/-!
# Linked connections

A client connection and the server connection at the other end of its link, with
a host that serves frames one after the other. Callers, both tasks, the host and
the clock move in any order. Histories record what happened; nothing depends on
them.
-/

set_option autoImplicit false

namespace Callwire

def Terminal.recording {S : Type} (t : Terminal S) : Terminal (S × List Bytes) where
  send s m := (t.send s.1 m).map fun l => (l, s.2 ++ [m])
  receive s := (((t.receive s.1).1, s.2), (t.receive s.1).2)
  shutdown s := (t.shutdown s.1, s.2)
  detach s := (t.detach s.1, s.2)

section

variable {S H T ε : Type} [Universe T] (t : Terminal S) (l : S) (sent : List Bytes)

theorem Client.receive_recording (deliver : H → Push → Delivery H ε) (c : Client H) :
    (c.receive t.recording deliver (l, sent)).map (fun r => (r.1, r.2.1.1, r.2.2)) =
      c.receive t deliver l := by
  unfold Client.receive
  rcases hr : t.receive l with ⟨k, r⟩
  have hrec : t.recording.receive (l, sent) = ((k, sent), r) := by
    show (((t.receive l).1, sent), (t.receive l).2) = ((k, sent), r)
    rw [hr]
  cases r <;> simp only [hrec, Option.map_some, Option.map_none]

theorem Client.take_recording (now : Instant) (c : Client H) :
    (c.take (ε := ε) t.recording now (l, sent)).map (fun r => (r.1, r.2.1.1, r.2.2)) =
      c.take t now l := by
  unfold Client.take
  cases hq : c.queue with
  | nil => rfl
  | cons call rest =>
    rcases ho : c.calls.outbound (ε := ε) now call with ⟨calls, _ | frame | _, es⟩
    · simp only [ho, Option.map_some]
    · have hrec : t.recording.send (l, sent) frame =
        (t.send l frame).map fun k => (k, sent ++ [frame]) := rfl
      cases hs : t.send l frame <;> simp only [ho, hrec, hs, Except.map, Option.map_some]
    · simp only [ho, Option.map_some]

theorem Client.leave_recording (e : TaskEnd) (c : Client H) :
    ((c.leave (ε := ε) t.recording e (l, sent)).1, (c.leave (ε := ε) t.recording e (l, sent)).2.1.1,
      (c.leave (ε := ε) t.recording e (l, sent)).2.2) = c.leave t e l := by
  unfold Client.leave
  by_cases he : e = .panicked <;> simp only [he, if_true, if_false] <;> rfl

/-- What is recorded has no part in what the client does. -/
theorem Client.act_recording (deliver : H → Push → Delivery H ε) (now : Instant)
    (a : Client.Action) (c : Client H) :
    (c.act t.recording deliver now a (l, sent)).map (fun r => (r.1, r.2.1.1, r.2.2)) =
      c.act t deliver now a l := by
  unfold Client.act
  cases hp : c.phase with
  | running =>
    cases a with
    | enqueue => simp only [Option.map_map]; rfl
    | receive => exact c.receive_recording t l sent deliver
    | take => exact c.take_recording t l sent now
    | sweep => simp only [Option.map_map]; rfl
    | configure => simp only [Option.map_map]; rfl
    | close => dsimp only; split_ifs <;> rfl
    | leave => rfl
  | leaving e =>
    cases a with
    | enqueue => simp only [Option.map_map]; rfl
    | leave => exact congrArg some (c.leave_recording t l sent e)
    | receive | take | sweep | configure | close => rfl
  | ended e =>
    cases a with
    | enqueue => simp only [Option.map_map]; rfl
    | receive | take | sweep | configure | close | leave => rfl

theorem Server.receive_recording (c : Server T) :
    (c.receive t.recording (l, sent)).map (fun r => (r.1, r.2.1.1, r.2.2)) = c.receive t l := by
  unfold Server.receive
  rcases hr : t.receive l with ⟨k, r⟩
  have hrec : t.recording.receive (l, sent) = ((k, sent), r) := by
    show (((t.receive l).1, sent), (t.receive l).2) = ((k, sent), r)
    rw [hr]
  cases r <;> simp only [hrec, Option.map_some, Option.map_none]

theorem Server.send_recording (c : Server T) :
    (c.send t.recording (l, sent)).map (fun r => (r.1, r.2.1.1, r.2.2)) = c.send t l := by
  unfold Server.send
  cases c.outbound with
  | nil => rfl
  | cons frame rest =>
    have hrec : t.recording.send (l, sent) frame =
      (t.send l frame).map fun k => (k, sent ++ [frame]) := rfl
    cases hs : t.send l frame <;> simp only [hrec, hs, Except.map, Option.map_some]

theorem Server.flush_recording (e : TaskEnd) (c : Server T) :
    ((c.flush t.recording e (l, sent)).1, (c.flush t.recording e (l, sent)).2.1.1,
      (c.flush t.recording e (l, sent)).2.2) = c.flush t e l := by
  unfold Server.flush
  cases c.outbound with
  | nil => rfl
  | cons frame rest =>
    have hrec : t.recording.send (l, sent) frame =
      (t.send l frame).map fun k => (k, sent ++ [frame]) := rfl
    cases hs : t.send l frame <;> simp only [hrec, hs, Except.map]

/-- Nor has it a part in what the server does. -/
theorem Server.act_recording (a : Server.Action) (c : Server T) :
    (c.act t.recording a (l, sent)).map (fun r => (r.1, r.2.1.1, r.2.2)) = c.act t a l := by
  unfold Server.act
  cases hp : c.phase with
  | running =>
    cases hh : c.held with
    | none =>
      cases a with
      | receive => exact c.receive_recording t l sent
      | send => exact c.send_recording t l sent
      | close => dsimp only; split_ifs <;> rfl
      | deliver | shut | flush => rfl
    | some frame =>
      cases a with
      | deliver => dsimp only; split_ifs <;> rfl
      | receive | send | close | shut | flush => rfl
  | leaving e =>
    cases a with
    | receive | deliver | send | close | shut | flush => cases c.held <;> rfl
  | flushing e =>
    cases a with
    | flush =>
      cases c.held <;> exact congrArg some (c.flush_recording t l sent e)
    | receive | deliver | send | close | shut => cases c.held <;> rfl
  | ended e =>
    cases a with
    | receive | deliver | send | close | shut | flush => cases c.held <;> rfl

end

def Effect.finish? {ε : Type} : Effect ε → Option (Nat × CallResult)
  | .finish caller r => some (caller, r)
  | .trace _ | .event _ => none

def finished {ε : Type} (l : List (Effect ε)) : List (Nat × CallResult) :=
  l.filterMap Effect.finish?

theorem mem_finished {ε : Type} {l : List (Effect ε)} {caller : Nat} {r : CallResult} :
    (caller, r) ∈ finished l ↔ .finish caller r ∈ l := by
  rw [finished, List.mem_filterMap]
  constructor
  · rintro ⟨e, he, h⟩
    cases e with
    | finish c q =>
      cases h
      exact he
    | trace t => cases h
    | event e => cases h
  · intro h
    exact ⟨_, h, rfl⟩

structure Setup (S H ε σ M : Type) where
  ends : Side → Terminal S
  deliver : H → Push → Delivery H ε
  quiet : ∀ hub p caller r, .finish caller r ∉ (deliver hub p).effects
  service : CallService σ M

structure Session (S T σ H L M : Type) [Universe T] where
  now : Instant
  link : S
  client : Client H
  host : Host σ (Server T) L
  asked : List (String × Bytes)
  taken : List Call
  sent : List Bytes
  answered : List Bytes
  dispatched : List (Dispatched M)
  results : List (Nat × CallResult)

namespace Session

inductive Move (H : Type)
  | call (name : String) (payload : Bytes)
  | giveUp (caller : Nat)
  | listen (f : H → H)
  | configure (timeout : Option Nat)
  | closeClient
  | client (a : Client.Action)
  | serve
  | push (name : String) (payload : Bytes)
  | closeServer
  | release
  | server (a : Server.Action)
  | pass (time : Nat)

variable {S T σ H L M ε : Type} [Universe T]

def start (link : S) (hub : H) (timeout : Option Nat) (state : σ) (logger : L) :
    Session S T σ H L M :=
  ⟨0, link, .start hub 0 timeout, ⟨state, .start, logger⟩, [], [], [], [], [], []⟩

def call (s : Session S T σ H L M) (name : String) (payload : Bytes) : Session S T σ H L M :=
  let r := s.client.submit (ε := Empty) ⟨s.asked.length, name, payload, false⟩
  { s with
    client := r.1
    asked := s.asked ++ [(name, payload)]
    results := s.results ++ finished r.2 }

def clientAct (u : Setup S H ε σ M) (s : Session S T σ H L M) (a : Client.Action) :
    Option (Session S T σ H L M) :=
  (s.client.act (u.ends .a).recording u.deliver s.now a (s.link, s.sent)).map fun r =>
    { s with
      client := r.1
      link := r.2.1.1
      sent := r.2.1.2
      taken := s.taken ++ if a = .take then s.client.queue.head?.toList else []
      results := s.results ++ finished r.2.2 }

def serverAct (u : Setup S H ε σ M) (s : Session S T σ H L M) (a : Server.Action) :
    Option (Session S T σ H L M) :=
  (s.host.socket.act (u.ends .b).recording a (s.link, s.answered)).map fun r =>
    { s with
      host := { s.host with socket := r.1 }
      link := r.2.1.1
      answered := r.2.1.2 }

variable [Logger L]

def serve (u : Setup S H ε σ M) (s : Session S T σ H L M) : Option (Session S T σ H L M) :=
  match s.host.socket.poll with
  | (socket, .message frame) =>
    let r := ({ s.host with socket } : Host σ (Server T) L).serve u.service frame
    some { s with host := r.1, dispatched := s.dispatched ++ [r.2] }
  | _ => none

def step (u : Setup S H ε σ M) (s : Session S T σ H L M) :
    Move H → Option (Session S T σ H L M)
  | .call name payload => some (s.call name payload)
  | .giveUp caller => some { s with client := s.client.abandon caller }
  | .listen f => some { s with client := { s.client with hub := f s.client.hub } }
  | .configure timeout => some { s with client := s.client.configure timeout }
  | .closeClient => some { s with client := s.client.requestClose }
  | .client a => s.clientAct u a
  | .serve => s.serve u
  | .push name payload => some { s with host := s.host.pushBytes name payload }
  | .closeServer => some { s with host := { s.host with socket := s.host.socket.requestClose } }
  | .release => some { s with host := { s.host with socket := s.host.socket.release } }
  | .server a => s.serverAct u a
  | .pass time => some { s with now := s.now + time }

def run (u : Setup S H ε σ M) (s : Session S T σ H L M) : List (Move H) → Session S T σ H L M
  | [] => s
  | move :: moves => run u ((s.step u move).getD s) moves

end Session

end Callwire
