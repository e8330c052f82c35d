import Callwire.Client.Connection
import Mathlib.Tactic

/-!
# Changes of a client

Everything an action of the task of a client connection can come to, one case for
each way it may go.
-/

set_option autoImplicit false

namespace Callwire.Client

variable {H S ε : Type}

inductive Change (t : Terminal S) (deliver : H → Push → Delivery H ε) (now : Instant)
    (c : Client H) (l : S) : Action → Client H → S → List (Effect ε) → Prop
  | queued {call : Call} {rest : List Call} : c.blocked = call :: rest →
      (∀ e, c.phase ≠ .ended e) → c.queue.length < capacity →
      Change t deliver now c l .enqueue
        { c with blocked := rest, queue := c.queue ++ [call] } l []
  | refused {call : Call} {rest : List Call} {e : TaskEnd} : c.blocked = call :: rest →
      c.phase = .ended e → Change t deliver now c l .enqueue { c with blocked := rest } l
        (reply call.caller call.abandoned (.error .alreadyClosed))
  | received {l' : S} {frame : Bytes} : c.phase = .running →
      t.receive l = (l', .message frame) → Change t deliver now c l .receive
        (c.inbound deliver frame).1 l' (c.inbound deliver frame).2
  | exhausted {l' : S} : c.phase = .running → t.receive l = (l', .finished) →
      Change t deliver now c l .receive { c with phase := .leaving .finished } l' []
  | broken {l' : S} {f : TransportFault} : c.phase = .running → t.receive l = (l', .failed f) →
      Change t deliver now c l .receive { c with phase := .leaving (.failed f) } l' []
  | declined {call : Call} {rest : List Call} {calls : Calls} {effects : List (Effect ε)} :
      c.phase = .running → c.queue = call :: rest →
      c.calls.outbound now call = (calls, .declined, effects) →
      Change t deliver now c l .take { c with calls, queue := rest } l effects
  | sent {call : Call} {rest : List Call} {calls : Calls} {effects : List (Effect ε)}
      {frame : Bytes} {l' : S} : c.phase = .running → c.queue = call :: rest →
      c.calls.outbound now call = (calls, .framed frame, effects) → t.send l frame = .ok l' →
      Change t deliver now c l .take { c with calls, queue := rest } l' effects
  | unsent {call : Call} {rest : List Call} {calls : Calls} {effects : List (Effect ε)}
      {frame : Bytes} {f : TransportFault} : c.phase = .running → c.queue = call :: rest →
      c.calls.outbound now call = (calls, .framed frame, effects) → t.send l frame = .error f →
      Change t deliver now c l .take
        { c with calls, queue := rest, phase := .leaving (.failed f) } l effects
  | panicked {call : Call} {rest : List Call} {calls : Calls} {effects : List (Effect ε)} :
      c.phase = .running → c.queue = call :: rest →
      c.calls.outbound now call = (calls, .panicked, effects) →
      Change t deliver now c l .take
        { c with calls, queue := rest, phase := .leaving .panicked } l effects
  | swept : c.phase = .running → c.sweep.due ≤ now → Change t deliver now c l .sweep
      { c with calls := (c.calls.expire (ε := ε) c.sweep.due).1, sweep := c.sweep.next now } l
      (c.calls.expire c.sweep.due).2
  | configured {timeout : Option Nat} : c.phase = .running → c.config = some timeout →
      Change t deliver now c l .configure
        { c with calls := c.calls.setTimeout timeout, config := none, sweep := .start now timeout }
        l []
  | told : c.phase = .running → c.closing = true →
      Change t deliver now c l .close { c with phase := .leaving .finished } l []
  | left {e : TaskEnd} : c.phase = .leaving e → Change t deliver now c l .leave
      (c.leave (ε := ε) t e l).1 (c.leave (ε := ε) t e l).2.1 (c.leave t e l).2.2

section
variable {t : Terminal S} {deliver : H → Push → Delivery H ε} {now : Instant}
  {c c' : Client H} {l l' : S} {effects : List (Effect ε)}

theorem change_of_enqueue (h : c.enqueue = some (c', effects)) :
    Change t deliver now c l .enqueue c' l effects := by
  unfold enqueue at h
  cases hb : c.blocked with
  | nil =>
    rw [hb] at h
    cases h
  | cons call rest =>
    simp only [hb] at h
    cases hp : c.phase with
    | ended e =>
      simp only [hp] at h
      cases h
      exact hp ▸ .refused hb hp
    | running =>
      simp only [hp] at h
      split_ifs at h with hlt
      cases h
      exact hp ▸ .queued hb (by simp [hp]) hlt
    | leaving e =>
      simp only [hp] at h
      split_ifs at h with hlt
      cases h
      exact hp ▸ .queued hb (by simp [hp]) hlt

theorem change_of_receive (hp : c.phase = .running)
    (h : c.receive t deliver l = some (c', l', effects)) :
    Change t deliver now c l .receive c' l' effects := by
  unfold receive at h
  rcases hr : t.receive l with ⟨k, r⟩
  rw [hr] at h
  cases r with
  | waiting => cases h
  | message frame =>
    cases h
    exact .received hp hr
  | finished =>
    cases h
    exact .exhausted hp hr
  | failed f =>
    cases h
    exact .broken hp hr

theorem change_of_take (hp : c.phase = .running) (h : c.take t now l = some (c', l', effects)) :
    Change t deliver now c l .take c' l' effects := by
  unfold take at h
  cases hq : c.queue with
  | nil =>
    rw [hq] at h
    cases h
  | cons call rest =>
    rcases ho : c.calls.outbound (ε := ε) now call with ⟨calls, _ | frame | _, es⟩
    · simp only [hq, ho] at h
      cases h
      exact .declined hp hq ho
    · simp only [hq, ho] at h
      cases hs : t.send l frame with
      | ok k =>
        rw [hs] at h
        cases h
        exact .sent hp hq ho hs
      | error f =>
        rw [hs] at h
        cases h
        exact .unsent hp hq ho hs
    · simp only [hq, ho] at h
      cases h
      exact .panicked hp hq ho

theorem change_of_runSweep (hp : c.phase = .running) (h : c.runSweep now = some (c', effects)) :
    Change t deliver now c l .sweep c' l effects := by
  unfold runSweep at h
  split_ifs at h with hdue
  cases h
  exact .swept hp hdue

theorem change_of_applyConfig (hp : c.phase = .running) (h : c.applyConfig now = some c') :
    Change t deliver now c l .configure c' l [] := by
  unfold applyConfig at h
  obtain ⟨timeout, hc, rfl⟩ := Option.map_eq_some_iff.mp h
  exact .configured hp hc

/-- Calls are queued in any phase and the task is left once; everything else is
done while it runs. -/
theorem running_of_act {a : Action} (h : c.act t deliver now a l = some (c', l', effects))
    (hq : a ≠ .enqueue) (hl : a ≠ .leave) : c.phase = .running := by
  cases hp : c.phase with
  | running => rfl
  | leaving e => cases a <;> simp_all [act]
  | ended e => cases a <;> simp_all [act]

/-- Every action that is possible is one of the changes. -/
theorem change_of_act {a : Action} (h : c.act t deliver now a l = some (c', l', effects)) :
    Change t deliver now c l a c' l' effects := by
  cases a with
  | enqueue =>
    obtain ⟨⟨d, es⟩, hd, heq⟩ := Option.map_eq_some_iff.mp h
    cases heq
    exact change_of_enqueue hd
  | receive =>
    have hp := running_of_act h (by decide) (by decide)
    simp only [act, hp] at h
    exact change_of_receive hp h
  | take =>
    have hp := running_of_act h (by decide) (by decide)
    simp only [act, hp] at h
    exact change_of_take hp h
  | sweep =>
    have hp := running_of_act h (by decide) (by decide)
    simp only [act, hp] at h
    obtain ⟨⟨d, es⟩, hd, heq⟩ := Option.map_eq_some_iff.mp h
    cases heq
    exact change_of_runSweep hp hd
  | configure =>
    have hp := running_of_act h (by decide) (by decide)
    simp only [act, hp] at h
    obtain ⟨d, hd, heq⟩ := Option.map_eq_some_iff.mp h
    cases heq
    exact change_of_applyConfig hp hd
  | close =>
    have hp := running_of_act h (by decide) (by decide)
    simp only [act, hp] at h
    split_ifs at h with hc
    cases h
    exact .told hp hc
  | leave =>
    cases hp : c.phase with
    | running => simp [act, hp] at h
    | leaving e =>
      simp only [act, hp] at h
      cases h
      exact .left hp
    | ended e => simp [act, hp] at h

end

end Callwire.Client
