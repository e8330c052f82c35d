import Callwire.Server.Connection
import Mathlib.Tactic

/-!
# Changes of a server

Everything an action of the task of a server connection can come to, one case for
each way it may go.
-/

set_option autoImplicit false

namespace Callwire.Server

variable {T S : Type} [Universe T]

/-- The socket accepts a frame only while the queue is open, and puts it behind the
others. -/
theorem eq_of_write {c c' : Server T} {m : Bytes} (h : Socket.write c m = .ok c') :
    c.isOpen = true ∧ c' = { c with outbound := c.outbound ++ [m] } := by
  simp only [Socket.write] at h
  split_ifs at h with hopen
  cases h
  exact ⟨hopen, rfl⟩

/-- The host has no part in what is sent. -/
theorem outbound_poll {c c' : Server T} {r : Poll} (h : c.poll = (c', r)) :
    c'.phase = c.phase ∧ c'.outbound = c.outbound := by
  unfold poll at h
  split at h <;> cases h <;> exact ⟨rfl, rfl⟩

inductive Change (t : Terminal S) (c : Server T) (l : S) :
    Action → Server T → S → List Trace → Prop
  | received {l' : S} {frame : Bytes} : c.phase = .running → c.held = none →
      t.receive l = (l', .message frame) → Change t c l .receive (c.hand frame) l' []
  | exhausted {l' : S} : c.phase = .running → c.held = none → t.receive l = (l', .finished) →
      Change t c l .receive { c with phase := .leaving .finished } l' []
  | broken {l' : S} {f : TransportFault} : c.phase = .running → c.held = none →
      t.receive l = (l', .failed f) →
      Change t c l .receive { c with phase := .leaving (.failed f) } l' []
  | delivered {frame : Bytes} : c.phase = .running → c.held = some frame →
      (c.receiving = true → c.inbound.length < capacity) →
      Change t c l .deliver (c.hand frame) l []
  | sent {frame : Bytes} {rest : List Bytes} {l' : S} : c.phase = .running → c.held = none →
      c.outbound = frame :: rest → t.send l frame = .ok l' →
      Change t c l .send { c with outbound := rest } l' []
  | unsent {frame : Bytes} {rest : List Bytes} {f : TransportFault} : c.phase = .running →
      c.held = none → c.outbound = frame :: rest → t.send l frame = .error f →
      Change t c l .send { c with outbound := rest, phase := .leaving (.failed f) } l []
  | told : c.phase = .running → c.held = none → c.closing = true →
      Change t c l .close { c with phase := .leaving .finished } l []
  | shut {e : TaskEnd} : c.phase = .leaving e → Change t c l .shut (c.shut e) l []
  | flushed {e : TaskEnd} {frame : Bytes} {rest : List Bytes} {l' : S} : c.phase = .flushing e →
      c.outbound = frame :: rest → t.send l frame = .ok l' →
      Change t c l .flush { c with outbound := rest } l' []
  | lost {e : TaskEnd} {frame : Bytes} {rest : List Bytes} {f : TransportFault} :
      c.phase = .flushing e → c.outbound = frame :: rest → t.send l frame = .error f →
      Change t c l .flush { c with outbound := [] } l
        [⟨.error, "failed to flush frame " ++ f.message⟩]
  | ended {e : TaskEnd} : c.phase = .flushing e → c.outbound = [] →
      Change t c l .flush { c with phase := .ended e } (t.detach (t.shutdown l)) (endTrace e)

section
variable {t : Terminal S} {c c' : Server T} {l l' : S} {traces : List Trace}

theorem change_of_receive (hp : c.phase = .running) (hh : c.held = none)
    (h : c.receive t l = some (c', l', traces)) : Change t c l .receive c' l' traces := by
  unfold receive at h
  rcases hr : t.receive l with ⟨k, r⟩
  rw [hr] at h
  cases r with
  | waiting => cases h
  | message frame =>
    cases h
    exact .received hp hh hr
  | finished =>
    cases h
    exact .exhausted hp hh hr
  | failed f =>
    cases h
    exact .broken hp hh hr

theorem change_of_send (hp : c.phase = .running) (hh : c.held = none)
    (h : c.send t l = some (c', l', traces)) : Change t c l .send c' l' traces := by
  unfold send at h
  cases ho : c.outbound with
  | nil =>
    rw [ho] at h
    cases h
  | cons frame rest =>
    simp only [ho] at h
    cases hs : t.send l frame with
    | ok k =>
      rw [hs] at h
      cases h
      exact .sent hp hh ho hs
    | error f =>
      rw [hs] at h
      cases h
      exact .unsent hp hh ho hs

theorem change_of_flush {e : TaskEnd} (hp : c.phase = .flushing e)
    (h : c.flush t e l = (c', l', traces)) : Change t c l .flush c' l' traces := by
  unfold flush at h
  cases ho : c.outbound with
  | nil =>
    simp only [ho] at h
    cases h
    exact ho ▸ .ended hp ho
  | cons frame rest =>
    simp only [ho] at h
    cases hs : t.send l frame with
    | ok k =>
      rw [hs] at h
      cases h
      exact .flushed hp ho hs
    | error f =>
      rw [hs] at h
      cases h
      exact .lost hp ho hs

/-- Every action that is possible is one of the changes. -/
theorem change_of_act {a : Action} (h : c.act t a l = some (c', l', traces)) :
    Change t c l a c' l' traces := by
  unfold act at h
  split at h
  · exact change_of_receive ‹_› ‹_› h
  · split_ifs at h with hfull
    cases h
    refine .delivered ‹_› ‹_› fun hr => ?_
    simpa [hr] using hfull
  · exact change_of_send ‹_› ‹_› h
  · split_ifs at h with hc
    cases h
    exact .told ‹_› ‹_› hc
  · cases h
    exact .shut ‹_›
  · exact change_of_flush ‹_› (Option.some.inj h)
  · cases h

end

end Callwire.Server
