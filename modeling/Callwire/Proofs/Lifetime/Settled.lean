import Callwire.Proofs.Lifetime.Invariant
import Callwire.Proofs.Session.Outcomes

/-!
# Settled connections

A connection settles in one of two ways. Its task has ended and no caller waits
for room, or the task runs and finds nothing to do.
-/

set_option autoImplicit false

namespace Callwire.Client

variable {H S ε : Type}

theorem take_eq_none {t : Terminal S} {now : Instant} {c : Client H} {l : S}
    (h : c.take (ε := ε) t now l = none) : c.queue = [] := by
  unfold take at h
  cases hq : c.queue with
  | nil => rfl
  | cons call rest =>
    rw [hq] at h
    rcases ho : c.calls.outbound (ε := ε) now call with ⟨calls, _ | frame | _, es⟩
    · simp [ho] at h
    · simp only [ho] at h
      cases hs : t.send l frame <;> simp [hs] at h
    · simp [ho] at h

theorem receive_eq_none {t : Terminal S} {deliver : H → Push → Delivery H ε} {c : Client H} {l : S}
    (h : c.receive t deliver l = none) : (t.receive l).2 = .waiting := by
  unfold receive at h
  rcases hr : t.receive l with ⟨k, r⟩
  rw [hr] at h
  cases r with
  | waiting => rfl
  | message frame => cases h
  | finished => cases h
  | failed f => cases h

namespace Life

variable {u : Setting S H ε} {s s' : Life S H}

theorem Settled.act (h : s.Settled u) (a : Action) :
    s.client.act u.transport.recording u.deliver s.now a (s.link, s.sent) = none :=
  Option.map_eq_none_iff.mp (h a)

structure Idle (u : Setting S H ε) (s : Life S H) : Prop where
  running : s.client.phase = .running
  waits : (u.transport.receive s.link).2 = .waiting
  queue : s.client.queue = []
  early : s.now < s.client.sweep.due
  config : s.client.config = none
  untold : s.client.closing = false

theorem Settled.idle (h : s.Settled u) (hp : s.client.phase = .running) : Idle u s := by
  have hreceive := h.act .receive
  have htake := h.act .take
  have hsweep := h.act .sweep
  have hconfig := h.act .configure
  have hclose := h.act .close
  simp only [Client.act, hp] at hreceive htake hsweep hconfig hclose
  constructor
  · exact hp
  · show (u.transport.recording.receive (s.link, s.sent)).2 = .waiting
    exact receive_eq_none hreceive
  · exact take_eq_none htake
  · rw [Option.map_eq_none_iff, runSweep] at hsweep
    split_ifs at hsweep with hdue
    exact Nat.lt_of_not_le hdue
  · rw [Option.map_eq_none_iff, applyConfig, Option.map_eq_none_iff] at hconfig
    exact hconfig
  · cases hc : s.client.closing with
    | false => rfl
    | true => simp [hc] at hclose

theorem Settled.blocked (h : s.Settled u) {e : TaskEnd} (hp : s.client.phase = .ended e) :
    s.client.blocked = [] := by
  have henqueue := h.act .enqueue
  simp only [Client.act, hp, Option.map_eq_none_iff, Client.enqueue] at henqueue
  cases hb : s.client.blocked with
  | nil => rfl
  | cons call rest => simp [hb] at henqueue

/-- A task that does not run ends before its connection settles. -/
theorem Settled.ended (h : s.Settled u) (hp : s.client.phase ≠ .running) :
    ∃ e, s.client.phase = .ended e := by
  cases hphase : s.client.phase with
  | running => exact absurd hphase hp
  | leaving e =>
    have hleave := h.act .leave
    simp [Client.act, hphase] at hleave
  | ended e => exact ⟨e, rfl⟩

/-- Where the task has ended and nobody waits for room, nothing is possible. -/
theorem settled_of_ended {e : TaskEnd} (hp : s.client.phase = .ended e)
    (hb : s.client.blocked = []) : s.Settled u := by
  intro a
  cases hact : s.act u a with
  | none => rfl
  | some t =>
    obtain ⟨c, p, effects, hc, -⟩ := change_of_act hact
    obtain ⟨call, rest, hcons, -⟩ := hc.of_ended hp
    rw [hb] at hcons
    cases hcons

def sampleSetting : Setting Link (Sample.Hub Nat) (Nat × Sample.Seen) :=
  ⟨Link.terminal .a, Sample.Hub.deliver, Sample.Hub.deliver_quiet⟩

end Life

end Callwire.Client
