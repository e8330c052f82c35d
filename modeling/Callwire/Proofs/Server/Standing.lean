import Callwire.Proofs.Session.Serving
import Callwire.Proofs.Transport.Attended

/-!
# Servers at an attended transport

While its peer is there and its host has not gone away, the task of a server ends
in one way only: it was told to. Then it sends all that was written before.
-/

set_option autoImplicit false

namespace Callwire.Server

variable {S T : Type} [Universe T] {ends : Side → Terminal S} {Carries Fits : Bytes → Prop}
  {fifo : Fifo ends Carries} {att : Attended fifo Fits} {c c' : Server T} {l : S}
  {sent written : List Bytes}

/-- A task that has ended does nothing. -/
theorem Change.not_ended {t : Terminal S} {k : S} {a : Action} {traces : List Trace}
    (hc : Change t c l a c' k traces) (e : TaskEnd) : c.phase ≠ .ended e := by
  intro he
  cases hc <;> simp_all

def Orderly (c : Server T) : Prop :=
  match c.phase with
  | .running => True
  | .leaving e | .flushing e | .ended e => e = .finished ∧ c.closing = true

structure Standing (att : Attended fifo Fits) (c : Server T) (l : S)
    (sent written : List Bytes) : Prop where
  receiving : c.receiving = true
  room : c.inbound.length ≤ capacity
  orderly : Orderly c
  present : (∀ e, c.phase ≠ .ended e) → att.present l
  ended : ∀ e, c.phase = .ended e → att.left l ∧ c.outbound = []
  sends : sent ++ c.outbound = written

theorem hand_of_receiving (hr : c.receiving = true) (frame : Bytes) : c.hand frame =
    if c.inbound.length < capacity then
      { c with held := none, inbound := c.inbound ++ [frame] }
    else { c with held := some frame } := by
  simp [hand, hr]

theorem standing_of_present (hreceiving : c.receiving = true) (hroom : c.inbound.length ≤ capacity)
    (horderly : Orderly c) (hp : ∀ e, c.phase ≠ .ended e) (hl : att.present l)
    (hsends : sent ++ c.outbound = written) : Standing att c l sent written where
  receiving := hreceiving
  room := hroom
  orderly := horderly
  present := fun _ => hl
  ended := fun e he => absurd he (hp e)
  sends := hsends

/-- To hand a frame over is all the same to the sending side. -/
theorem Standing.hand (h : Standing att c l sent written) {k : S}
    (hp : c.phase = .running) (hk : att.present k) (frame : Bytes) :
    Standing att (c.hand frame) k sent written := by
  have hnot : ∀ e, c.phase ≠ .ended e := by simp [hp]
  rw [hand_of_receiving h.receiving]
  split_ifs with hroom
  · refine standing_of_present h.receiving ?_ h.orderly hnot hk h.sends
    show (c.inbound ++ [frame]).length ≤ capacity
    rw [List.length_append, List.length_singleton]
    exact hroom
  · exact standing_of_present h.receiving h.room h.orderly hnot hk h.sends

/-- The next frame that was written goes out. -/
theorem Standing.send (h : Standing att c l sent written) (hfits : ∀ m ∈ written, Fits m)
    (hp : ∀ e, c.phase ≠ .ended e) {frame : Bytes} {rest : List Bytes}
    (ho : c.outbound = frame :: rest) : ∃ k, (ends .b).recording.send (l, sent) frame = .ok k ∧
      Standing att { c with outbound := rest } k.1 k.2 written := by
  have hmem : frame ∈ written := by
    rw [← h.sends, ho]
    simp
  have hmoved : sent ++ [frame] ++ rest = written := by
    rw [← h.sends, ho, List.append_assoc, List.singleton_append]
  obtain ⟨k, hk, hpresent⟩ := att.send (s := .b) (h.present hp) (hfits frame hmem)
  have hrecording : (ends .b).recording.send (l, sent) frame = .ok (k, sent ++ [frame]) := by
    simp only [Terminal.recording, hk, Except.map]
  exact ⟨_, hrecording, standing_of_present h.receiving h.room h.orderly hp hpresent hmoved⟩

theorem Standing.change (h : Standing att c l sent written) (hfits : ∀ m ∈ written, Fits m)
    (hcoming : c.phase = .running → ∃ ms, fifo.underway .b l ms ∧ ∀ m ∈ ms, Fits m)
    {a : Action} {p : S × List Bytes} {traces : List Trace}
    (hc : Change (ends .b).recording c (l, sent) a c' p traces) :
    Standing att c' p.1 p.2 written := by
  -- while the task runs it finds frames or waits
  have hfound : c.phase = .running → att.present ((ends .b).receive l).1 ∧
      ∃ ms, ((ends .b).receive l).2 = Poll.waiting.first ms := by
    intro hp
    obtain ⟨ms, hms, hmfits⟩ := hcoming hp
    obtain ⟨hpresent, hresult⟩ := att.receive (h.present (by simp [hp])) hms hmfits
    exact ⟨hpresent, ms, hresult⟩
  have horderly := h.orderly
  cases hc with
  | @received _ frame hp hh hreceive =>
    obtain ⟨hr, hsent⟩ := recording_receive hreceive
    have hpresent := (hfound hp).1
    rw [hr] at hpresent
    rw [hsent]
    exact h.hand hp hpresent frame
  | exhausted hp hh hreceive =>
    obtain ⟨hr, -⟩ := recording_receive hreceive
    obtain ⟨-, ms, hresult⟩ := hfound hp
    rw [hr] at hresult
    cases ms <;> cases hresult
  | broken hp hh hreceive =>
    obtain ⟨hr, -⟩ := recording_receive hreceive
    obtain ⟨-, ms, hresult⟩ := hfound hp
    rw [hr] at hresult
    cases ms <;> cases hresult
  | @delivered frame hp hh hroom => exact h.hand hp (h.present (by simp [hp])) frame
  | sent hp hh ho hs =>
    obtain ⟨k, hk, hnext⟩ := h.send hfits (by simp [hp]) ho
    rw [hk, Except.ok.injEq] at hs
    exact hs ▸ hnext
  | unsent hp hh ho hs =>
    obtain ⟨k, hk, -⟩ := h.send hfits (by simp [hp]) ho
    rw [hk] at hs
    cases hs
  | told hp hh hcl =>
    have hpresent := h.present (by simp [hp])
    exact standing_of_present h.receiving h.room ⟨rfl, hcl⟩ (by simp) hpresent h.sends
  | @shut e hp =>
    simp only [Orderly, hp] at horderly
    have hpresent := h.present (by simp [hp])
    refine standing_of_present h.receiving h.room horderly (by simp [shut]) hpresent ?_
    simp only [shut, if_pos horderly.1]
    exact h.sends
  | flushed hp ho hs =>
    obtain ⟨k, hk, hnext⟩ := h.send hfits (by simp [hp]) ho
    rw [hk, Except.ok.injEq] at hs
    exact hs ▸ hnext
  | lost hp ho hs =>
    obtain ⟨k, hk, -⟩ := h.send hfits (by simp [hp]) ho
    rw [hk] at hs
    cases hs
  | @ended e hp ho =>
    simp only [Orderly, hp] at horderly
    have hleft := att.leave (h.present (by simp [hp]))
    exact ⟨h.receiving, h.room, horderly, fun hnot => absurd rfl (hnot e),
      fun _ _ => ⟨hleft, ho⟩, h.sends⟩

end Callwire.Server
