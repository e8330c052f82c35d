import Callwire.Proofs.Session.Asking
import Callwire.Proofs.Server.Changes

/-!
# What a server sends

The frames that the socket has accepted go out one after the other, and those that
have not gone out yet wait behind them. Once the transport has failed the task sends
no more, so that what was sent is the front of what was accepted.
-/

set_option autoImplicit false

namespace Callwire.Server

variable {S T : Type} [Universe T]

def fault? (t : Terminal S) (c : Server T) (l : S) : Action → Option TransportFault
  | .receive =>
    match (t.receive l).2 with
    | .failed f => some f
    | _ => none
  | .send | .flush =>
    match c.outbound with
    | [] => none
    | frame :: _ =>
      match t.send l frame with
      | .ok _ => none
      | .error f => some f
  | .deliver | .close | .shut => none

def Clean (c : Server T) : Prop :=
  match c.phase with
  | .running => True
  | .leaving e | .flushing e | .ended e => e = .finished

def Silent (c : Server T) : Prop :=
  match c.phase with
  | .running => False
  | .leaving e => e ≠ .finished
  | .flushing _ | .ended _ => c.outbound = []

inductive Sends (failed : Prop) (c : Server T) (sent accepted : List Bytes) : Prop
  | whole : Clean c → sent ++ c.outbound = accepted → Sends failed c sent accepted
  | cut : failed → Silent c → sent <+: accepted → Sends failed c sent accepted

variable {failed later : Prop} {c c' : Server T} {sent accepted : List Bytes} {l : S}

theorem sends_start (failed : Prop) : Sends failed (start : Server T) [] [] :=
  .whole trivial rfl

theorem Sends.sent_front (h : Sends failed c sent accepted) : sent <+: accepted := by
  cases h with
  | whole hclean heq => exact ⟨c.outbound, heq⟩
  | cut hf hsilent hp => exact hp

theorem Sends.of_not_failed (h : Sends failed c sent accepted) (hf : ¬ failed) :
    sent ++ c.outbound = accepted := by
  cases h with
  | whole hclean heq => exact heq
  | cut hfailed hsilent hp => exact absurd hfailed hf

theorem Sends.mono (h : Sends failed c sent accepted) (hf : failed → later) :
    Sends later c sent accepted := by
  cases h with
  | whole hclean heq => exact .whole hclean heq
  | cut hfailed hsilent hp => exact .cut (hf hfailed) hsilent hp

/-- What leaves the frames to be sent alone, and the phase. -/
theorem Sends.of_outbound (h : Sends failed c sent accepted) (hp : c'.phase = c.phase)
    (ho : c'.outbound = c.outbound) : Sends failed c' sent accepted := by
  cases h with
  | whole hclean heq => exact .whole (by rw [Clean, hp]; exact hclean) (by rw [ho, heq])
  | cut hf hsilent hfront => exact .cut hf (by rw [Silent, hp, ho]; exact hsilent) hfront

theorem Sends.write (h : Sends failed c sent accepted) {m : Bytes}
    (hw : Socket.write c m = .ok c') : Sends failed c' sent (accepted ++ [m]) := by
  obtain ⟨hopen, rfl⟩ := eq_of_write hw
  cases h with
  | whole hclean heq => exact .whole hclean (by rw [← heq, List.append_assoc])
  | cut hf hsilent hfront =>
    refine .cut hf ?_ (hfront.trans (List.prefix_append _ _))
    unfold Silent at *
    cases hp : c.phase with
    | running => simp [hp] at hsilent
    | leaving e => simpa [hp] using hsilent
    | flushing e | ended e => simp [isOpen, hp] at hopen

theorem phase_hand (c : Server T) (frame : Bytes) :
    (c.hand frame).phase = c.phase ∨ (c.hand frame).phase = .leaving .finished := by
  unfold hand
  split_ifs
  · exact .inr rfl
  · exact .inl rfl
  · exact .inl rfl

@[simp] theorem outbound_hand (c : Server T) (frame : Bytes) :
    (c.hand frame).outbound = c.outbound := by
  unfold hand
  split_ifs <;> rfl

theorem clean_hand (hp : c.phase = .running) (frame : Bytes) : Clean (c.hand frame) := by
  unfold Clean
  rcases phase_hand c frame with h | h <;> simp [h, hp]

/-- While the task runs, all that was accepted was sent or is going to be. -/
theorem Sends.running (h : Sends failed c sent accepted) (hp : c.phase = .running) :
    sent ++ c.outbound = accepted := by
  cases h with
  | whole hclean heq => exact heq
  | cut hf hsilent hfront => simp [Silent, hp] at hsilent

theorem Sends.flushing (h : Sends failed c sent accepted) {e : TaskEnd} {frame : Bytes}
    {rest : List Bytes} (hp : c.phase = .flushing e) (ho : c.outbound = frame :: rest) :
    Clean c ∧ sent ++ [frame] ++ rest = accepted := by
  cases h with
  | whole hclean heq =>
    refine ⟨hclean, ?_⟩
    rw [← heq, ho, List.append_assoc, List.singleton_append]
  | cut hf hsilent hfront => simp [Silent, hp, ho] at hsilent

theorem recording_send_error {t : Terminal S} {m : Bytes} {f : TransportFault}
    (h : t.recording.send (l, sent) m = .error f) : t.send l m = .error f := by
  change (t.send l m).map _ = .error f at h
  cases hs : t.send l m with
  | ok k =>
    rw [hs] at h
    cases h
  | error g =>
    rw [hs] at h
    cases h
    rfl

theorem Sends.change (h : Sends failed c sent accepted) {t : Terminal S} {a : Action}
    {p : S × List Bytes} {traces : List Trace}
    (hc : Change t.recording c (l, sent) a c' p traces) :
    Sends (failed ∨ (c.fault? t l a).isSome) c' p.2 accepted := by
  cases hc with
  | @received _ frame hp hh hr =>
    rw [(recording_receive hr).2]
    exact .whole (clean_hand hp frame) (by rw [outbound_hand, h.running hp])
  | exhausted hp hh hr =>
    rw [(recording_receive hr).2]
    exact .whole rfl (h.running hp)
  | broken hp hh hr =>
    obtain ⟨hreceive, hsent⟩ := recording_receive hr
    rw [hsent]
    refine .cut (.inr ?_) (by simp [Silent]) h.sent_front
    simp [fault?, hreceive]
  | @delivered frame hp hh hroom =>
    exact .whole (clean_hand hp frame) (by rw [outbound_hand, h.running hp])
  | sent hp hh ho hs =>
    rw [(recording_send hs).2]
    refine .whole (by simp [Clean, hp]) ?_
    rw [← h.running hp, ho, List.append_assoc, List.singleton_append]
  | unsent hp hh ho hs =>
    refine .cut (.inr ?_) (by simp [Silent]) h.sent_front
    simp [fault?, ho, recording_send_error hs]
  | told hp hh hcl => exact .whole rfl (h.running hp)
  | @shut e hp =>
    refine Sends.mono ?_ Or.inl
    cases h with
    | whole hclean heq =>
      have he : e = .finished := by simpa [Clean, hp] using hclean
      exact .whole he (by simpa [shut, he] using heq)
    | cut hf hsilent hfront =>
      have he : e ≠ .finished := by simpa [Silent, hp] using hsilent
      exact .cut hf (by simp [Silent, shut, he]) hfront
  | flushed hp ho hs =>
    obtain ⟨hclean, hmoved⟩ := h.flushing hp ho
    rw [(recording_send hs).2]
    exact .whole hclean hmoved
  | lost hp ho hs =>
    refine .cut (.inr ?_) (by simp [Silent, hp]) h.sent_front
    simp [fault?, ho, recording_send_error hs]
  | @ended e hp ho =>
    refine Sends.mono ?_ Or.inl
    cases h with
    | whole hclean heq => exact .whole (by simpa [Clean, hp] using hclean) heq
    | cut hf hsilent hfront => exact .cut hf ho hfront

/-- A queue that is closed stays closed. -/
theorem Change.isOpen_of {t : Terminal S} {a : Action} {k : S} {traces : List Trace}
    (hc : Change t c l a c' k traces) (hopen : c'.isOpen = true) : c.isOpen = true := by
  cases hc with
  | received hp | exhausted hp | broken hp | delivered hp | sent hp | unsent hp | told hp =>
    simp [isOpen, hp]
  | shut hp => simp [isOpen, hp]
  | flushed hp | lost hp => simp [isOpen, hp] at hopen
  | ended hp => simp [isOpen] at hopen

/-- A task that has ended has nothing left to send. -/
theorem Change.outbound_ended {t : Terminal S} {a : Action} {k : S} {traces : List Trace}
    (hc : Change t c l a c' k traces) {e : TaskEnd} (he : c'.phase = .ended e) :
    c'.outbound = [] := by
  cases hc with
  | @received _ frame hp | @delivered frame hp =>
    rcases phase_hand c frame with h | h <;> simp [h, hp] at he
  | exhausted hp | broken hp | unsent hp | told hp => cases he
  | sent hp => simp [hp] at he
  | shut hp => cases he
  | flushed hp | lost hp => simp [hp] at he
  | ended hp ho => exact ho

end Callwire.Server
