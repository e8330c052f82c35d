import Callwire.Proofs.Transport.Ends

/-!
# Lanes and deeds

What the owners of the two ends of a lane do with it, and what the lane is told by
it: which messages are queued, and which of the ends are still there.
-/

set_option autoImplicit false

namespace Callwire

namespace Memory

namespace Lane

theorem receive_message_iff (l : Lane) (m : Bytes) :
    l.receive.2 = .message m ↔ l.queue.head? = some m := by
  rw [receive_eq]
  cases l.queue with
  | nil => cases l.sending <;> simp [Poll.first]
  | cons x rest => simp [Poll.first]

theorem receive_finished_iff (l : Lane) :
    l.receive.2 = .finished ↔ l.queue = [] ∧ l.sending = false := by
  rw [receive_eq]
  cases l.queue with
  | nil => cases l.sending <;> simp [Poll.first]
  | cons x rest => simp [Poll.first]

theorem receive_waiting_iff (l : Lane) :
    l.receive.2 = .waiting ↔ l.queue = [] ∧ l.sending = true := by
  rw [receive_eq]
  cases l.queue with
  | nil => cases l.sending <;> simp [Poll.first]
  | cons x rest => simp [Poll.first]

theorem send_notConnected_iff (l : Lane) (m : Bytes) :
    l.send m = .error (.plain .notConnected) ↔ l.sending = false := by
  unfold send
  cases l.sending <;> cases l.attached <;> simp [TransportFault.plain]

theorem send_brokenPipe_iff (l : Lane) (m : Bytes) :
    l.send m = .error (.plain .brokenPipe) ↔ l.sending = true ∧ l.attached = false := by
  unfold send
  cases l.sending <;> cases l.attached <;> simp [TransportFault.plain]

theorem send_ok_iff (l : Lane) (m : Bytes) :
    (∃ l', l.send m = .ok l') ↔ l.sending = true ∧ l.attached = true := by
  unfold send
  cases l.sending <;> cases l.attached <;> simp

end Lane

inductive Use
  | send (m : Bytes)
  | receive
  | shutdown
  | drop
  deriving DecidableEq

inductive Deed
  | sent (m : Bytes)
  | refused (m : Bytes) (f : TransportFault)
  | received (r : Poll)
  | shut
  | left (lost : List Bytes)
  deriving DecidableEq

namespace Deed

def sent? : Deed → Option Bytes
  | sent m => some m
  | _ => none

def poll? : Deed → Option Poll
  | received r => some r
  | _ => none

def message? : Deed → Option Bytes
  | received (.message m) => some m
  | _ => none

def lost : Deed → List Bytes
  | left ms => ms
  | _ => []

end Deed

/-! ## One lane -/

def sentBy (deeds : List Deed) : List Bytes := deeds.filterMap Deed.sent?

def receivedBy (deeds : List Deed) : List Bytes := deeds.filterMap Deed.message?

def pollsBy (deeds : List Deed) : List Poll := deeds.filterMap Deed.poll?

def lostBy (deeds : List Deed) : List Bytes := deeds.flatMap Deed.lost

def HasShut (deeds : List Deed) : Prop := .shut ∈ deeds

def HasLeft (deeds : List Deed) : Prop := ∃ ms, .left ms ∈ deeds

section
variable (ds es : List Deed)

@[simp] theorem sentBy_append : sentBy (ds ++ es) = sentBy ds ++ sentBy es :=
  List.filterMap_append

@[simp] theorem receivedBy_append : receivedBy (ds ++ es) = receivedBy ds ++ receivedBy es :=
  List.filterMap_append

@[simp] theorem pollsBy_append : pollsBy (ds ++ es) = pollsBy ds ++ pollsBy es :=
  List.filterMap_append

@[simp] theorem lostBy_append : lostBy (ds ++ es) = lostBy ds ++ lostBy es :=
  List.flatMap_append

@[simp] theorem hasShut_append : HasShut (ds ++ es) ↔ HasShut ds ∨ HasShut es :=
  List.mem_append

@[simp] theorem hasLeft_append : HasLeft (ds ++ es) ↔ HasLeft ds ∨ HasLeft es := by
  simp [HasLeft, exists_or]

end

structure Told (l : Lane) (sender receiver : List Deed) : Prop where
  messages : receivedBy receiver ++ (l.queue ++ lostBy receiver) = sentBy sender
  sending : l.sending = false ↔ HasShut sender ∨ HasLeft sender
  attached : l.attached = false ↔ HasLeft receiver
  lost : l.attached = true → lostBy receiver = []
  emptied : l.attached = false → l.queue = []

theorem told_fresh : Told .fresh [] [] where
  messages := rfl
  sending := by simp [HasShut, HasLeft, Lane.fresh]
  attached := by simp [HasLeft, Lane.fresh]
  lost := fun _ => rfl
  emptied := fun h => by cases h

namespace Told

variable {l : Lane} {sender receiver : List Deed}

/-- A deed of the sender that has no part in this lane. -/
theorem sender_aside (h : Told l sender receiver) {d : Deed} (hsent : sentBy [d] = [])
    (hshut : ¬ HasShut [d]) (hleft : ¬ HasLeft [d]) : Told l (sender ++ [d]) receiver where
  messages := by rw [h.messages, sentBy_append, hsent, List.append_nil]
  sending := by simp [h.sending, hshut, hleft]
  attached := h.attached
  lost := h.lost
  emptied := h.emptied

/-- A deed of the receiver that has no part in this lane. -/
theorem receiver_aside (h : Told l sender receiver) {d : Deed} (hreceived : receivedBy [d] = [])
    (hlost : lostBy [d] = []) (hleft : ¬ HasLeft [d]) : Told l sender (receiver ++ [d]) where
  messages := by simp [hreceived, hlost, h.messages]
  sending := h.sending
  attached := by simp [h.attached, hleft]
  lost := fun ha => by rw [lostBy_append, h.lost ha, hlost, List.append_nil]
  emptied := h.emptied

theorem send (h : Told l sender receiver) {l' : Lane} {m : Bytes} (hs : l.send m = .ok l') :
    Told l' (sender ++ [.sent m]) receiver := by
  unfold Lane.send at hs
  split_ifs at hs with hsending hattached
  cases hs
  have ha : l.attached = true := by simpa using hattached
  have hold := h.messages
  rw [h.lost ha, List.append_nil] at hold
  constructor
  · rw [h.lost ha, List.append_nil, ← List.append_assoc, hold, sentBy_append]
    rfl
  · simp [h.sending, HasShut, HasLeft]
  · exact h.attached
  · exact h.lost
  · intro hno
    rw [ha] at hno
    cases hno

/-- The sender ends the lane, by a deed that sends nothing. -/
theorem shut (h : Told l sender receiver) {d : Deed} (hsent : sentBy [d] = [])
    (hends : HasShut [d] ∨ HasLeft [d]) : Told l.shut (sender ++ [d]) receiver where
  messages := by rw [sentBy_append, hsent, List.append_nil]; exact h.messages
  sending := by
    rw [hasShut_append, hasLeft_append, or_or_or_comm]
    exact ⟨fun _ => Or.inr hends, fun _ => rfl⟩
  attached := h.attached
  lost := h.lost
  emptied := h.emptied

theorem receive (h : Told l sender receiver) :
    Told l.receive.1 sender (receiver ++ [.received l.receive.2]) := by
  have hleft : ∀ r, ¬ HasLeft [.received r] := by simp [HasLeft]
  rw [Lane.receive_eq]
  cases hq : l.queue with
  | nil =>
    have hsame : { l with queue := ([] : List Bytes).tail } = l := by rw [List.tail_nil, ← hq]
    rw [hsame]
    refine h.receiver_aside ?_ rfl (hleft _)
    cases l.sending <;> rfl
  | cons m rest =>
    constructor
    · rw [← h.messages, hq, receivedBy_append, lostBy_append]
      simp [receivedBy, lostBy, Deed.message?, Deed.lost, Poll.first]
    · exact h.sending
    · simp [h.attached, hleft]
    · intro ha
      rw [lostBy_append, h.lost ha]
      rfl
    · intro hno
      rw [h.emptied hno] at hq
      cases hq

/-- The receiver goes away. -/
theorem detach (h : Told l sender receiver) (ha : l.attached = true) :
    Told l.detach sender (receiver ++ [.left l.queue]) where
  messages := by
    rw [← h.messages, receivedBy_append, lostBy_append, h.lost ha]
    simp [receivedBy, lostBy, Deed.message?, Deed.lost, Lane.detach]
  sending := h.sending
  attached := by simp [HasLeft, Lane.detach]
  lost := fun hno => by cases hno
  emptied := fun _ => rfl

end Told

end Memory

end Callwire
