import Callwire.Proofs.Transport.Order

/-!
# Attended transports

A transport both of whose ends are there and take what the other one sends. No
message that fits gets lost on it, and none is stopped. After one end has gone away
the other still finds what was sent to it, and then the end.
-/

set_option autoImplicit false

namespace Callwire

def Poll.first (last : Poll) : List Bytes → Poll
  | [] => last
  | m :: _ => .message m

structure Attended {S : Type} {ends : Side → Terminal S} {Carries : Bytes → Prop}
    (fifo : Fifo ends Carries) (Fits : Bytes → Prop) where
  carries {m : Bytes} : Fits m → Carries m
  present : S → Prop
  left : S → Prop
  send {s : Side} {l : S} {m : Bytes} : present l → Fits m →
    ∃ l', (ends s).send l m = .ok l' ∧ present l'
  receive {s : Side} {l : S} {ms : List Bytes} : present l → fifo.underway s l ms →
    (∀ m ∈ ms, Fits m) →
    present ((ends s).receive l).1 ∧ ((ends s).receive l).2 = Poll.waiting.first ms
  leave {l : S} : present l → left ((ends .b).detach ((ends .b).shutdown l))
  left_send {l l' : S} {m : Bytes} : left l → (ends .a).send l m = .ok l' → left l'
  left_receive {l : S} {ms : List Bytes} : left l → fifo.underway .a l ms →
    (∀ m ∈ ms, Fits m) →
    left ((ends .a).receive l).1 ∧ ((ends .a).receive l).2 = Poll.finished.first ms

namespace Memory

theorem Lane.send_of_attended {l : Lane} (hs : l.sending = true) (ha : l.attached = true)
    (m : Bytes) : l.send m = .ok { l with queue := l.queue ++ [m] } := by
  simp [Lane.send, hs, ha]

theorem Lane.receive_eq (l : Lane) : l.receive = ({ l with queue := l.queue.tail },
    (if l.sending then Poll.waiting else .finished).first l.queue) := by
  obtain ⟨queue, sending, attached⟩ := l
  cases queue <;> rfl

def Pair.Present (p : Pair) : Prop :=
  ∀ s, (p.lane s).sending = true ∧ (p.lane s).attached = true

theorem Pair.Present.set {p : Pair} (h : p.Present) {s : Side} {l : Lane}
    (hs : l.sending = true) (ha : l.attached = true) : (p.set s l).Present := by
  intro r
  by_cases hr : r = s
  · rw [hr, Pair.lane_set]
    exact ⟨hs, ha⟩
  · have hother : r = s.other := by cases r <;> cases s <;> first | rfl | exact absurd rfl hr
    rw [hother, Pair.lane_set_other]
    exact h _

end Memory

namespace Link
open Memory

def memoryAttended : Attended memoryFifo fun _ => True where
  carries := id
  present l := ∃ p, l = .memory p ∧ p.Present
  left l := ∃ p, l = .memory p ∧ (p.lane .a).sending = false
  send := by
    rintro s l m ⟨p, rfl, hp⟩ -
    obtain ⟨hs, ha⟩ := hp s.other
    have hsend := Lane.send_of_attended hs ha m
    refine ⟨.memory (p.set s.other { p.lane s.other with queue := (p.lane s.other).queue ++ [m] }),
      ?_, _, rfl, hp.set hs ha⟩
    simp only [terminal, Link.send, Pair.send, hsend, Except.map]
  receive := by
    rintro s l ms ⟨p, rfl, hp⟩ ⟨q, hq, rfl⟩ -
    cases hq
    obtain ⟨hs, ha⟩ := hp s
    have hreceive := Lane.receive_eq (p.lane s)
    rw [hs, if_pos rfl] at hreceive
    simp only [terminal, Link.receive, Pair.receive, hreceive]
    exact ⟨⟨_, rfl, hp.set rfl ha⟩, trivial⟩
  leave := by
    rintro l ⟨p, rfl, -⟩
    exact ⟨_, rfl, rfl⟩
  left_send := by
    rintro l l' m ⟨p, rfl, hp⟩ h
    obtain ⟨p', hs, rfl⟩ := exists_of_map_eq_ok h
    obtain ⟨lane, -, rfl⟩ := Pair.eq_of_send hs
    exact ⟨_, rfl, hp⟩
  left_receive := by
    rintro l ms ⟨p, rfl, hp⟩ ⟨q, hq, rfl⟩ -
    cases hq
    have hreceive := Lane.receive_eq (p.lane .a)
    rw [hp, if_neg Bool.false_ne_true] at hreceive
    simp only [terminal, Link.receive, Pair.receive, hreceive]
    exact ⟨⟨_, rfl, rfl⟩, trivial⟩

end Link

namespace Stream

/-- A receive finds the first of the messages whose encodings are there. -/
theorem Framer.receive_due {n : Nat} {f : Framer} {p : Pipe} {ms : List Bytes}
    (hn : p.bytes.length < n) (hms : f.buffer ++ p.bytes = ms.flatMap frame)
    (hfits : ∀ m ∈ ms, Fits f.limit m) : ∃ g back, receive n f p =
      ((g, { p with bytes := back }),
        (if p.writing then Poll.waiting else .finished).first ms) := by
  have hreceive := receive_eq n f p hn
  cases ms with
  | nil =>
    have hnone : (f.extend p.bytes).buffer = [] := hms
    have hshort : (f.extend p.bytes).take = .ok none := take_short (by rw [hnone]; decide)
    rw [hshort, hnone] at hreceive
    exact ⟨_, _, hreceive⟩
  | cons m rest =>
    have hbuffer : (f.extend p.bytes).buffer = frame m ++ rest.flatMap frame := by
      rw [← List.flatMap_cons, ← hms]
      rfl
    rw [take_frame (f := f.extend p.bytes) (hfits m (by simp)) hbuffer] at hreceive
    obtain ⟨k, back, hr, -⟩ := hreceive
    exact ⟨k, back, hr⟩

theorem frame_ne_nil (m : Bytes) : Framer.frame m ≠ [] := by
  intro h
  have hlength := Framer.length_frame m
  rw [h, List.length_nil] at hlength
  omega

theorem Pipe.write_frame {p : Pipe} (hw : p.writing = true) (ha : p.attached = true) (m : Bytes) :
    p.write (Framer.frame m) = .ok { p with bytes := p.bytes ++ Framer.frame m } := by
  have hne : (Framer.frame m).isEmpty = false := by simpa using frame_ne_nil m
  simp [Pipe.write, hne, hw, ha]

namespace Duplex

def Present (d : Duplex) : Prop := ∀ s, (d.pipe s).writing = true ∧ (d.pipe s).attached = true

theorem Present.setPipe {d : Duplex} (h : d.Present) {s : Side} {p : Pipe}
    (hw : p.writing = true) (ha : p.attached = true) : (d.setPipe s p).Present := by
  intro r
  by_cases hr : r = s
  · rw [hr, pipe_setPipe]
    exact ⟨hw, ha⟩
  · have hother : r = s.other := by cases r <;> cases s <;> first | rfl | exact absurd rfl hr
    rw [hother, pipe_setPipe_other]
    exact h _

theorem Present.send {d : Duplex} (h : d.Present) {s : Side} {m : Bytes}
    (hm : Framer.Fits (d.framer s).limit m) : ∃ d', Duplex.send s d m = .ok d' ∧ d'.Present := by
  obtain ⟨hw, ha⟩ := h s.other
  have hencode : (d.framer s).encode m = .ok (Framer.frame m) :=
    (Framer.encode_eq_ok_iff _ _ _).mpr ⟨hm.2, rfl⟩
  have hwrite := Pipe.write_frame (p := d.pipe s.other) hw ha m
  refine ⟨d.setPipe s.other { d.pipe s.other with
    bytes := (d.pipe s.other).bytes ++ Framer.frame m }, ?_, h.setPipe hw ha⟩
  simp only [Duplex.send, hencode, Duplex.write, hwrite, Except.map]

theorem receive_due {d : Duplex} {s : Side} {ms : List Bytes} (hms : d.Underway s ms)
    (hfits : ∀ m ∈ ms, Framer.Fits (d.framer s).limit m) : ∃ f back, Duplex.receive s d =
      ((d.setFramer s f).setPipe s { d.pipe s with bytes := back },
        (if (d.pipe s).writing then Poll.waiting else .finished).first ms) := by
  obtain ⟨f, back, hr⟩ := Framer.receive_due (Nat.lt_succ_self _) hms.bytes hfits
  refine ⟨f, back, ?_⟩
  simp only [Duplex.receive, hr]

end Duplex

end Stream

namespace Link
open Callwire.Stream

def streamAttended (start : Duplex) (hl : ∀ s, (start.framer s).limit < 2 ^ 32) :
    Attended (streamFifo start hl) fun m => ∀ s, Framer.Fits (start.framer s).limit m where
  carries := fun h => Or.inr (h .a).1
  present l := ∃ d, l = .stream d ∧ (∀ s, (d.framer s).limit = (start.framer s).limit) ∧ d.Present
  left l := ∃ d, l = .stream d ∧ (∀ s, (d.framer s).limit = (start.framer s).limit) ∧
    (d.pipe .a).writing = false
  send := by
    rintro s l m ⟨d, rfl, hd, hp⟩ hm
    obtain ⟨d', hs, hp'⟩ := hp.send (s := s) (m := m) (by rw [hd]; exact hm s)
    obtain ⟨p, -, rfl⟩ := Duplex.eq_of_send hs
    refine ⟨.stream _, ?_, _, rfl, ?_, hp'⟩
    · simp only [terminal, Link.send, hs, Except.map]
    · intro u
      rw [Duplex.framer_setPipe]
      exact hd u
  receive := by
    rintro s l ms ⟨d, rfl, hd, hp⟩ ⟨d', hd', -, hms⟩ hfits
    cases hd'
    obtain ⟨f, back, hr⟩ := Duplex.receive_due hms fun m hm => by rw [hd]; exact hfits m hm s
    have hlimit := fun u => (Duplex.limit_receive s u d).trans (hd u)
    obtain ⟨hw, ha⟩ := hp s
    rw [hr] at hlimit
    rw [hw, if_pos rfl] at hr
    simp only [terminal, Link.receive, hr]
    refine ⟨⟨_, rfl, hlimit, ?_⟩, trivial⟩
    have hkept : (d.setFramer s f).Present := by
      intro u
      rw [Duplex.pipe_setFramer]
      exact hp u
    exact hkept.setPipe hw ha
  leave := by
    rintro l ⟨d, rfl, hd, -⟩
    refine ⟨_, rfl, ?_, rfl⟩
    intro s
    cases s with
    | a => exact hd .a
    | b => exact hd .b
  left_send := by
    rintro l l' m ⟨d, rfl, hd, hw⟩ h
    obtain ⟨d', hs, rfl⟩ := exists_of_map_eq_ok h
    obtain ⟨p, -, rfl⟩ := Duplex.eq_of_send hs
    refine ⟨_, rfl, ?_, hw⟩
    intro u
    rw [Duplex.framer_setPipe]
    exact hd u
  left_receive := by
    rintro l ms ⟨d, rfl, hd, hw⟩ ⟨d', hd', -, hms⟩ hfits
    cases hd'
    obtain ⟨f, back, hr⟩ := Duplex.receive_due hms fun m hm => by rw [hd]; exact hfits m hm .a
    have hlimit := fun u => (Duplex.limit_receive .a u d).trans (hd u)
    rw [hr] at hlimit
    rw [hw, if_neg Bool.false_ne_true] at hr
    simp only [terminal, Link.receive, hr]
    exact ⟨⟨_, rfl, hlimit, hw⟩, trivial⟩

end Link

end Callwire
