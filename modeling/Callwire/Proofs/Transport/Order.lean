import Callwire.Proofs.Transport.Framing
import Callwire.Transport.Link

/-!
# Messages keep their order

What connections rely on in a transport: what one side sends is received by the
other in the same order, nothing in between, as long as the messages are ones
that the transport carries. Lanes in memory carry every message. So does a byte
stream whose ends have limits, since they refuse to send what is too long; without
a limit the length has to fit into the header.
-/

set_option autoImplicit false

namespace Callwire

/-- The messages `ms` are on their way to `s` in the state `l`: `underway s l ms`.
Nothing is said about what a side receives that has gone away. -/
structure Fifo {S : Type} (t : Side → Terminal S) (Carries : Bytes → Prop) where
  underway : Side → S → List Bytes → Prop
  sent {s : Side} {l l' : S} {m : Bytes} {ms : List Bytes} : (t s).send l m = .ok l' →
    Carries m → underway s.other l ms → underway s.other l' (ms ++ [m])
  received {s : Side} {l l' : S} {m : Bytes} {ms : List Bytes} :
    (t s).receive l = (l', .message m) → underway s l ms →
      ∃ rest, ms = m :: rest ∧ underway s l' rest
  send_keeps {s : Side} {l l' : S} {m : Bytes} {ms : List Bytes} : (t s).send l m = .ok l' →
    underway s l ms → underway s l' ms
  receive_keeps {s : Side} {l l' : S} {r : Poll} {ms : List Bytes} :
    (t s).receive l = (l', r) → underway s.other l ms → underway s.other l' ms
  shutdown_keeps {s : Side} {l : S} {ms : List Bytes} :
    underway s.other l ms → underway s.other ((t s).shutdown l) ms
  detach_keeps {s : Side} {l : S} {ms : List Bytes} :
    underway s.other l ms → underway s.other ((t s).detach l) ms

theorem exists_of_map_eq_ok {ε α β : Type} {f : α → β} {x : Except ε α} {b : β}
    (h : x.map f = .ok b) : ∃ a, x = .ok a ∧ b = f a := by
  cases x with
  | error e => cases h
  | ok a => exact ⟨a, rfl, (Except.ok.inj h).symm⟩

namespace Memory

theorem Lane.queue_send {l l' : Lane} {m : Bytes} (h : l.send m = .ok l') :
    l'.queue = l.queue ++ [m] := by
  unfold Lane.send at h
  split_ifs at h
  cases h
  rfl

theorem Lane.queue_receive {l l' : Lane} {m : Bytes} (h : l.receive = (l', .message m)) :
    l.queue = m :: l'.queue := by
  unfold Lane.receive at h
  cases hq : l.queue with
  | nil =>
    rw [hq] at h
    cases hs : l.sending <;> simp [hs] at h
  | cons x rest =>
    rw [hq, Prod.mk.injEq, Poll.message.injEq] at h
    obtain ⟨rfl, rfl⟩ := h
    rfl

namespace Pair

@[simp] theorem lane_set_self_of_other (p : Pair) (s : Side) (l : Lane) :
    (p.set s.other l).lane s = p.lane s := by
  cases s <;> rfl

theorem eq_of_send {s : Side} {p p' : Pair} {m : Bytes} (h : send s p m = .ok p') :
    ∃ l, (p.lane s.other).send m = .ok l ∧ p' = p.set s.other l :=
  exists_of_map_eq_ok h

end Pair

end Memory

namespace Stream

/-- A message is on its way behind what is there already. -/
theorem Pipe.bytes_write {p p' : Pipe} {b : Bytes} (h : p.write b = .ok p') :
    p'.bytes = p.bytes ++ b := by
  unfold Pipe.write at h
  split_ifs at h with hb
  · cases h
    rw [List.isEmpty_iff.mp hb, List.append_nil]
  · cases h
    rfl

namespace Duplex

@[simp] theorem pipe_setPipe (d : Duplex) (s : Side) (p : Pipe) : (d.setPipe s p).pipe s = p := by
  cases s <;> rfl

@[simp] theorem pipe_setPipe_other (d : Duplex) (s : Side) (p : Pipe) :
    (d.setPipe s p).pipe s.other = d.pipe s.other := by
  cases s <;> rfl

@[simp] theorem pipe_setPipe_self_of_other (d : Duplex) (s : Side) (p : Pipe) :
    (d.setPipe s.other p).pipe s = d.pipe s := by
  cases s <;> rfl

@[simp] theorem framer_setPipe (d : Duplex) (s u : Side) (p : Pipe) :
    (d.setPipe s p).framer u = d.framer u := by
  cases s <;> rfl

@[simp] theorem pipe_setFramer (d : Duplex) (s u : Side) (f : Framer) :
    (d.setFramer s f).pipe u = d.pipe u := by
  cases s <;> rfl

@[simp] theorem framer_setFramer (d : Duplex) (s : Side) (f : Framer) :
    (d.setFramer s f).framer s = f := by
  cases s <;> rfl

@[simp] theorem framer_setFramer_other (d : Duplex) (s : Side) (f : Framer) :
    (d.setFramer s f).framer s.other = d.framer s.other := by
  cases s <;> rfl

structure Underway (s : Side) (d : Duplex) (ms : List Bytes) : Prop where
  bytes : (d.framer s).buffer ++ (d.pipe s).bytes = ms.flatMap Framer.frame
  short : ∀ m ∈ ms, m.length < 2 ^ 32

theorem eq_of_send {s : Side} {d d' : Duplex} {m : Bytes} (h : send s d m = .ok d') :
    ∃ p, (d.pipe s.other).write (Framer.frame m) = .ok p ∧ d' = d.setPipe s.other p := by
  unfold send at h
  cases he : (d.framer s).encode m with
  | error e =>
    rw [he] at h
    cases h
  | ok b =>
    rw [he] at h
    rw [((Framer.encode_eq_ok_iff _ m b).mp he).2] at h
    exact exists_of_map_eq_ok h

theorem limit_setFramer {d : Duplex} {s : Side} {f : Framer}
    (h : f.limit = (d.framer s).limit) (u : Side) :
    ((d.setFramer s f).framer u).limit = (d.framer u).limit := by
  cases s <;> cases u <;> first | exact h | rfl

theorem limit_receive (s u : Side) (d : Duplex) :
    (((receive s d).1).framer u).limit = (d.framer u).limit := by
  rw [receive, framer_setPipe]
  exact limit_setFramer (Framer.limit_receive _ _ _) u

/-- A message that an end with a limit has sent is not too long. -/
theorem length_of_send {s : Side} {d d' : Duplex} {m : Bytes} (h : send s d m = .ok d')
    (h0 : (d.framer s).limit ≠ 0) : m.length ≤ (d.framer s).limit := by
  unfold send at h
  cases he : (d.framer s).encode m with
  | error e =>
    rw [he] at h
    cases h
  | ok b => exact ((Framer.encode_eq_ok_iff _ m b).mp he).1.resolve_left h0

theorem Underway.send {s : Side} {d d' : Duplex} {m : Bytes} {ms : List Bytes}
    (h : Underway s.other d ms) (hs : Duplex.send s d m = .ok d') (hm : m.length < 2 ^ 32) :
    Underway s.other d' (ms ++ [m]) := by
  obtain ⟨p, hp, rfl⟩ := eq_of_send hs
  refine ⟨?_, fun x hx => ?_⟩
  · rw [framer_setPipe, pipe_setPipe, Pipe.bytes_write hp, ← List.append_assoc, h.bytes,
      List.flatMap_append, List.flatMap_singleton]
  · rcases List.mem_append.mp hx with hx | hx
    · exact h.short x hx
    · rw [List.mem_singleton.mp hx]
      exact hm

theorem Underway.receive {s : Side} {d d' : Duplex} {m : Bytes} {ms : List Bytes}
    (h : Underway s d ms) (hr : Duplex.receive s d = (d', .message m)) :
    ∃ rest, ms = m :: rest ∧ Underway s d' rest := by
  rcases he : (d.framer s).receive ((d.pipe s).bytes.length + 1) (d.pipe s) with ⟨⟨f, p⟩, r⟩
  rw [Duplex.receive, he, Prod.mk.injEq] at hr
  obtain ⟨rfl, rfl⟩ := hr
  obtain ⟨rest, rfl, hrest⟩ := Framer.receive_front (Nat.lt_succ_self _) he h.bytes h.short
  refine ⟨rest, rfl, ?_, fun x hx => h.short x (List.mem_cons_of_mem _ hx)⟩
  rw [framer_setPipe, framer_setFramer, pipe_setPipe, hrest]

end Duplex

end Stream

namespace Link
open Memory

def memoryFifo : Fifo Link.terminal fun _ => True where
  underway s l ms := ∃ p, l = .memory p ∧ (p.lane s).queue = ms
  sent := by
    rintro s l l' m ms h - ⟨p, rfl, rfl⟩
    obtain ⟨p', hs, rfl⟩ := exists_of_map_eq_ok h
    obtain ⟨lane, hlane, rfl⟩ := Pair.eq_of_send hs
    exact ⟨_, rfl, by rw [Pair.lane_set, Lane.queue_send hlane]⟩
  received := by
    rintro s l l' m ms h ⟨p, rfl, rfl⟩
    change (memory (Pair.receive s p).1, (Pair.receive s p).2) = (l', .message m) at h
    rw [Prod.mk.injEq] at h
    obtain ⟨rfl, hm⟩ := h
    have hlane : (p.lane s).receive = ((p.lane s).receive.1, .message m) := by
      rw [← hm]
      rfl
    refine ⟨(p.lane s).receive.1.queue, Lane.queue_receive hlane, _, rfl, ?_⟩
    show ((p.set s (p.lane s).receive.1).lane s).queue = _
    rw [Pair.lane_set]
  send_keeps := by
    rintro s l l' m ms h ⟨p, rfl, rfl⟩
    obtain ⟨p', hs, rfl⟩ := exists_of_map_eq_ok h
    obtain ⟨lane, -, rfl⟩ := Pair.eq_of_send hs
    exact ⟨_, rfl, by rw [Pair.lane_set_self_of_other]⟩
  receive_keeps := by
    rintro s l l' r ms h ⟨p, rfl, rfl⟩
    change (memory (Pair.receive s p).1, (Pair.receive s p).2) = (l', r) at h
    cases h
    refine ⟨_, rfl, ?_⟩
    show ((p.set s (p.lane s).receive.1).lane s.other).queue = _
    rw [Pair.lane_set_other]
  shutdown_keeps := by
    rintro s l ms ⟨p, rfl, rfl⟩
    refine ⟨_, rfl, ?_⟩
    rw [Pair.shutdown, Pair.lane_set]
    rfl
  detach_keeps := by
    rintro s l ms ⟨p, rfl, rfl⟩
    refine ⟨_, rfl, ?_⟩
    rw [Pair.detach, Pair.lane_set_other, Pair.shutdown, Pair.lane_set]
    rfl

def Carries : Link → Bytes → Prop
  | .memory _, _ => True
  | .stream d, m => (∀ s, (d.framer s).limit ≠ 0) ∨ m.length < 2 ^ 32

def streamFifo (start : Stream.Duplex) (hl : ∀ s, (start.framer s).limit < 2 ^ 32) :
    Fifo Link.terminal (Carries (.stream start)) where
  underway s l ms := ∃ d, l = .stream d ∧ (∀ u, (d.framer u).limit = (start.framer u).limit) ∧
    d.Underway s ms
  sent := by
    rintro s l l' m ms h hm ⟨d, rfl, hd, hms⟩
    obtain ⟨d', hs, rfl⟩ := exists_of_map_eq_ok h
    have hlen : m.length < 2 ^ 32 := by
      rcases hm with h0 | hm
      · have hle := Stream.Duplex.length_of_send hs (by rw [hd s]; exact h0 s)
        rw [hd s] at hle
        exact lt_of_le_of_lt hle (hl s)
      · exact hm
    obtain ⟨p, -, rfl⟩ := Stream.Duplex.eq_of_send hs
    refine ⟨_, rfl, fun u => ?_, hms.send hs hlen⟩
    rw [Stream.Duplex.framer_setPipe]
    exact hd u
  received := by
    rintro s l l' m ms h ⟨d, rfl, hd, hms⟩
    change (stream (Stream.Duplex.receive s d).1, (Stream.Duplex.receive s d).2) =
      (l', .message m) at h
    rw [Prod.mk.injEq] at h
    obtain ⟨rfl, hm⟩ := h
    obtain ⟨rest, hfront, hrest⟩ := hms.receive (Prod.ext rfl hm)
    refine ⟨rest, hfront, _, rfl, fun u => ?_, hrest⟩
    rw [Stream.Duplex.limit_receive]
    exact hd u
  send_keeps := by
    rintro s l l' m ms h ⟨d, rfl, hd, hms⟩
    obtain ⟨d', hs, rfl⟩ := exists_of_map_eq_ok h
    obtain ⟨p, -, rfl⟩ := Stream.Duplex.eq_of_send hs
    refine ⟨_, rfl, fun u => ?_, ?_, hms.short⟩
    · rw [Stream.Duplex.framer_setPipe]
      exact hd u
    · rw [Stream.Duplex.framer_setPipe, Stream.Duplex.pipe_setPipe_self_of_other, hms.bytes]
  receive_keeps := by
    rintro s l l' r ms h ⟨d, rfl, hd, hms⟩
    change (stream (Stream.Duplex.receive s d).1, (Stream.Duplex.receive s d).2) = (l', r) at h
    cases h
    refine ⟨_, rfl, fun u => ?_, ?_, hms.short⟩
    · rw [Stream.Duplex.limit_receive]
      exact hd u
    · rw [Stream.Duplex.receive, Stream.Duplex.framer_setPipe,
        Stream.Duplex.framer_setFramer_other, Stream.Duplex.pipe_setPipe_other,
        Stream.Duplex.pipe_setFramer, hms.bytes]
  shutdown_keeps := by
    rintro s l ms ⟨d, rfl, hd, hms⟩
    refine ⟨_, rfl, fun u => ?_, ?_, hms.short⟩
    · rw [Stream.Duplex.shutdown, Stream.Duplex.framer_setPipe]
      exact hd u
    · rw [Stream.Duplex.shutdown, Stream.Duplex.framer_setPipe, Stream.Duplex.pipe_setPipe]
      exact hms.bytes
  detach_keeps := by
    rintro s l ms ⟨d, rfl, hd, hms⟩
    refine ⟨_, rfl, fun u => ?_, ?_, hms.short⟩
    · rw [Stream.Duplex.detach, Stream.Duplex.framer_setPipe, Stream.Duplex.shutdown,
        Stream.Duplex.framer_setPipe]
      exact hd u
    · rw [Stream.Duplex.detach, Stream.Duplex.framer_setPipe, Stream.Duplex.pipe_setPipe_other,
        Stream.Duplex.shutdown, Stream.Duplex.framer_setPipe, Stream.Duplex.pipe_setPipe]
      exact hms.bytes

end Link

end Callwire
