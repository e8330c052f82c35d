import Callwire.Proofs.Session.Outcomes
import Callwire.Proofs.Transport.Attended

/-!
# Ends of links

A side sees the end only after the other one has shut down or gone away, and after
all that was on its way. What a side does about its own way out has no part in that,
nor do bytes that make no message.
-/

set_option autoImplicit false

namespace Callwire

namespace Memory

theorem Lane.sending_send {l l' : Lane} {m : Bytes} (h : l.send m = .ok l') :
    l'.sending = l.sending := by
  unfold Lane.send at h
  split_ifs at h
  cases h
  rfl

theorem Lane.sending_receive (l : Lane) : l.receive.1.sending = l.sending := by
  rw [Lane.receive_eq]

theorem Lane.finished_receive {l : Lane} (h : l.receive.2 = .finished) :
    l.sending = false ∧ l.queue = [] := by
  rw [Lane.receive_eq] at h
  cases hq : l.queue with
  | nil =>
    rw [hq] at h
    cases hs : l.sending with
    | true => simp [Poll.first, hs] at h
    | false => exact ⟨rfl, rfl⟩
  | cons m rest =>
    rw [hq] at h
    cases h

theorem Pair.sending_set {p : Pair} {s : Side} {l : Lane} (h : l.sending = (p.lane s).sending)
    (u : Side) : ((p.set s l).lane u).sending = (p.lane u).sending := by
  cases s <;> cases u <;> first | exact h | rfl

end Memory

namespace Stream

theorem Pipe.writing_write {p p' : Pipe} {b : Bytes} (h : p.write b = .ok p') :
    p'.writing = p.writing := by
  unfold Pipe.write at h
  split_ifs at h <;> cases h <;> rfl

namespace Framer

theorem writing_receive {n : Nat} {f : Framer} {p : Pipe} (hn : p.bytes.length < n) :
    (receive n f p).1.2.writing = p.writing := by
  have hreceive := receive_eq n f p hn
  split at hreceive
  · rw [hreceive]
  · obtain ⟨k, back, hr, -⟩ := hreceive
    rw [hr]
  · obtain ⟨k, back, hr, -⟩ := hreceive
    rw [hr]

/-- The end comes when all bytes were read and made messages. -/
theorem receive_finished {n : Nat} {f : Framer} {p : Pipe} (hn : p.bytes.length < n)
    (h : (receive n f p).2 = .finished) : p.writing = false ∧ f.buffer ++ p.bytes = [] := by
  have hreceive := receive_eq n f p hn
  split at hreceive
  · rw [hreceive] at h
    unfold atEnd at h
    split_ifs at h with hw hb
    exact ⟨Bool.eq_false_iff.mpr hw, List.isEmpty_iff.mp hb⟩
  · obtain ⟨k, back, hr, -⟩ := hreceive
    rw [hr] at h
    cases h
  · obtain ⟨k, back, hr, -⟩ := hreceive
    rw [hr] at h
    cases h

/-- A receive that finds no message keeps all bytes. -/
theorem receive_kept {n : Nat} {f : Framer} {p : Pipe} (hn : p.bytes.length < n)
    (h : ∀ m, (receive n f p).2 ≠ .message m) :
    (receive n f p).1.1.buffer ++ (receive n f p).1.2.bytes = f.buffer ++ p.bytes := by
  have hreceive := receive_eq n f p hn
  split at hreceive
  · rw [hreceive]
    exact List.append_nil _
  · obtain ⟨k, back, hr, -⟩ := hreceive
    rw [hr] at h
    exact absurd rfl (h _)
  · obtain ⟨k, back, hr, hkept⟩ := hreceive
    rw [hr]
    exact congrArg Framer.buffer hkept

end Framer

namespace Duplex

theorem writing_setPipe {d : Duplex} {s : Side} {p : Pipe} (h : p.writing = (d.pipe s).writing)
    (u : Side) : ((d.setPipe s p).pipe u).writing = (d.pipe u).writing := by
  cases s <;> cases u <;> first | exact h | rfl

theorem writing_write {s : Side} {d d' : Duplex} {b : Bytes} (h : Duplex.write s d b = .ok d')
    (u : Side) : (d'.pipe u).writing = (d.pipe u).writing := by
  obtain ⟨p, hp, rfl⟩ := exists_of_map_eq_ok h
  exact writing_setPipe (Pipe.writing_write hp) u

theorem writing_receive (s u : Side) (d : Duplex) :
    ((Duplex.receive s d).1.pipe u).writing = (d.pipe u).writing := by
  unfold Duplex.receive
  rw [writing_setPipe ?_ u, pipe_setFramer]
  · rw [pipe_setFramer]
    exact Framer.writing_receive (Nat.lt_succ_self _)

theorem underway_nil {s : Side} {d : Duplex} {ms : List Bytes} (h : Underway s d ms)
    (hnone : (d.framer s).buffer ++ (d.pipe s).bytes = []) : ms = [] := by
  rw [h.bytes] at hnone
  cases ms with
  | nil => rfl
  | cons m rest =>
    rw [List.flatMap_cons] at hnone
    exact absurd (List.append_eq_nil_iff.mp hnone).1 (frame_ne_nil m)

end Duplex

end Stream

namespace Link
open Memory Callwire.Stream

theorem isEnded_send {s : Side} {l l' : Link} {m : Bytes} (h : l.send s m = .ok l') (u : Side) :
    l'.isEnded u = l.isEnded u := by
  cases l with
  | memory p =>
    obtain ⟨p', hs, rfl⟩ := exists_of_map_eq_ok h
    obtain ⟨lane, hlane, rfl⟩ := Pair.eq_of_send hs
    exact congrArg (!·) (Pair.sending_set (Lane.sending_send hlane) u)
  | stream d =>
    obtain ⟨d', hs, rfl⟩ := exists_of_map_eq_ok h
    obtain ⟨p, hp, rfl⟩ := Duplex.eq_of_send hs
    exact congrArg (!·) (Duplex.writing_setPipe (Pipe.writing_write hp) u)

theorem isEnded_feed {s : Side} {l l' : Link} {b : Bytes} (h : l.feed s b = .ok l') (u : Side) :
    l'.isEnded u = l.isEnded u := by
  cases l with
  | memory p => exact isEnded_send (l := .memory p) h u
  | stream d =>
    obtain ⟨d', hs, rfl⟩ := exists_of_map_eq_ok h
    exact congrArg (!·) (Duplex.writing_write hs u)

theorem isEnded_receive (s u : Side) (l : Link) : (l.receive s).1.isEnded u = l.isEnded u := by
  cases l with
  | memory p => exact congrArg (!·) (Pair.sending_set (Lane.sending_receive _) u)
  | stream d => exact congrArg (!·) (Duplex.writing_receive s u d)

/-- To shut the way out ends nothing on the way in. -/
theorem isEnded_shutdown (s : Side) (l : Link) : (l.shutdown s).isEnded s = l.isEnded s := by
  cases l with
  | memory p => cases s <;> rfl
  | stream d => cases s <;> rfl

theorem isEnded_detach (s : Side) (l : Link) : (l.detach s).isEnded s = l.isEnded s := by
  cases l with
  | memory p => cases s <;> rfl
  | stream d => cases s <;> rfl

theorem isEnded_of_finished {s : Side} {l l' : Link} (h : l.receive s = (l', .finished)) :
    l.isEnded s = true := by
  have hfound : (l.receive s).2 = .finished := by rw [h]
  cases l with
  | memory p => simp [isEnded, (Lane.finished_receive hfound).1]
  | stream d => simp [isEnded, (Framer.receive_finished (Nat.lt_succ_self _) hfound).1]

structure Closing {Carries : Bytes → Prop} (fifo : Fifo Link.terminal Carries) : Prop where
  kept {s : Side} {l l' : Link} {r : Poll} {ms : List Bytes} : l.receive s = (l', r) →
    (∀ m, r ≠ .message m) → fifo.underway s l ms → fifo.underway s l' ms
  finished {s : Side} {l l' : Link} {ms : List Bytes} : l.receive s = (l', .finished) →
    fifo.underway s l ms → ms = []
  fed {s : Side} {l l' : Link} {b : Bytes} {ms : List Bytes} : l.feed s b = .ok l' →
    fifo.underway s l ms → fifo.underway s l' ms
  shut {s : Side} {l : Link} {ms : List Bytes} : fifo.underway s l ms →
    fifo.underway s (l.shutdown s) ms

theorem memory_closing : Closing memoryFifo where
  kept := by
    rintro s l l' r ms h hr ⟨p, rfl, rfl⟩
    change (memory (Pair.receive s p).1, (Pair.receive s p).2) = (l', r) at h
    cases h
    refine ⟨_, rfl, ?_⟩
    simp only [Pair.receive, Pair.lane_set, Lane.receive_eq] at hr ⊢
    cases hq : (p.lane s).queue with
    | nil => rfl
    | cons m rest => exact absurd (by rw [hq]; rfl) (hr m)
  finished := by
    rintro s l l' ms h ⟨p, rfl, rfl⟩
    have hfound : (p.lane s).receive.2 = .finished := congrArg Prod.snd h
    exact (Lane.finished_receive hfound).2
  fed := by
    rintro s l l' b ms h ⟨p, rfl, hms⟩
    change (Link.terminal s).send (.memory p) b = .ok l' at h
    exact memoryFifo.send_keeps h ⟨p, rfl, hms⟩
  shut := by
    rintro s l ms ⟨p, rfl, rfl⟩
    exact ⟨_, rfl, by rw [Pair.shutdown, Pair.lane_set_self_of_other]⟩

theorem stream_closing (start : Duplex) (hl : ∀ s, (start.framer s).limit < 2 ^ 32) :
    Closing (streamFifo start hl) where
  kept := by
    rintro s l l' r ms h hr ⟨d, rfl, hd, hms⟩
    change (stream (Duplex.receive s d).1, (Duplex.receive s d).2) = (l', r) at h
    cases h
    refine ⟨_, rfl, fun u => ?_, ?_, hms.short⟩
    · rw [Duplex.limit_receive]
      exact hd u
    · rw [Duplex.receive, Duplex.framer_setPipe, Duplex.framer_setFramer, Duplex.pipe_setPipe,
        Framer.receive_kept (Nat.lt_succ_self _) hr, hms.bytes]
  finished := by
    rintro s l l' ms h ⟨d, rfl, -, hms⟩
    have hfound : (Duplex.receive s d).2 = .finished := congrArg Prod.snd h
    exact Duplex.underway_nil hms (Framer.receive_finished (Nat.lt_succ_self _) hfound).2
  fed := by
    rintro s l l' b ms h ⟨d, rfl, hd, hms⟩
    obtain ⟨d', hs, rfl⟩ := exists_of_map_eq_ok h
    obtain ⟨p, -, rfl⟩ := exists_of_map_eq_ok hs
    refine ⟨_, rfl, fun u => ?_, ?_, hms.short⟩
    · rw [Duplex.framer_setPipe]
      exact hd u
    · rw [Duplex.framer_setPipe, Duplex.pipe_setPipe_self_of_other, hms.bytes]
  shut := by
    rintro s l ms ⟨d, rfl, hd, hms⟩
    refine ⟨_, rfl, fun u => ?_, ?_, hms.short⟩
    · rw [Duplex.shutdown, Duplex.framer_setPipe]
      exact hd u
    · rw [Duplex.shutdown, Duplex.framer_setPipe, Duplex.pipe_setPipe_self_of_other, hms.bytes]

theorem Fresh.isEnded {l : Link} (h : l.Fresh) (s : Side) : l.isEnded s = false := by
  cases h <;> cases s <;> rfl

theorem Fresh.closing {l : Link} (h : l.Fresh) :
    ∃ fifo : Fifo Link.terminal l.Carries, Closing fifo ∧ fifo.underway .a l [] ∧
      fifo.underway .b l [] := by
  cases h with
  | memory => exact ⟨memoryFifo, memory_closing, ⟨_, rfl, rfl⟩, ⟨_, rfl, rfl⟩⟩
  | stream a b =>
    exact ⟨streamFifo _ (limit_fresh a b), stream_closing _ _, underway_fresh a b .a,
      underway_fresh a b .b⟩

end Link

end Callwire
