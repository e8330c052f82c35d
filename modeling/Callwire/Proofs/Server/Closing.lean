import Callwire.Proofs.Server.Life
import Callwire.Proofs.Session.Outcomes

/-!
# Closing a server connection

The task looks for the sign to close only while it holds no frame. If the host has
left its queue full, a frame that does not fit in keeps the task waiting, and since
the connection is used up nobody will make room.
-/

set_option autoImplicit false

namespace Callwire

namespace Link

def Fits : Link → Bytes → Prop
  | .memory _, _ => True
  | .stream d, m => ∀ s, Stream.Framer.Fits (d.framer s).limit m

theorem Fresh.attended {l : Link} (h : l.Fresh) :
    ∃ (Carries : Bytes → Prop) (fifo : Fifo Link.terminal Carries) (att : Attended fifo l.Fits),
      att.present l ∧ fifo.underway .a l [] ∧ fifo.underway .b l [] := by
  cases h with
  | memory =>
    have hpresent : Memory.Pair.fresh.Present := fun s => by cases s <;> exact ⟨rfl, rfl⟩
    exact ⟨_, memoryFifo, memoryAttended, ⟨_, rfl, hpresent⟩, ⟨_, rfl, rfl⟩, ⟨_, rfl, rfl⟩⟩
  | stream a b =>
    have hlimit : ∀ s, ((⟨.fresh, .fresh, ⟨[], a.toNat⟩, ⟨[], b.toNat⟩⟩ :
        Stream.Duplex).framer s).limit < 2 ^ 32 := by
      intro s
      cases s with
      | a => exact a.toNat_lt
      | b => exact b.toNat_lt
    refine ⟨_, streamFifo _ hlimit, streamAttended _ hlimit, ⟨_, rfl, fun _ => rfl, ?_⟩,
      ⟨_, rfl, fun _ => rfl, rfl, ?_⟩, ⟨_, rfl, fun _ => rfl, rfl, ?_⟩⟩
    · exact fun s => by cases s <;> exact ⟨rfl, rfl⟩
    · exact fun m hm => by cases hm
    · exact fun m hm => by cases hm

end Link

namespace Server

section
variable {T S : Type} [Universe T]

structure Stuck (c : Server T) : Prop where
  running : c.phase = .running
  held : c.held.isSome = true
  full : c.inbound.length = capacity
  receiving : c.receiving = true
  closing : c.closing = true

theorem Stuck.no_change {c c' : Server T} (h : Stuck c) {t : Terminal S} {l l' : S} {a : Action}
    {traces : List Trace} : ¬ Change t c l a c' l' traces := by
  obtain ⟨frame, hheld⟩ := Option.isSome_iff_exists.mp h.held
  have hfull := h.full
  have hrunning := h.running
  intro hc
  cases hc with
  | delivered hp hh hroom =>
    have hlt := hroom h.receiving
    omega
  | received hp hh hr | exhausted hp hh hr | broken hp hh hr | told hp hh hcl =>
    rw [hheld] at hh
    cases hh
  | sent hp hh ho hs | unsent hp hh ho hs =>
    rw [hheld] at hh
    cases hh
  | shut hp =>
    rw [hrunning] at hp
    cases hp
  | flushed hp ho hs | lost hp ho hs =>
    rw [hrunning] at hp
    cases hp
  | ended hp ho =>
    rw [hrunning] at hp
    cases hp

end

namespace Life

variable {S T : Type} [Universe T] {ends : Side → Terminal S} {Carries Fits : Bytes → Prop}
  {fifo : Fifo ends Carries} {att : Attended fifo Fits} {s s' t : Life S T}

structure Finished (s t : Life S T) : Prop where
  ended : t.server.phase = .ended .finished
  heard : t.heard = t.written
  before : s.written <+: t.heard
  sawEnd : t.sawEnd = true

theorem Moved.of_stuck (h : Stuck s.server) (hm : Moved ends Fits s s') :
    Stuck s'.server ∧ s'.sent = s.sent := by
  cases hm with
  | fed hfits hs => exact ⟨h, rfl⟩
  | heard hend hr => exact ⟨h, rfl⟩
  | sawEnd hr => exact ⟨h, rfl⟩
  | polled hopen hi =>
    rw [h.closing] at hopen
    cases hopen
  | wrote hfits hopen => exact ⟨⟨h.running, h.held, h.full, h.receiving, h.closing⟩, rfl⟩
  | stored values => exact ⟨⟨h.running, h.held, h.full, h.receiving, h.closing⟩, rfl⟩
  | closed hopen =>
    rw [h.closing] at hopen
    cases hopen
  | acted hc => exact absurd hc h.no_change

/-- Nothing ever gets the task out of it. -/
theorem stuck_run (h : Stuck s.server) (moves : List (Move T Fits)) :
    Stuck (s.run ends moves).server ∧ (s.run ends moves).sent = s.sent := by
  refine run_keeps (P := fun t => Stuck t.server ∧ t.sent = s.sent) ?_ moves ⟨h, rfl⟩
  intro t t' ht hm
  obtain ⟨hstuck, hsent⟩ := hm.of_stuck ht.1
  exact ⟨hstuck, hsent.trans ht.2⟩

theorem settled_of_stuck (h : Stuck s.server) (hhear : s.hear ends = none) : s.Settled ends := by
  refine ⟨fun a => ?_, hhear⟩
  cases hact : s.act ends a with
  | none => rfl
  | some s' =>
    obtain ⟨⟨c, p, traces⟩, hchange, -⟩ := Option.map_eq_some_iff.mp hact
    exact absurd (change_of_act hchange) h.no_change

/-- The socket takes nothing back, and a connection is not opened again. -/
theorem Moved.keeps (hm : Moved ends Fits s s') :
    s.written <+: s'.written ∧ (s.server.closing = true → s'.server.closing = true) := by
  cases hm with
  | wrote hfits hopen => exact ⟨List.prefix_append _ _, id⟩
  | closed hopen => exact ⟨List.prefix_rfl, fun _ => rfl⟩
  | acted hc =>
    refine ⟨List.prefix_rfl, ?_⟩
    cases hc <;> first | exact id | (unfold hand; split_ifs <;> exact id)
  | fed | heard | sawEnd | polled | stored => exact ⟨List.prefix_rfl, id⟩

theorem keeps_run (moves : List (Move T Fits)) (s : Life S T) :
    s.written <+: (s.run ends moves).written ∧
      (s.server.closing = true → (s.run ends moves).server.closing = true) := by
  refine run_keeps (P := fun t => s.written <+: t.written ∧
    (s.server.closing = true → t.server.closing = true)) ?_ moves ⟨List.prefix_rfl, id⟩
  intro t t' ht hm
  exact ⟨ht.1.trans hm.keeps.1, fun h => hm.keeps.2 (ht.2 h)⟩

theorem run_close (hopen : s.server.closing = false) (more : List (Move T Fits)) :
    s.run ends (.close :: more) =
      { s with server := s.server.requestClose : Life S T }.run ends more := by
  simp only [run, step, hopen, Bool.false_eq_true, if_false, Option.getD_some]

/-- The peer sees the end only of a task that has ended. -/
theorem Sound.unseen (h : Sound att s) (hstuck : Stuck s.server) : s.sawEnd = false := by
  cases hend : s.sawEnd with
  | false => rfl
  | true =>
    obtain ⟨⟨e, he⟩, -⟩ := h.sawEnd hend
    rw [hstuck.running] at he
    cases he

/-- A task that runs with its queue full has more frames for the host than fit in. -/
theorem Sound.crowded (h : Sound att s) (hstuck : Stuck s.server) :
    s.polled.length + capacity < s.fed.length := by
  obtain ⟨frame, hheld⟩ := Option.isSome_iff_exists.mp hstuck.held
  obtain ⟨ms, -, hfed⟩ := h.feeds.flow hstuck.running h.standing.receiving
  rw [← hfed, hheld]
  simp only [List.length_append, hstuck.full, Option.toList_some, List.length_singleton]
  omega

/-- Until it is closed the task runs. -/
theorem Sound.running (h : Sound att s) (hopen : s.server.closing = false) :
    s.server.phase = .running := by
  have horderly := h.standing.orderly
  cases hp : s.server.phase with
  | running => rfl
  | leaving e | flushing e | ended e =>
    simp [Orderly, hp, hopen] at horderly

/-- A connection that has settled after it was closed has finished, or is stuck. -/
theorem Sound.outcome (h : Sound att t) (hsettled : t.Settled ends)
    (hclosing : t.server.closing = true) (hwritten : s.written <+: t.written) :
    Finished s t ∨ Stuck t.server := by
  obtain ⟨hact, hhear⟩ := hsettled
  have hquiet : ∀ a, t.server.act (ends .b).recording a (t.link, t.sent) = none :=
    fun a => Option.map_eq_none_iff.mp (hact a)
  have horderly := h.standing.orderly
  cases hp : t.server.phase with
  | running =>
    right
    cases hh : t.server.held with
    | none =>
      have hclose := hquiet .close
      simp [Server.act, hp, hh, hclosing] at hclose
    | some frame =>
      have hdeliver := hquiet .deliver
      have hroom := h.standing.room
      simp only [Server.act, hp, hh, h.standing.receiving, Bool.true_and, decide_eq_true_eq,
        ite_eq_left_iff, reduceCtorEq, imp_false, Decidable.not_not] at hdeliver
      exact ⟨hp, by rw [hh]; rfl, Nat.le_antisymm hroom hdeliver, h.standing.receiving, hclosing⟩
  | leaving e =>
    have hshut := hquiet .shut
    simp [Server.act, hp] at hshut
  | flushing e =>
    have hflush := hquiet .flush
    simp [Server.act, hp] at hflush
  | ended e =>
    left
    simp only [Orderly, hp] at horderly
    obtain ⟨hleft, hnone⟩ := h.standing.ended e hp
    have hend : t.sawEnd = true := by
      by_contra hnot
      obtain ⟨ms, hms, hheard⟩ := h.hears
      have hfound := (att.left_receive hleft hms (h.fits_heard hheard)).2
      rcases hr : (ends .a).receive t.link with ⟨link, r⟩
      rw [hr] at hfound
      simp only at hfound
      simp only [hear, if_neg hnot, hr, hfound] at hhear
      cases ms <;> simp [Poll.first] at hhear
    have hsends := h.standing.sends
    have hheard : t.heard = t.written := by
      rw [(h.sawEnd hend).2, ← hsends, hnone, List.append_nil]
    exact ⟨horderly.1 ▸ hp, hheard, by rw [hheard]; exact hwritten, hend⟩

/-- A connection that is closed ends, after its peer has received all that was written,
if no more frames wait for the host than its queue holds. Otherwise the task may hold
one for ever, and then nothing that was still to be sent is sent, nor is the end. -/
theorem close_ends_unless_full (link : Link) (hlink : link.Fresh)
    (moves more : List (Move T link.Fits)) (s t : Life Link T)
    (hs : s = (start link).run Link.terminal moves)
    (hopen : s.server.closing = false) (ht : t = s.run Link.terminal (.close :: more))
    (hsettled : t.Settled Link.terminal) :
    (Finished s t ∨ Stuck t.server) ∧
      (t.fed.length ≤ t.polled.length + capacity → Finished s t) ∧
      (s.server.held.isSome = true → s.server.inbound.length = capacity → Stuck t.server) ∧
      (Stuck t.server → t.sawEnd = false ∧ ∀ rest : List (Move T link.Fits),
        Stuck (t.run Link.terminal rest).server ∧ (t.run Link.terminal rest).sent = t.sent ∧
          (t.run Link.terminal rest).sawEnd = false) := by
  obtain ⟨Carries, fifo, att, hpresent, ha, hb⟩ := hlink.attended
  have hstart : Sound att s := by
    rw [hs]
    exact (sound_start hpresent ha hb).run moves
  have hafter :
      t = { s with server := s.server.requestClose : Life Link T }.run Link.terminal more := by
    rw [ht, run_close hopen]
  have hsound : Sound att t := by
    rw [ht]
    exact hstart.run _
  have hclosing : t.server.closing = true := by
    rw [hafter]
    exact (keeps_run more _).2 rfl
  have hwritten : s.written <+: t.written := by
    rw [ht]
    exact (keeps_run _ s).1
  have houtcome := hsound.outcome (s := s) hsettled hclosing hwritten
  refine ⟨houtcome, ?_, ?_, ?_⟩
  · intro hfew
    refine houtcome.resolve_right fun hstuck => ?_
    have hcrowded := hsound.crowded hstuck
    omega
  · intro hheld hfull
    have hstuck : Stuck s.server.requestClose :=
      ⟨hstart.running hopen, hheld, hfull, hstart.standing.receiving, rfl⟩
    rw [hafter]
    exact (stuck_run hstuck more).1
  · intro hstuck
    refine ⟨hsound.unseen hstuck, fun rest => ?_⟩
    obtain ⟨hstill, hsent⟩ := stuck_run hstuck rest
    exact ⟨hstill, hsent, (hsound.run rest).unseen hstill⟩

def requests (n : Nat) : List (Move Simulation.ValueType (Link.memory .fresh).Fits) :=
  ((List.range n).flatMap fun i =>
    [.feed ⟨[99, 111, 117, 110, 116, 0, 0, 0, 0, UInt8.ofNat (i + 1)], trivial⟩, .act .receive]) ++
  [.write ⟨[170], trivial⟩]

def ending : List (Move Simulation.ValueType (Link.memory .fresh).Fits) :=
  [.act .close, .act .shut, .act .flush, .act .flush, .hear, .hear]

def waiting (n : Nat) : Life Link Simulation.ValueType :=
  (start (.memory .fresh)).run Link.terminal (requests n)

def closed (n : Nat) : Life Link Simulation.ValueType :=
  (waiting n).run Link.terminal (.close :: ending)

theorem ten_requests_leave_room :
    (Link.memory .fresh).Fresh ∧ (waiting 10).server.closing = false ∧
      (closed 10).Settled Link.terminal ∧
      (closed 10).fed.length ≤ (closed 10).polled.length + capacity ∧
      Finished (waiting 10) (closed 10) ∧ (closed 10).heard = [[170]] := by
  have hsettled : (closed 10).Settled Link.terminal := ⟨fun a => by cases a <;> rfl, rfl⟩
  have hfew : (closed 10).fed.length ≤ (closed 10).polled.length + capacity :=
    Nat.le_of_eq rfl
  obtain ⟨-, hfinished, -⟩ := close_ends_unless_full (.memory .fresh) .memory (requests 10) ending
    (waiting 10) (closed 10) rfl rfl rfl hsettled
  exact ⟨.memory, rfl, hsettled, hfew, hfinished hfew, rfl⟩

theorem eleven_requests_stop_close :
    (waiting 11).server.closing = false ∧ (waiting 11).written = [[170]] ∧
      (closed 11).Settled Link.terminal ∧ (closed 11).server.phase = .running ∧
      (closed 11).heard = [] ∧ (closed 11).sawEnd = false ∧
      ¬ Finished (waiting 11) (closed 11) := by
  have hstuck : Stuck (closed 11).server := ⟨rfl, rfl, rfl, rfl, rfl⟩
  refine ⟨rfl, rfl, settled_of_stuck hstuck rfl, rfl, rfl, rfl, ?_⟩
  intro h
  have hend : (closed 11).sawEnd = true := h.sawEnd
  cases hend

end Life

end Server

end Callwire
