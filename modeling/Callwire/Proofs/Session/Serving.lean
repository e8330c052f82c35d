import Callwire.Proofs.Server.Changes
import Callwire.Proofs.Session.Asking

/-!
# The serving end

The frames that a host takes from its connection are those that were sent to it,
in order. What the connection sends was written to its socket before.
-/

set_option autoImplicit false

namespace Callwire.Server

variable {S T : Type} [Universe T] {ends : Side → Terminal S} {Carries : Bytes → Prop}
  {fifo : Fifo ends Carries} {c c' : Server T} {l : S} {served sent answered : List Bytes}

structure Feeds (fifo : Fifo ends Carries) (c : Server T) (l : S)
    (served sent : List Bytes) : Prop where
  inOrder : served ++ c.inbound <+: sent
  gone : c.receiving = false → c.inbound = []
  flow : c.phase = .running → c.receiving = true → ∃ ms, fifo.underway .b l ms ∧
    served ++ c.inbound ++ c.held.toList ++ ms = sent

/-- What concerns neither the queue for the host nor the way to it. -/
theorem Feeds.of_inbound (h : Feeds fifo c l served sent) (hi : c'.inbound = c.inbound)
    (hr : c'.receiving = c.receiving)
    (hp : c'.phase = .running → c.phase = .running ∧ c'.held = c.held) {k : S}
    (hk : ∀ ms, fifo.underway .b l ms → fifo.underway .b k ms) : Feeds fifo c' k served sent := by
  refine ⟨by rw [hi]; exact h.inOrder, fun hg => ?_, fun hrun hreceiving => ?_⟩
  · rw [hi]
    exact h.gone (hr ▸ hg)
  · obtain ⟨hp, hheld⟩ := hp hrun
    obtain ⟨ms, hms, heq⟩ := h.flow hp (hr ▸ hreceiving)
    exact ⟨ms, hk ms hms, by rw [hi, hheld]; exact heq⟩

/-- A frame at the front of the way is handed to the host or held back. -/
theorem Feeds.hand (h : Feeds fifo c l served sent) {k : S} {frame : Bytes}
    (hflow : c.receiving = true → ∃ ms, fifo.underway .b k ms ∧
      served ++ c.inbound ++ [frame] ++ ms = sent) :
    Feeds fifo (c.hand frame) k served sent := by
  unfold Server.hand
  cases hr : c.receiving with
  | false =>
    refine ⟨h.inOrder, fun _ => h.gone hr, fun hrun => ?_⟩
    cases hrun
  | true =>
    obtain ⟨ms, hms, heq⟩ := hflow hr
    rw [Bool.not_true, if_neg Bool.false_ne_true]
    split_ifs with hlt
    · refine ⟨⟨ms, ?_⟩, fun hg => ?_, fun _ _ => ⟨ms, hms, ?_⟩⟩
      · show served ++ (c.inbound ++ [frame]) ++ ms = sent
        rw [← List.append_assoc, heq]
      · cases hg
      · show served ++ (c.inbound ++ [frame]) ++ [] ++ ms = sent
        rw [List.append_nil, ← List.append_assoc, heq]
    · refine ⟨h.inOrder, fun hg => ?_, fun _ _ => ⟨ms, hms, heq⟩⟩
      cases hg

theorem Feeds.change (h : Feeds fifo c l served sent) {a : Action} {p : S × List Bytes}
    {traces : List Trace} (hc : Change (ends .b).recording c (l, answered) a c' p traces) :
    Feeds fifo c' p.1 served sent := by
  cases hc with
  | received hp hh hreceive =>
    obtain ⟨hr, -⟩ := recording_receive hreceive
    refine h.hand fun hreceiving => ?_
    obtain ⟨ms, hms, heq⟩ := h.flow hp hreceiving
    obtain ⟨rest, rfl, hrest⟩ := fifo.received hr hms
    refine ⟨rest, hrest, ?_⟩
    rw [hh, Option.toList_none, List.append_nil] at heq
    rw [← heq, List.append_assoc _ [_], List.singleton_append]
  | exhausted hp hh hreceive =>
    exact ⟨h.inOrder, h.gone, fun hrun => by cases hrun⟩
  | broken hp hh hreceive =>
    exact ⟨h.inOrder, h.gone, fun hrun => by cases hrun⟩
  | delivered hp hh hroom =>
    refine h.hand fun hreceiving => ?_
    obtain ⟨ms, hms, heq⟩ := h.flow hp hreceiving
    rw [hh] at heq
    exact ⟨ms, hms, heq⟩
  | sent hp hh ho hs =>
    refine h.of_inbound ?_ ?_ ?_ fun ms => fifo.send_keeps (recording_send hs).1
    · rfl
    · rfl
    · exact fun hrun => ⟨hrun, rfl⟩
  | unsent hp hh ho hs =>
    exact ⟨h.inOrder, h.gone, fun hrun => by cases hrun⟩
  | told hp hh hcl =>
    exact ⟨h.inOrder, h.gone, fun hrun => by cases hrun⟩
  | shut hp =>
    exact ⟨h.inOrder, h.gone, fun hrun => by cases hrun⟩
  | flushed hp ho hs =>
    refine h.of_inbound ?_ ?_ ?_ fun ms => fifo.send_keeps (recording_send hs).1
    · rfl
    · rfl
    · exact fun hrun => ⟨hrun, rfl⟩
  | lost hp ho hs =>
    refine h.of_inbound ?_ ?_ ?_ fun _ hms => hms
    · rfl
    · rfl
    · exact fun hrun => ⟨hrun, rfl⟩
  | ended hp ho =>
    exact ⟨h.inOrder, h.gone, fun hrun => by cases hrun⟩

/-- The host takes the next frame. -/
theorem Feeds.poll (h : Feeds fifo c l served sent) {frame : Bytes}
    (hp : c.poll = (c', .message frame)) : Feeds fifo c' l (served ++ [frame]) sent := by
  unfold Server.poll at hp
  cases hi : c.inbound with
  | nil =>
    simp only [hi, Prod.mk.injEq] at hp
    split_ifs at hp <;> cases hp.2
  | cons x rest =>
    simp only [hi, Prod.mk.injEq, Poll.message.injEq] at hp
    obtain ⟨rfl, rfl⟩ := hp
    have hmove : served ++ [x] ++ rest = served ++ c.inbound := by
      rw [hi, List.append_assoc, List.singleton_append]
    refine ⟨?_, fun hg => ?_, fun hrun hr => ?_⟩
    · show served ++ [x] ++ rest <+: sent
      rw [hmove]
      exact h.inOrder
    · rw [h.gone hg] at hi
      cases hi
    · obtain ⟨ms, hms, heq⟩ := h.flow hrun hr
      refine ⟨ms, hms, ?_⟩
      show served ++ [x] ++ rest ++ c.held.toList ++ ms = sent
      rw [hmove, heq]

/-- The frame that the host takes stands behind those it has served. -/
theorem Feeds.place (h : Feeds fifo c l served sent) {frame : Bytes}
    (hp : c.poll = (c', .message frame)) : sent[served.length]? = some frame := by
  obtain ⟨rest, hrest⟩ := (h.poll hp).inOrder
  rw [← hrest, List.append_assoc, List.append_assoc, List.getElem?_append_right le_rfl,
    Nat.sub_self]
  rfl

theorem Feeds.release (h : Feeds fifo c l served sent) : Feeds fifo c.release l served sent := by
  refine ⟨?_, fun _ => rfl, fun _ hr => by cases hr⟩
  show served ++ [] <+: sent
  rw [List.append_nil]
  exact (List.prefix_append _ _).trans h.inOrder

/-- The other end sends more. -/
theorem Feeds.extend (h : Feeds fifo c l served sent) {k : S} {out : List Bytes}
    (hk : ∀ ms, fifo.underway .b l ms → fifo.underway .b k (ms ++ out)) :
    Feeds fifo c k served (sent ++ out) := by
  refine ⟨h.inOrder.trans (List.prefix_append _ _), h.gone, fun hrun hr => ?_⟩
  obtain ⟨ms, hms, heq⟩ := h.flow hrun hr
  exact ⟨ms ++ out, hk ms hms, by rw [← List.append_assoc, heq]⟩

/-- What a change sends is on its way, and was written before. -/
theorem Change.link (fifo : Fifo ends Carries) {a : Action} {p : S × List Bytes}
    {traces : List Trace} (hc : Change (ends .b).recording c (l, answered) a c' p traces) :
    ∃ out, p.2 = answered ++ out ∧ (∀ g ∈ out ++ c'.outbound, g ∈ c.outbound) ∧
      ∀ ms, (∀ m ∈ out, Carries m) → fifo.underway .a l ms → fifo.underway .a p.1 (ms ++ out) := by
  have hquiet : ∀ k, (∀ ms, fifo.underway .a l ms → fifo.underway .a k ms) →
      ∀ ms, (∀ m ∈ ([] : List Bytes), Carries m) → fifo.underway .a l ms →
        fifo.underway .a k (ms ++ []) := by
    intro k hk ms _ h
    rw [List.append_nil]
    exact hk ms h
  have hhand : ∀ frame, (c.hand frame).outbound = c.outbound := by
    intro frame
    unfold Server.hand
    split_ifs <;> rfl
  cases hc with
  | @received _ frame hp hh hreceive =>
    obtain ⟨hr, hsent⟩ := recording_receive hreceive
    refine ⟨[], by rw [hsent, List.append_nil], ?_,
      hquiet p.1 fun ms h => fifo.receive_keeps (s := .b) hr h⟩
    rw [hhand]
    exact fun g hg => hg
  | exhausted hp hh hreceive =>
    obtain ⟨hr, hsent⟩ := recording_receive hreceive
    exact ⟨[], by rw [hsent, List.append_nil], fun g hg => hg,
      hquiet p.1 fun ms h => fifo.receive_keeps (s := .b) hr h⟩
  | broken hp hh hreceive =>
    obtain ⟨hr, hsent⟩ := recording_receive hreceive
    exact ⟨[], by rw [hsent, List.append_nil], fun g hg => hg,
      hquiet p.1 fun ms h => fifo.receive_keeps (s := .b) hr h⟩
  | @delivered frame hp hh hroom =>
    refine ⟨[], (List.append_nil _).symm, ?_, hquiet l fun ms h => h⟩
    rw [hhand]
    exact fun g hg => hg
  | @sent frame rest _ hp hh ho hs =>
    obtain ⟨hsend, hsent⟩ := recording_send hs
    refine ⟨[frame], hsent, ?_, fun ms hm h => fifo.sent (s := .b) hsend (hm frame (by simp)) h⟩
    rw [ho]
    exact fun g hg => hg
  | @unsent frame rest _ hp hh ho hs =>
    refine ⟨[], (List.append_nil _).symm, ?_, hquiet l fun ms h => h⟩
    rw [ho]
    exact fun g hg => List.mem_cons_of_mem _ hg
  | told hp hh hcl =>
    exact ⟨[], (List.append_nil _).symm, fun g hg => hg, hquiet l fun ms h => h⟩
  | @shut e hp =>
    refine ⟨[], (List.append_nil _).symm, fun g hg => ?_, hquiet l fun ms h => h⟩
    change g ∈ (if e = .finished then c.outbound else []) at hg
    split_ifs at hg
    · exact hg
    · cases hg
  | @flushed e frame rest _ hp ho hs =>
    obtain ⟨hsend, hsent⟩ := recording_send hs
    refine ⟨[frame], hsent, ?_, fun ms hm h => fifo.sent (s := .b) hsend (hm frame (by simp)) h⟩
    rw [ho]
    exact fun g hg => hg
  | lost hp ho hs =>
    refine ⟨[], (List.append_nil _).symm, fun g hg => ?_, hquiet l fun ms h => h⟩
    cases hg
  | ended hp ho =>
    exact ⟨[], (List.append_nil _).symm, fun g hg => hg, hquiet _ fun ms h =>
      fifo.detach_keeps (s := .b) (fifo.shutdown_keeps (s := .b) h)⟩

end Callwire.Server
