import Callwire.Proofs.Server.Sending
import Callwire.Proofs.Server.Standing
import Callwire.Proofs.Transport.Ends

/-!
# Delivery of what was written

A server connection between those who write to its socket and a peer that receives.
The host receives, closes, waits or goes away, the peer puts any bytes on their way,
shuts down or goes away, and the task acts, in any order. The frames that the socket
accepts reach the peer in that order, and all of them before a clean end.
-/

set_option autoImplicit false

namespace Callwire.Server

/-- Only the last thing a task does ends the way to its peer. -/
theorem Change.isEnded_of {T : Type} [Universe T] {c c' : Server T} {l : Link}
    {sent : List Bytes} {a : Action} {p : Link × List Bytes} {traces : List Trace}
    (hc : Change (Link.terminal .b).recording c (l, sent) a c' p traces)
    (hnot : ∀ e, c'.phase ≠ .ended e) : p.1.isEnded .a = l.isEnded .a := by
  have hreceive {r : Poll} (hr : (Link.terminal .b).recording.receive (l, sent) = (p, r)) :
      p.1.isEnded .a = l.isEnded .a := by
    have hkept := Link.isEnded_receive .b .a l
    have hlink : l.receive .b = (p.1, r) := (recording_receive hr).1
    rwa [hlink] at hkept
  cases hc with
  | received hp hh hr => exact hreceive hr
  | exhausted hp hh hr => exact hreceive hr
  | broken hp hh hr => exact hreceive hr
  | sent hp hh ho hs => exact Link.isEnded_send (recording_send hs).1 .a
  | flushed hp ho hs => exact Link.isEnded_send (recording_send hs).1 .a
  | delivered | unsent | told | shut | lost => rfl
  | @ended e hp ho => exact absurd rfl (hnot e)

structure Traffic (T : Type) [Universe T] where
  link : Link
  server : Server T
  owned : Bool
  accepted : List Bytes
  sent : List Bytes
  delivered : List Bytes
  sawEnd : Bool
  present : Bool
  faults : List TransportFault

namespace Traffic

inductive Move
  | write (m : Bytes)
  | feed (b : Bytes)
  | shut
  | leave
  | hear
  | poll
  | close
  | wait
  | drop
  | act (a : Action)

variable {T : Type} [Universe T]

def start (link : Link) : Traffic T := ⟨link, .start, true, [], [], [], false, true, []⟩

def hear (s : Traffic T) : Traffic T :=
  match s.link.receive .a with
  | (link, .message m) => { s with link, delivered := s.delivered ++ [m] }
  | (link, .finished) => { s with link, sawEnd := true }
  | (link, _) => { s with link }

def act (s : Traffic T) (a : Action) : Option (Traffic T) :=
  (s.server.act (Link.terminal .b).recording a (s.link, s.sent)).map fun r =>
    { s with
      server := r.1
      link := r.2.1.1
      sent := r.2.1.2
      faults := s.faults ++ (s.server.fault? (Link.terminal .b) s.link a).toList }

/-- What a move does, if it is possible. A host that closes the connection or waits for
its end uses it up, and may give up on either. -/
def step (s : Traffic T) : Move → Option (Traffic T)
  | .write m =>
    match Socket.write s.server m with
    | .ok server => some { s with server, accepted := s.accepted ++ [m] }
    | .error _ => none
  | .feed b =>
    match s.present, s.link.feed .a b with
    | true, .ok link => some { s with link }
    | _, _ => none
  | .shut => if s.present then some { s with link := s.link.shutdown .a } else none
  | .leave =>
    if s.present then some { s with link := s.link.detach .a, present := false } else none
  | .hear => if s.present then some s.hear else none
  | .poll => if s.owned then some { s with server := s.server.poll.1 } else none
  | .close =>
    if s.owned then some { s with server := s.server.requestClose, owned := false } else none
  | .wait => if s.owned then some { s with owned := false } else none
  | .drop => some { s with server := s.server.release, owned := false }
  | .act a => s.act a

def run (s : Traffic T) : List Move → Traffic T
  | [] => s
  | move :: moves => run ((s.step move).getD s) moves

inductive Moved (s : Traffic T) : Traffic T → Prop
  | wrote {m : Bytes} {server : Server T} : Socket.write s.server m = .ok server →
      Moved s { s with server, accepted := s.accepted ++ [m] }
  | fed {b : Bytes} {link : Link} : s.link.feed .a b = .ok link → Moved s { s with link }
  | shut : Moved s { s with link := s.link.shutdown .a }
  | left : Moved s { s with link := s.link.detach .a, present := false }
  | heard {m : Bytes} {link : Link} : s.present = true →
      s.link.receive .a = (link, .message m) →
      Moved s { s with link, delivered := s.delivered ++ [m] }
  | sawEnd {link : Link} : s.present = true → s.link.receive .a = (link, .finished) →
      Moved s { s with link, sawEnd := true }
  | looked {link : Link} {r : Poll} : s.link.receive .a = (link, r) → (∀ m, r ≠ .message m) →
      Moved s { s with link }
  | hosted {server : Server T} {owned : Bool} : server.phase = s.server.phase →
      server.outbound = s.server.outbound → Moved s { s with server, owned }
  | acted {a : Action} {c : Server T} {p : Link × List Bytes} {traces : List Trace} :
      Change (Link.terminal .b).recording s.server (s.link, s.sent) a c p traces →
      Moved s { s with
        server := c
        link := p.1
        sent := p.2
        faults := s.faults ++ (s.server.fault? (Link.terminal .b) s.link a).toList }

section
variable {s s' : Traffic T}

theorem moved_of_hear (hp : s.present = true) : Moved s s.hear := by
  unfold hear
  rcases hr : s.link.receive .a with ⟨link, r⟩
  cases r with
  | message m => exact .heard hp hr
  | finished => exact .sawEnd hp hr
  | waiting => exact .looked hr (by simp)
  | failed f => exact .looked hr (by simp)

theorem moved_of_poll (s : Traffic T) : Moved s { s with server := s.server.poll.1 } := by
  obtain ⟨hphase, houtbound⟩ := outbound_poll (c := s.server) rfl
  exact .hosted hphase houtbound

theorem moved_of_step {move : Move} (h : s.step move = some s') : Moved s s' := by
  cases move with
  | write m =>
    simp only [step] at h
    cases hw : Socket.write s.server m with
    | error f =>
      rw [hw] at h
      cases h
    | ok server =>
      rw [hw] at h
      cases h
      exact .wrote hw
  | feed b =>
    simp only [step] at h
    split at h
    · cases h
      exact .fed ‹_›
    · cases h
  | shut =>
    simp only [step] at h
    split_ifs at h
    cases h
    exact .shut
  | leave =>
    simp only [step] at h
    split_ifs at h
    cases h
    exact .left
  | hear =>
    simp only [step] at h
    split_ifs at h with hp
    cases h
    exact moved_of_hear hp
  | poll =>
    simp only [step] at h
    split_ifs at h
    cases h
    exact moved_of_poll s
  | close | wait =>
    simp only [step] at h
    split_ifs at h
    cases h
    exact .hosted rfl rfl
  | drop =>
    cases h
    exact .hosted rfl rfl
  | act a =>
    obtain ⟨⟨c, p, traces⟩, hact, rfl⟩ := Option.map_eq_some_iff.mp h
    exact .acted (change_of_act hact)

/-- What every move keeps is kept by every run. -/
theorem run_keeps {P : Traffic T → Prop} (hmoved : ∀ s s', P s → Moved s s' → P s')
    (moves : List Move) (h : P s) : P (s.run moves) := by
  induction moves generalizing s with
  | nil => exact h
  | cons move moves ih =>
    apply ih
    cases hs : s.step move with
    | none => exact h
    | some t => exact hmoved s t h (moved_of_step hs)

end

/-! ## What every move keeps -/

variable {Carries : Bytes → Prop} {fifo : Fifo Link.terminal Carries} {s s' : Traffic T}

structure Sound (fifo : Fifo Link.terminal Carries) (s : Traffic T) : Prop where
  sends : Sends (s.faults ≠ []) s.server s.sent s.accepted
  inOrder : s.delivered <+: s.sent
  coming : s.present = true → ∃ ms, fifo.underway .a s.link ms ∧ s.delivered ++ ms = s.sent
  going : (∀ e, s.server.phase ≠ .ended e) → s.link.isEnded .a = false
  rest : ∀ e, s.server.phase = .ended e → s.server.outbound = []
  sawEnd : s.sawEnd = true → (∃ e, s.server.phase = .ended e) ∧ s.delivered = s.sent

theorem sound_start {link : Link} (hlink : link.isEnded .a = false)
    (ha : fifo.underway .a link []) : Sound fifo (start link : Traffic T) where
  sends := sends_start _
  inOrder := List.prefix_rfl
  coming := fun _ => ⟨[], ha, rfl⟩
  going := fun _ => hlink
  rest := fun e he => by cases he
  sawEnd := fun h => by cases h

theorem Moved.sent_front (fifo : Fifo Link.terminal Carries) (hm : Moved s s') :
    s.sent <+: s'.sent := by
  cases hm with
  | acted hc =>
    obtain ⟨out, hsent, -, -⟩ := hc.link fifo
    exact ⟨out, hsent.symm⟩
  | wrote | fed | shut | left | heard | sawEnd | looked | hosted => exact List.prefix_rfl

theorem sent_run (fifo : Fifo Link.terminal Carries) (moves : List Move) (s : Traffic T) :
    s.sent <+: (s.run moves).sent :=
  run_keeps (P := fun t => s.sent <+: t.sent)
    (fun _ _ h hm => h.trans (hm.sent_front fifo)) moves List.prefix_rfl

theorem Sound.wrote (h : Sound fifo s) {m : Bytes} {server : Server T}
    (hw : Socket.write s.server m = .ok server) :
    Sound fifo { s with server, accepted := s.accepted ++ [m] } := by
  have hsends := h.sends.write hw
  obtain ⟨hopen, rfl⟩ := eq_of_write hw
  refine ⟨hsends, h.inOrder, h.coming, h.going, fun e he => ?_, h.sawEnd⟩
  change s.server.phase = .ended e at he
  simp [isOpen, he] at hopen

/-- What happens to the link leaves the way to the peer as it is. -/
theorem Sound.of_link (h : Sound fifo s) {link : Link} (present : Bool)
    (hp : present = true → s.present = true)
    (hms : present = true → ∀ ms, fifo.underway .a s.link ms → fifo.underway .a link ms)
    (hend : link.isEnded .a = s.link.isEnded .a) : Sound fifo { s with link, present } := by
  refine ⟨h.sends, h.inOrder, fun hnow => ?_, fun hnot => ?_, h.rest, h.sawEnd⟩
  · obtain ⟨ms, hcoming, heq⟩ := h.coming (hp hnow)
    exact ⟨ms, hms hnow ms hcoming, heq⟩
  · rw [hend]
    exact h.going hnot

theorem Sound.heard (h : Sound fifo s) (hp : s.present = true) {m : Bytes} {link : Link}
    (hr : s.link.receive .a = (link, .message m)) :
    Sound fifo { s with link, delivered := s.delivered ++ [m] } := by
  obtain ⟨ms, hms, heq⟩ := h.coming hp
  obtain ⟨rest, rfl, hrest⟩ := fifo.received (s := .a) hr hms
  have hmoved : s.delivered ++ [m] ++ rest = s.sent := by
    rw [List.append_assoc, List.singleton_append, heq]
  refine ⟨h.sends, ⟨rest, hmoved⟩, fun _ => ⟨rest, hrest, hmoved⟩, fun hnot => ?_, h.rest,
    fun hend => ?_⟩
  · have hkept := Link.isEnded_receive .a .a s.link
    rw [hr] at hkept
    rw [hkept]
    exact h.going hnot
  · -- after the end nothing was on its way
    have hall := (h.sawEnd hend).2
    rw [← heq] at hall
    simp at hall

theorem Sound.saw_end (h : Sound fifo s) (hclosing : Link.Closing fifo)
    (hp : s.present = true) {link : Link} (hr : s.link.receive .a = (link, .finished)) :
    Sound fifo { s with link, sawEnd := true } := by
  obtain ⟨ms, hms, heq⟩ := h.coming hp
  have hnil : ms = [] := hclosing.finished hr hms
  rw [hnil, List.append_nil] at heq
  have hended : ∃ e, s.server.phase = .ended e := by
    by_contra hnot
    have hopen := h.going fun e he => hnot ⟨e, he⟩
    rw [Link.isEnded_of_finished hr] at hopen
    cases hopen
  refine ⟨h.sends, h.inOrder, fun _ => ⟨[], ?_, ?_⟩, fun hnot => ?_, h.rest,
    fun _ => ⟨hended, heq⟩⟩
  · rw [hnil] at hms
    exact hclosing.kept hr (by simp) hms
  · rw [List.append_nil]
    exact heq
  · obtain ⟨e, he⟩ := hended
    exact absurd he (hnot e)

theorem Sound.acted (h : Sound fifo s) {a : Action} {c : Server T} {p : Link × List Bytes}
    {traces : List Trace}
    (hc : Change (Link.terminal .b).recording s.server (s.link, s.sent) a c p traces)
    (hcarried : ∀ m ∈ p.2, Carries m) :
    Sound fifo { s with
      server := c
      link := p.1
      sent := p.2
      faults := s.faults ++ (s.server.fault? (Link.terminal .b) s.link a).toList } := by
  obtain ⟨out, hsent, -, hgoing⟩ := hc.link fifo
  have hout : ∀ m ∈ out, Carries m := by
    intro m hm
    apply hcarried
    rw [hsent]
    exact List.mem_append_right _ hm
  refine ⟨?_, ?_, fun hp => ?_, fun hnot => ?_, fun e he => hc.outbound_ended he, fun hend => ?_⟩
  · refine (h.sends.change hc).mono fun hf => ?_
    rcases hf with hf | hf
    · simp [hf]
    · obtain ⟨f, hf⟩ := Option.isSome_iff_exists.mp hf
      simp [hf]
  · rw [hsent]
    exact h.inOrder.trans (List.prefix_append _ _)
  · obtain ⟨ms, hms, heq⟩ := h.coming hp
    exact ⟨ms ++ out, hgoing ms hout hms, by rw [← List.append_assoc, heq, hsent]⟩
  · rw [hc.isEnded_of hnot]
    exact h.going fun e => hc.not_ended e
  · obtain ⟨⟨e, he⟩, -⟩ := h.sawEnd hend
    exact absurd he (hc.not_ended e)

theorem Sound.moved (h : Sound fifo s) (hclosing : Link.Closing fifo) (hm : Moved s s')
    (hcarried : ∀ m ∈ s'.sent, Carries m) : Sound fifo s' := by
  cases hm with
  | wrote hw => exact h.wrote hw
  | fed hf => exact h.of_link s.present id (fun _ ms => hclosing.fed hf) (Link.isEnded_feed hf .a)
  | shut =>
    exact h.of_link s.present id (fun _ ms => hclosing.shut) (Link.isEnded_shutdown .a s.link)
  | left => exact h.of_link false (by simp) (by simp) (Link.isEnded_detach .a s.link)
  | heard hp hr => exact h.heard hp hr
  | sawEnd hp hr => exact h.saw_end hclosing hp hr
  | looked hr hnone =>
    have hend := Link.isEnded_receive .a .a s.link
    rw [hr] at hend
    exact h.of_link s.present id (fun _ ms => hclosing.kept hr hnone) hend
  | hosted hp ho =>
    refine ⟨h.sends.of_outbound hp ho, h.inOrder, h.coming, fun hnot => h.going ?_, fun e he => ?_,
      fun hend => ?_⟩
    · rwa [← hp]
    · rw [ho]
      exact h.rest e (hp ▸ he)
    · rw [hp]
      exact h.sawEnd hend
  | acted hc => exact h.acted hc hcarried

theorem Sound.run (h : Sound fifo s) (hclosing : Link.Closing fifo) (moves : List Move)
    (hcarried : ∀ m ∈ (s.run moves).sent, Carries m) : Sound fifo (s.run moves) := by
  induction moves generalizing s with
  | nil => exact h
  | cons move moves ih =>
    refine ih ?_ hcarried
    cases hs : s.step move with
    | none => exact h
    | some t =>
      refine h.moved hclosing (moved_of_step hs) fun m hm => hcarried m ?_
      rw [Traffic.run, hs]
      exact (sent_run fifo moves t).subset hm

/-- The queue stays closed, and nothing more is accepted. -/
theorem Moved.closed (hm : Moved s s') (hclosed : s.server.isOpen = false) :
    s'.server.isOpen = false ∧ s'.accepted = s.accepted := by
  cases hm with
  | wrote hw => simp [Socket.write, hclosed] at hw
  | fed | shut | left | heard | sawEnd | looked => exact ⟨hclosed, rfl⟩
  | hosted hp ho =>
    refine ⟨?_, rfl⟩
    rw [isOpen, hp]
    exact hclosed
  | acted hc =>
    refine ⟨?_, rfl⟩
    rw [Bool.eq_false_iff] at hclosed ⊢
    exact fun hopen => hclosed (hc.isOpen_of hopen)

theorem closed_run (hclosed : s.server.isOpen = false) (moves : List Move) :
    (s.run moves).server.isOpen = false ∧ (s.run moves).accepted = s.accepted := by
  refine run_keeps (P := fun t => t.server.isOpen = false ∧ t.accepted = s.accepted) ?_ moves
    ⟨hclosed, rfl⟩
  intro t t' ht hm
  obtain ⟨hstill, hsame⟩ := hm.closed ht.1
  exact ⟨hstill, hsame.trans ht.2⟩

/-- The peer receives the frames that the socket has accepted, in their order, and when
it sees the end it has all of them, unless the transport has failed. From the moment
the queue is closed no frame is accepted. `hcarried` leaves out only frames of `2 ^ 32`
bytes or more on a stream without a limit. -/
theorem accepted_frames_are_delivered (link : Link) (hlink : link.Fresh) (moves : List Move)
    (s : Traffic T) (hs : s = (start link).run moves) (hcarried : ∀ m ∈ s.sent, link.Carries m) :
    s.delivered <+: s.accepted ∧
      (s.sawEnd = true → s.faults = [] → s.delivered = s.accepted) ∧
      (s.sawEnd = true → s.server.isOpen = false) ∧
      (s.server.isOpen = false → ∀ more : List Move, (s.run more).accepted = s.accepted ∧
        ∀ m, Socket.write (s.run more).server m = .error (.plain .notConnected)) := by
  obtain ⟨fifo, hclosing, ha, -⟩ := hlink.closing
  have hsound : Sound fifo s := by
    subst hs
    exact (sound_start (hlink.isEnded .a) ha).run hclosing moves hcarried
  refine ⟨hsound.inOrder.trans hsound.sends.sent_front, fun hend hf => ?_, fun hend => ?_,
    fun hclosed more => ?_⟩
  · obtain ⟨⟨e, he⟩, hall⟩ := hsound.sawEnd hend
    have hsent := hsound.sends.of_not_failed (not_not_intro hf)
    rw [hsound.rest e he, List.append_nil] at hsent
    exact hall.trans hsent
  · obtain ⟨⟨e, he⟩, -⟩ := hsound.sawEnd hend
    simp [isOpen, he]
  · obtain ⟨hstill, hsame⟩ := closed_run hclosed more
    refine ⟨hsame, fun m => ?_⟩
    simp [Socket.write, hstill]

/-- Frames are written before and after the task looks at the sign to close; the last one
comes when the queue is closed. -/
def closingMoves : List Move :=
  [.write [1], .act .send, .feed [99, 111, 117, 110, 116, 0, 0, 0, 0, 1], .act .receive, .poll,
    .write [2], .close, .hear, .write [3], .act .close, .write [4], .feed [5], .act .shut,
    .write [6], .act .flush, .act .flush, .act .flush, .hear, .hear, .act .flush, .hear, .hear]

def closingRun : Traffic Simulation.ValueType := (start (.memory .fresh)).run closingMoves

theorem flushed_frames_are_delivered :
    (Link.memory .fresh).Fresh ∧ (∀ m ∈ closingRun.sent, (Link.memory .fresh).Carries m) ∧
      closingRun.sawEnd = true ∧ closingRun.faults = [] ∧
      closingRun.accepted = [[1], [2], [3], [4]] ∧ closingRun.delivered = [[1], [2], [3], [4]] ∧
      Socket.write closingRun.server [7] = .error (.plain .notConnected) := by
  have haccepted : closingRun.accepted = [[1], [2], [3], [4]] := rfl
  obtain ⟨-, hall, hclosed, hwrites⟩ := accepted_frames_are_delivered (.memory .fresh) .memory
    closingMoves closingRun rfl fun _ _ => trivial
  refine ⟨.memory, fun _ _ => trivial, rfl, rfl, haccepted, ?_, ?_⟩
  · rw [hall rfl rfl, haccepted]
  · exact (hwrites (hclosed rfl) []).2 [7]

end Traffic

end Callwire.Server
