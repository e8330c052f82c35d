import Callwire.Proofs.Server.Standing

/-!
# The life of a server connection

A server connection from its start on, with its host and with a peer that sends and
reads. The host receives frames and writes others until it closes the connection,
which uses it up; the socket can still be written to. Histories record what was
sent, received and written; nothing depends on them.
-/

set_option autoImplicit false

namespace Callwire.Server

structure Life (S T : Type) [Universe T] where
  link : S
  server : Server T
  fed : List Bytes
  polled : List Bytes
  written : List Bytes
  sent : List Bytes
  heard : List Bytes
  sawEnd : Bool

namespace Life

inductive Move (T : Type) [Universe T] (Fits : Bytes → Prop)
  | feed (m : Subtype Fits)
  | hear
  | poll
  | write (m : Subtype Fits)
  | store (values : Values T)
  | close
  | act (a : Action)

variable {S T : Type} [Universe T] {Fits : Bytes → Prop}

def start (link : S) : Life S T := ⟨link, .start, [], [], [], [], [], false⟩

def hear (ends : Side → Terminal S) (s : Life S T) : Option (Life S T) :=
  if s.sawEnd then none
  else
    match (ends .a).receive s.link with
    | (link, .message m) => some { s with link, heard := s.heard ++ [m] }
    | (_, .finished) => some { s with sawEnd := true }
    | _ => none

def poll (s : Life S T) : Option (Life S T) :=
  if s.server.closing then none
  else
    match s.server.poll with
    | (server, .message m) => some { s with server, polled := s.polled ++ [m] }
    | _ => none

def act (ends : Side → Terminal S) (s : Life S T) (a : Action) : Option (Life S T) :=
  (s.server.act (ends .b).recording a (s.link, s.sent)).map fun r =>
    { s with server := r.1, link := r.2.1.1, sent := r.2.1.2 }

def step (ends : Side → Terminal S) (s : Life S T) : Move T Fits → Option (Life S T)
  | .feed m =>
    match (ends .a).send s.link m.1 with
    | .ok link => some { s with link, fed := s.fed ++ [m.1] }
    | .error _ => none
  | .hear => s.hear ends
  | .poll => s.poll
  | .write m =>
    match Socket.write s.server m.1 with
    | .ok server => some { s with server, written := s.written ++ [m.1] }
    | .error _ => none
  | .store values => some { s with server := { s.server with values } }
  | .close => if s.server.closing then none else some { s with server := s.server.requestClose }
  | .act a => s.act ends a

def run (ends : Side → Terminal S) (s : Life S T) : List (Move T Fits) → Life S T
  | [] => s
  | move :: moves => run ends ((s.step ends move).getD s) moves

def Settled (ends : Side → Terminal S) (s : Life S T) : Prop :=
  (∀ a, s.act ends a = none) ∧ s.hear ends = none

section
variable {ends : Side → Terminal S} {s s' : Life S T}

inductive Moved (ends : Side → Terminal S) (Fits : Bytes → Prop) (s : Life S T) : Life S T → Prop
  | fed {m : Bytes} {link : S} : Fits m → (ends .a).send s.link m = .ok link →
      Moved ends Fits s { s with link, fed := s.fed ++ [m] }
  | heard {m : Bytes} {link : S} : s.sawEnd = false →
      (ends .a).receive s.link = (link, .message m) →
      Moved ends Fits s { s with link, heard := s.heard ++ [m] }
  | sawEnd {link : S} : (ends .a).receive s.link = (link, .finished) →
      Moved ends Fits s { s with sawEnd := true }
  | polled {m : Bytes} {rest : List Bytes} : s.server.closing = false →
      s.server.inbound = m :: rest → Moved ends Fits s
        { s with server := { s.server with inbound := rest }, polled := s.polled ++ [m] }
  | wrote {m : Bytes} : Fits m → s.server.isOpen = true → Moved ends Fits s
      { s with
        server := { s.server with outbound := s.server.outbound ++ [m] }
        written := s.written ++ [m] }
  | stored (values : Values T) : Moved ends Fits s { s with server := { s.server with values } }
  | closed : s.server.closing = false → Moved ends Fits s { s with server := s.server.requestClose }
  | acted {a : Action} {c : Server T} {p : S × List Bytes} {traces : List Trace} :
      Change (ends .b).recording s.server (s.link, s.sent) a c p traces →
      Moved ends Fits s { s with server := c, link := p.1, sent := p.2 }

theorem moved_of_hear (h : s.hear ends = some s') : Moved ends Fits s s' := by
  unfold hear at h
  split_ifs at h with hend
  rw [Bool.not_eq_true] at hend
  rcases hr : (ends .a).receive s.link with ⟨link, r⟩
  rw [hr] at h
  cases r with
  | message m =>
    cases h
    exact .heard hend hr
  | finished =>
    cases h
    exact .sawEnd hr
  | waiting => cases h
  | failed f => cases h

theorem moved_of_poll (h : s.poll = some s') : Moved ends Fits s s' := by
  unfold poll at h
  split_ifs at h with hclosing
  rw [Bool.not_eq_true] at hclosing
  unfold Server.poll at h
  cases hi : s.server.inbound with
  | nil =>
    simp only [hi] at h
    split_ifs at h
  | cons m rest =>
    simp only [hi] at h
    cases h
    exact .polled hclosing hi

theorem moved_of_step {move : Move T Fits} (h : s.step ends move = some s') :
    Moved ends Fits s s' := by
  cases move with
  | feed m =>
    simp only [step] at h
    cases hs : (ends .a).send s.link m.1 with
    | error f =>
      rw [hs] at h
      cases h
    | ok link =>
      rw [hs] at h
      cases h
      exact .fed m.2 hs
  | hear => exact moved_of_hear h
  | poll => exact moved_of_poll h
  | write m =>
    simp only [step, Socket.write] at h
    cases hopen : s.server.isOpen with
    | false => simp [hopen] at h
    | true =>
      simp only [hopen, if_true] at h
      cases h
      exact .wrote m.2 hopen
  | store values =>
    cases h
    exact .stored values
  | close =>
    simp only [step] at h
    split_ifs at h with hclosing
    rw [Bool.not_eq_true] at hclosing
    cases h
    exact .closed hclosing
  | act a =>
    obtain ⟨⟨c, p, traces⟩, hact, rfl⟩ := Option.map_eq_some_iff.mp h
    exact .acted (change_of_act hact)

/-- What every move keeps is kept by every run. -/
theorem run_keeps {P : Life S T → Prop}
    (hmoved : ∀ s s', P s → Moved ends Fits s s' → P s')
    (moves : List (Move T Fits)) (h : P s) : P (s.run ends moves) := by
  induction moves generalizing s with
  | nil => exact h
  | cons move moves ih =>
    apply ih
    cases hs : s.step ends move with
    | none => exact h
    | some t => exact hmoved s t h (moved_of_step hs)

end

/-! ## What every move keeps -/

variable {ends : Side → Terminal S} {Carries : Bytes → Prop} {fifo : Fifo ends Carries}
  {att : Attended fifo Fits} {s s' : Life S T}

structure Sound (att : Attended fifo Fits) (s : Life S T) : Prop where
  feeds : Feeds fifo s.server s.link s.polled s.fed
  hears : ∃ ms, fifo.underway .a s.link ms ∧ s.heard ++ ms = s.sent
  standing : Standing att s.server s.link s.sent s.written
  fits : ∀ m ∈ s.fed ++ s.written, Fits m
  sawEnd : s.sawEnd = true → (∃ e, s.server.phase = .ended e) ∧ s.heard = s.sent

theorem sound_start {link : S} (hlink : att.present link) (ha : fifo.underway .a link [])
    (hb : fifo.underway .b link []) : Sound att (start link : Life S T) where
  feeds := ⟨List.prefix_rfl, fun _ => rfl, fun _ _ => ⟨[], hb, rfl⟩⟩
  hears := ⟨[], ha, rfl⟩
  standing :=
    standing_of_present rfl (Nat.zero_le _) trivial (by simp [start, Server.start]) hlink rfl
  fits := fun m hm => by cases hm
  sawEnd := fun h => by cases h

theorem Sound.fed (h : Sound att s) {m : Bytes} (hm : Fits m) {link : S}
    (hs : (ends .a).send s.link m = .ok link) :
    Sound att { s with link, fed := s.fed ++ [m] } := by
  obtain ⟨ms, hms, hheard⟩ := h.hears
  constructor
  · exact h.feeds.extend fun _ hcoming => fifo.sent (s := .a) hs (att.carries hm) hcoming
  · exact ⟨ms, fifo.send_keeps (s := .a) hs hms, hheard⟩
  · refine { h.standing with present := ?_, ended := ?_ }
    · intro hnot
      obtain ⟨k, hk, hpresent⟩ := att.send (s := .a) (h.standing.present hnot) hm
      rw [hs, Except.ok.injEq] at hk
      exact hk ▸ hpresent
    · intro e he
      obtain ⟨hleft, ho⟩ := h.standing.ended e he
      exact ⟨att.left_send hleft hs, ho⟩
  · intro x hx
    simp only [List.mem_append, List.mem_singleton] at hx
    rcases hx with (hx | rfl) | hx
    · exact h.fits x (List.mem_append_left _ hx)
    · exact hm
    · exact h.fits x (List.mem_append_right _ hx)
  · exact h.sawEnd

/-- The frames that are on their way to the peer fit. -/
theorem Sound.fits_heard (h : Sound att s) {ms : List Bytes} (hms : s.heard ++ ms = s.sent) :
    ∀ m ∈ ms, Fits m := by
  intro m hm
  apply h.fits m
  rw [← h.standing.sends, ← hms]
  simp [hm]

theorem Sound.standing_heard (h : Sound att s) :
    Standing att s.server ((ends .a).receive s.link).1 s.sent s.written := by
  obtain ⟨ms, hms, hheard⟩ := h.hears
  have hfits := h.fits_heard hheard
  refine { h.standing with present := ?_, ended := ?_ }
  · intro hnot
    exact (att.receive (h.standing.present hnot) hms hfits).1
  · intro e he
    obtain ⟨hleft, ho⟩ := h.standing.ended e he
    exact ⟨(att.left_receive hleft hms hfits).1, ho⟩

theorem Sound.heard (h : Sound att s) (hend : s.sawEnd = false) {link : S} {m : Bytes}
    (hr : (ends .a).receive s.link = (link, .message m)) :
    Sound att { s with link, heard := s.heard ++ [m] } := by
  obtain ⟨ms, hms, hheard⟩ := h.hears
  have hstanding := h.standing_heard
  rw [hr] at hstanding
  obtain ⟨rest, rfl, hrest⟩ := fifo.received hr hms
  constructor
  · refine h.feeds.of_inbound ?_ ?_ ?_ fun _ hcoming => fifo.receive_keeps (s := .a) hr hcoming
    · rfl
    · rfl
    · exact fun hp => ⟨hp, rfl⟩
  · exact ⟨rest, hrest, by rw [List.append_assoc, List.singleton_append, hheard]⟩
  · exact hstanding
  · exact h.fits
  · intro hnow
    change s.sawEnd = true at hnow
    rw [hend] at hnow
    cases hnow

/-- The end comes after that of the task, and after all that was sent. -/
theorem Sound.saw_end (h : Sound att s) {link : S}
    (hr : (ends .a).receive s.link = (link, .finished)) :
    Sound att { s with sawEnd := true } := by
  obtain ⟨ms, hms, hheard⟩ := h.hears
  have hfits := h.fits_heard hheard
  have hended : ∃ e, s.server.phase = .ended e := by
    by_contra hnot
    have hpresent := h.standing.present fun e he => hnot ⟨e, he⟩
    have hfound := (att.receive hpresent hms hfits).2
    rw [hr] at hfound
    cases ms <;> cases hfound
  have hnil : ms = [] := by
    obtain ⟨e, he⟩ := hended
    have hfound := (att.left_receive (h.standing.ended e he).1 hms hfits).2
    rw [hr] at hfound
    cases ms with
    | nil => rfl
    | cons m rest => cases hfound
  rw [hnil, List.append_nil] at hheard
  exact ⟨h.feeds, h.hears, h.standing, h.fits, fun _ => ⟨hended, hheard⟩⟩

theorem Sound.polled (h : Sound att s) {m : Bytes} {rest : List Bytes}
    (hi : s.server.inbound = m :: rest) :
    Sound att
      { s with server := { s.server with inbound := rest }, polled := s.polled ++ [m] } := by
  have hpoll : s.server.poll = ({ s.server with inbound := rest }, .message m) := by
    simp only [Server.poll, hi]
  have hroom := h.standing.room
  rw [hi, List.length_cons] at hroom
  constructor
  · exact h.feeds.poll hpoll
  · exact h.hears
  · exact { h.standing with room := Nat.le_of_succ_le hroom }
  · exact h.fits
  · exact h.sawEnd

theorem Sound.wrote (h : Sound att s) {m : Bytes} (hm : Fits m) (hopen : s.server.isOpen = true) :
    Sound att { s with
      server := { s.server with outbound := s.server.outbound ++ [m] }
      written := s.written ++ [m] } := by
  have hnot : ∀ e, s.server.phase ≠ .ended e := by
    intro e he
    simp [isOpen, he] at hopen
  constructor
  · refine h.feeds.of_inbound ?_ ?_ ?_ fun _ hcoming => hcoming
    · rfl
    · rfl
    · exact fun hp => ⟨hp, rfl⟩
  · exact h.hears
  · refine standing_of_present h.standing.receiving h.standing.room h.standing.orderly hnot
      (h.standing.present hnot) ?_
    rw [← List.append_assoc, h.standing.sends]
  · intro x hx
    simp only [List.mem_append, List.mem_singleton] at hx
    rcases hx with hx | hx | rfl
    · exact h.fits x (List.mem_append_left _ hx)
    · exact h.fits x (List.mem_append_right _ hx)
    · exact hm
  · exact h.sawEnd

/-- Values have no part in it. -/
theorem Sound.stored (h : Sound att s) (values : Values T) :
    Sound att { s with server := { s.server with values } } := by
  constructor
  · refine h.feeds.of_inbound ?_ ?_ ?_ fun _ hcoming => hcoming
    · rfl
    · rfl
    · exact fun hp => ⟨hp, rfl⟩
  · exact h.hears
  · exact ⟨h.standing.receiving, h.standing.room, h.standing.orderly, h.standing.present,
      h.standing.ended, h.standing.sends⟩
  · exact h.fits
  · exact h.sawEnd

theorem Sound.closed (h : Sound att s) : Sound att { s with server := s.server.requestClose } := by
  have horderly : Orderly s.server.requestClose := by
    have hbefore := h.standing.orderly
    unfold Orderly requestClose at *
    cases hp : s.server.phase with
    | running => trivial
    | leaving e | flushing e | ended e =>
      rw [hp] at hbefore
      exact ⟨hbefore.1, rfl⟩
  constructor
  · refine h.feeds.of_inbound ?_ ?_ ?_ fun _ hcoming => hcoming
    · rfl
    · rfl
    · exact fun hp => ⟨hp, rfl⟩
  · exact h.hears
  · exact ⟨h.standing.receiving, h.standing.room, horderly, h.standing.present, h.standing.ended,
      h.standing.sends⟩
  · exact h.fits
  · exact h.sawEnd

theorem Sound.acted (h : Sound att s) {a : Action} {c : Server T} {p : S × List Bytes}
    {traces : List Trace}
    (hc : Change (ends .b).recording s.server (s.link, s.sent) a c p traces) :
    Sound att { s with server := c, link := p.1, sent := p.2 } := by
  have hwritten : ∀ m ∈ s.written, Fits m := fun m hm => h.fits m (List.mem_append_right _ hm)
  have hcoming : s.server.phase = .running →
      ∃ ms, fifo.underway .b s.link ms ∧ ∀ m ∈ ms, Fits m := by
    intro hp
    obtain ⟨ms, hms, hfed⟩ := h.feeds.flow hp h.standing.receiving
    refine ⟨ms, hms, fun m hm => h.fits m (List.mem_append_left _ ?_)⟩
    rw [← hfed]
    exact List.mem_append_right _ hm
  obtain ⟨out, hsent, hout, hgoing⟩ := hc.link fifo
  obtain ⟨ms, hms, hheard⟩ := h.hears
  have hcarries : ∀ m ∈ out, Carries m := by
    intro m hm
    apply att.carries
    apply hwritten
    rw [← h.standing.sends]
    exact List.mem_append_right _ (hout m (List.mem_append_left _ hm))
  constructor
  · exact h.feeds.change hc
  · exact ⟨ms ++ out, hgoing ms hcarries hms, by rw [← List.append_assoc, hheard, hsent]⟩
  · exact h.standing.change hwritten hcoming hc
  · exact h.fits
  · intro hend
    obtain ⟨⟨e, he⟩, -⟩ := h.sawEnd hend
    exact absurd he (hc.not_ended e)

theorem Sound.moved (h : Sound att s) (hm : Moved ends Fits s s') : Sound att s' := by
  cases hm with
  | fed hfits hs => exact h.fed hfits hs
  | heard hend hr => exact h.heard hend hr
  | sawEnd hr => exact h.saw_end hr
  | polled hopen hi => exact h.polled hi
  | wrote hfits hopen => exact h.wrote hfits hopen
  | stored values => exact h.stored values
  | closed hopen => exact h.closed
  | acted hc => exact h.acted hc

theorem Sound.run (h : Sound att s) (moves : List (Move T Fits)) : Sound att (s.run ends moves) :=
  run_keeps (fun _ _ h hm => Sound.moved h hm) moves h

end Life

end Callwire.Server
