import Callwire.Proofs.Push.Flow

/-!
# Every callback is called once

A push calls each callback that was registered before the client came to it, once and
with what the server has emitted, in the order in which their listeners were registered.
The listener of a callback that subscribes is that of its subscriber.
-/

set_option autoImplicit false

namespace Callwire.Sample
open Ticker Registrations

variable {τ : Type}

structure Fair (p : Push) (before during : List (Registration τ))
    (calls : List (τ × Seen)) : Prop where
  all : (called before p).Sublist calls
  only : calls.Sublist (called (before ++ during) p)
  once : ∃ extra, calls.Perm (before.flatMap (Registration.due p) ++ extra) ∧
    extra.Subperm (during.flatMap (Registration.due p))

theorem fair_of_sublists {p : Push} {before during : List (Registration τ)}
    {calls : List (τ × Seen)} (h : orderly 0 (before ++ during) = true)
    (hall : (called before p).Sublist calls)
    (honly : calls.Sublist (called (before ++ during) p)) : Fair p before during calls := by
  have hbefore := called_perm (orderly_of_front h (List.prefix_append _ _)) p
  obtain ⟨extra, hextra⟩ := hall.exists_perm_append
  have hcalls := hextra.trans (hbefore.append_right extra)
  refine ⟨hall, honly, extra, hcalls, ?_⟩
  have htotal := hcalls.symm.subperm.trans (honly.subperm.trans (called_perm h p).subperm)
  rw [List.flatMap_append] at htotal
  exact (List.subperm_append_left _).mp htotal

/-- If nothing is registered meanwhile, the order of registration is all there is to it. -/
theorem Fair.eq_called {p : Push} {before : List (Registration τ)} {calls : List (τ × Seen)}
    (h : Fair p before [] calls) : calls = called before p := by
  have honly := h.only
  rw [List.append_nil] at honly
  exact honly.antisymm h.all

def Processed.Answers (x : Processed τ) (w : Written) : Prop :=
  match w.source with
  | .emitted e => ∃ p, e.push? = some p ∧ Frame.decode .client w.frame = .ok (.push p) ∧
      Fair p x.before x.during x.calls
  | .answered => (∃ r, Frame.decode .client w.frame = .ok (.response r)) ∧ x.calls = []

def Processed.Told (x : Processed τ) : Prop :=
  match Push.read? x.frame with
  | some p => Fair p x.before x.during x.calls
  | none => x.calls = []

theorem Processed.Told.answers {x : Processed τ} (h : x.Told) {w : Written} (hw : w.Readable)
    (hframe : w.frame = x.frame) : x.Answers w := by
  unfold Processed.Told at h
  unfold Written.Readable at hw
  unfold Processed.Answers
  rw [← hframe] at h
  cases hs : w.source with
  | emitted e =>
    rw [hs] at hw
    obtain ⟨p, hp, hdecode⟩ := hw
    rw [(Push.read?_eq_some_iff _ p).mpr hdecode] at h
    exact ⟨p, hp, hdecode, h⟩
  | answered =>
    rw [hs] at hw
    obtain ⟨r, hdecode⟩ := hw
    rw [Push.read?, hdecode] at h
    exact ⟨⟨r, hdecode⟩, h⟩

namespace Broadcast

variable {T σ L M : Type} [Universe T] {Carries : Bytes → Prop}
  {fifo : Fifo Link.terminal Carries} {service : CallService σ M} {s s' : Broadcast T σ L M τ}

structure Sound (fifo : Fifo Link.terminal Carries) (s : Broadcast T σ L M τ) : Prop where
  flow : Flow fifo s.session s.written (s.processed.map (·.frame))
  hub : s.session.client.hub = hub s.registered
  orderly : orderly 0 s.registered = true
  heard : s.heard = s.processed.flatMap (·.calls)
  told : ∀ x ∈ s.processed, x.Told
  known : ∀ x ∈ s.processed, x.before ++ x.during <+: s.registered

theorem sound_start {link : Link} (timeout : Option Nat) (state : σ) (logger : L)
    (ha : fifo.underway .a link []) (hb : fifo.underway .b link []) :
    Sound fifo (start link timeout state logger : Broadcast T σ L M τ) where
  flow := flow_start timeout state logger ha hb
  hub := rfl
  orderly := rfl
  heard := rfl
  told := fun x hx => by cases hx
  known := fun x hx => by cases hx

/-- The session goes on, and listeners neither learn of it nor have a part in it. -/
theorem Sound.of_flow (h : Sound fifo s) {next : Session Link T σ (Hub τ) L M}
    {written : List Written} (hf : Flow fifo next written (s.processed.map (·.frame)))
    (hh : next.client.hub = s.session.client.hub) :
    Sound fifo { s with session := next, written } :=
  ⟨hf, hh.trans h.hub, h.orderly, h.heard, h.told, h.known⟩

theorem Sound.register (h : Sound fifo s) {r : Registration τ}
    (hr : Registrations.orderly 0 (s.registered ++ [r]) = true) :
    Sound fifo { s with
      session := { s.session with
        client := { s.session.client with hub := r.apply s.session.client.hub } }
      registered := s.registered ++ [r] } := by
  refine ⟨?_, ?_, hr, h.heard, h.told, fun x hx => (h.known x hx).trans (List.prefix_append _ _)⟩
  · exact h.flow.client (h.flow.asking.of_calls h.flow.asking.numbered (List.Sublist.refl _) id) id
  · show r.apply s.session.client.hub = Registrations.hub (s.registered ++ [r])
    rw [hub_append, h.hub]
    rfl

/-- Listeners learn of the push that has arrived, and of nothing else. -/
theorem seen_of_clientAct {u : Setup Link (Hub τ) (τ × Seen) σ M} (hu : u.ends = Link.terminal)
    {s s' : Session Link T σ (Hub τ) L M} {a : Client.Action} (hs : s.clientAct u a = some s') :
    match (Client.arrival (Link.terminal .a) s.link a).bind Push.read? with
    | some q => s'.client.hub = (u.deliver s.client.hub q).hub ∧
        seen u s a = events (u.deliver s.client.hub q).effects
    | none => s'.client.hub = s.client.hub ∧ seen u s a = [] := by
  obtain ⟨⟨c, p, effects⟩, hact, rfl⟩ := Option.map_eq_some_iff.mp hs
  have hseen : seen u s a = events effects := by simp only [seen, hact]
  rw [hu] at hact
  rw [hseen]
  exact (Client.change_of_act hact).hears

/-- The client is done with a frame. -/
theorem Sound.process (h : Sound fifo s) {next : Session Link T σ (Hub τ) L M} {frame : Bytes}
    {during : List (Registration τ)} {calls : List (τ × Seen)}
    (hf : Flow fifo next s.written (s.processed.map (·.frame) ++ [frame]))
    (hr : Registrations.orderly 0 (s.registered ++ during) = true)
    (hh : next.client.hub = Registrations.hub (s.registered ++ during))
    (ht : (⟨frame, s.registered, during, calls⟩ : Processed τ).Told) :
    Sound fifo { s with
      session := next
      registered := s.registered ++ during
      processed := s.processed ++ [⟨frame, s.registered, during, calls⟩]
      heard := s.heard ++ calls } := by
  refine ⟨?_, hh, hr, ?_, fun x hx => ?_, fun x hx => ?_⟩
  · rw [List.map_append, List.map_singleton]
    exact hf
  · rw [List.flatMap_append, List.flatMap_singleton, h.heard]
  · rcases List.mem_append.mp hx with hx | hx
    · exact h.told x hx
    · rw [List.mem_singleton.mp hx]
      exact ht
  · rcases List.mem_append.mp hx with hx | hx
    · exact (h.known x hx).trans (List.prefix_append _ _)
    · rw [List.mem_singleton.mp hx]

theorem Sound.clientAct (h : Sound fifo s) {a : Client.Action}
    {amid : List (List (Registration τ))}
    (hr : Registrations.orderly 0 (s.registered ++ amid.flatten) = true)
    (hs : s.clientAct service a amid = some s')
    (hc : ∀ m ∈ s'.session.sent ++ s'.session.answered, Carries m) : Sound fifo s' := by
  obtain ⟨next, hact, rfl⟩ := Option.map_eq_some_iff.mp hs
  have hflow := h.flow.clientAct rfl hact hc
  have hseen := seen_of_clientAct rfl hact
  cases harrival : Client.arrival (Link.terminal .a) s.session.link a with
  | none =>
    rw [harrival] at hflow hseen
    obtain ⟨hhub, hnone⟩ := hseen
    rw [Option.toList_none, List.append_nil] at hflow
    simp only [hnone, Option.bind_none, Option.isSome_none, Bool.false_eq_true, if_false,
      Option.toList_none, List.map_nil, List.append_nil]
    exact h.of_flow hflow hhub
  | some frame =>
    rw [harrival, Option.bind_some] at hseen
    rw [harrival, Option.toList_some] at hflow
    simp only [Option.bind_some, Option.toList_some, List.map_singleton]
    rcases Option.eq_none_or_eq_some (Push.read? frame) with hread | ⟨p, hread⟩
    · rw [hread] at hseen
      simp only [hread, Option.isSome_none, Bool.false_eq_true, if_false]
      refine h.process hflow ?_ ?_ ?_
      · rw [List.append_nil]
        exact h.orderly
      · rw [List.append_nil, hseen.1, h.hub]
      · simp only [Processed.Told, hread]
        exact hseen.2
    · rw [hread] at hseen
      have hdelivered := delivered_amid hr p
      rw [← h.hub] at hdelivered
      simp only [hread, Option.isSome_some, if_true]
      refine h.process hflow hr ?_ ?_
      · rw [hseen.1]
        exact hdelivered.hub
      · simp only [Processed.Told, hread]
        rw [hseen.2]
        exact fair_of_sublists hr hdelivered.all hdelivered.only

theorem Sound.aside [Logger L] (h : Sound fifo s) {m : Aside}
    {next : Session Link T σ (Hub τ) L M}
    (hs : s.session.step (setup service []) m.move = some next)
    (hc : ∀ m ∈ next.sent ++ next.answered, Carries m) :
    Sound fifo { s with session := next } := by
  have hasking := h.flow.asking
  have hserving := h.flow.serving
  cases m with
  | call name payload =>
    cases hs
    refine h.of_flow (h.flow.call name payload) ?_
    show ((s.session.client.submit (ε := Empty) _).1).hub = _
    unfold Client.submit
    cases Frame.checkName name <;> rfl
  | giveUp caller =>
    cases hs
    exact h.of_flow (h.flow.client (hasking.abandon caller) id) rfl
  | configure timeout =>
    cases hs
    exact h.of_flow (h.flow.client
      (hasking.of_calls hasking.numbered (List.Sublist.refl _) id) id) rfl
  | closeClient =>
    cases hs
    exact h.of_flow (h.flow.client
      (hasking.of_calls hasking.numbered (List.Sublist.refl _) id) id) rfl
  | closeServer =>
    cases hs
    exact h.of_flow (h.flow.host ⟨hserving.inOrder, hserving.gone, hserving.flow⟩ rfl rfl) rfl
  | release =>
    cases hs
    exact h.of_flow (h.flow.host hserving.release rfl rfl) rfl
  | server a =>
    obtain ⟨r, hact, heq⟩ := Option.map_eq_some_iff.mp hs
    refine h.of_flow (h.flow.serverAct rfl hs hc) ?_
    rw [← heq]
  | pass time =>
    cases hs
    exact h.of_flow ⟨hasking, hserving, h.flow.sends, h.flow.readable, h.flow.inOrder,
      h.flow.coming⟩ rfl

theorem Sound.written (h : Sound fifo s) {i : Nat} {x : Processed τ}
    (hx : s.processed[i]? = some x) :
    ∃ w : Written, s.written[i]? = some w ∧ w.frame = x.frame ∧ x.Answers w := by
  obtain ⟨rest, hrest⟩ := h.flow.inOrder.trans h.flow.sends.sent_front
  have hframe : (s.written.map (·.frame))[i]? = some x.frame := by
    rw [← hrest]
    exact Calls.getElem?_of_append (by rw [List.getElem?_map, hx]; rfl) rest
  rw [List.getElem?_map] at hframe
  obtain ⟨w, hw, hsame⟩ := Option.map_eq_some_iff.mp hframe
  have hread := h.flow.readable w (List.mem_of_getElem? hw)
  exact ⟨w, hw, hsame, (h.told x (List.mem_of_getElem? hx)).answers hread hsame⟩

structure Later (s s' : Broadcast T σ L M τ) : Prop where
  frames : Session.Grows s.session s'.session
  registered : s.registered <+: s'.registered
  processed : ∃ rest, s'.processed = s.processed ++ rest ∧
    ∀ x ∈ rest, s.registered <+: x.before

theorem Later.of_session
    (hf : Session.Grows s.session s'.session) (hr : s.registered <+: s'.registered)
    (hp : s'.processed = s.processed) : Later s s' :=
  ⟨hf, hr, [], by rw [hp, List.append_nil], fun x hx => by cases hx⟩

theorem Later.refl (s : Broadcast T σ L M τ) : Later s s :=
  ⟨.of_eq rfl rfl rfl, List.prefix_rfl, [], (List.append_nil _).symm, fun x hx => by cases hx⟩

theorem Later.trans {t : Broadcast T σ L M τ} (h : Later s s') (h' : Later s' t) : Later s t := by
  obtain ⟨rest, hrest, hbefore⟩ := h.processed
  obtain ⟨more, hmore, hafter⟩ := h'.processed
  refine ⟨h.frames.trans h'.frames, h.registered.trans h'.registered, rest ++ more, ?_,
    fun x hx => ?_⟩
  · rw [hmore, hrest, List.append_assoc]
  · rcases List.mem_append.mp hx with hx | hx
    · exact hbefore x hx
    · exact h.registered.trans (hafter x hx)

section
variable [Logger L]

theorem client_of_serve {u : Setup Link (Hub τ) (τ × Seen) σ M}
    {s s' : Session Link T σ (Hub τ) L M} (hs : s.serve u = some s') : s'.client = s.client := by
  unfold Session.serve at hs
  split at hs <;> cases hs
  rfl

theorem Sound.step (h : Sound fifo s) {move : Move τ} (hs : s.step service move = some s')
    (hc : ∀ m ∈ s'.session.sent ++ s'.session.answered, Carries m) : Sound fifo s' := by
  cases move with
  | register r =>
    simp only [Broadcast.step] at hs
    split_ifs at hs with hr
    cases hs
    exact h.register hr
  | emit e =>
    cases hs
    exact h.of_flow (h.flow.emit e) rfl
  | serve =>
    obtain ⟨next, hserve, rfl⟩ := Option.map_eq_some_iff.mp hs
    exact h.of_flow (h.flow.serve hserve) (by rw [client_of_serve hserve])
  | client a amid =>
    simp only [Broadcast.step] at hs
    split_ifs at hs with hr
    exact h.clientAct hr hs hc
  | aside m =>
    obtain ⟨next, hstep, rfl⟩ := Option.map_eq_some_iff.mp hs
    exact h.aside hstep hc

theorem later_of_step (fifo : Fifo Link.terminal Carries) {move : Move τ}
    (hs : s.step service move = some s') : Later s s' := by
  cases move with
  | register r =>
    simp only [step] at hs
    split_ifs at hs
    cases hs
    exact .of_session (.of_eq rfl rfl rfl) (List.prefix_append _ _) rfl
  | emit e =>
    cases hs
    exact .of_session (.of_eq rfl rfl rfl) List.prefix_rfl rfl
  | serve =>
    obtain ⟨next, hserve, rfl⟩ := Option.map_eq_some_iff.mp hs
    change s.session.step (setup service []) .serve = some next at hserve
    exact .of_session (Session.grows_of_step fifo hserve) List.prefix_rfl rfl
  | client a amid =>
    simp only [step] at hs
    split_ifs at hs
    obtain ⟨next, hact, rfl⟩ := Option.map_eq_some_iff.mp hs
    change s.session.step (setup service amid) (.client a) = some next at hact
    refine ⟨Session.grows_of_step fifo hact, List.prefix_append _ _, _, rfl, fun x hx => ?_⟩
    obtain ⟨frame, -, rfl⟩ := List.mem_map.mp hx
    exact List.prefix_rfl
  | aside m =>
    obtain ⟨next, hstep, rfl⟩ := Option.map_eq_some_iff.mp hs
    exact .of_session (Session.grows_of_step fifo hstep) List.prefix_rfl rfl

theorem later_run (fifo : Fifo Link.terminal Carries) (moves : List (Move τ))
    (s : Broadcast T σ L M τ) : Later s (s.run service moves) := by
  induction moves generalizing s with
  | nil => exact .refl s
  | cons move moves ih =>
    cases hs : s.step service move with
    | none =>
      rw [run, hs]
      exact ih s
    | some next =>
      rw [run, hs]
      exact (later_of_step fifo hs).trans (ih next)

theorem Sound.run (h : Sound fifo s) (moves : List (Move τ))
    (hc : ∀ m ∈ (s.run service moves).session.sent ++ (s.run service moves).session.answered,
      Carries m) : Sound fifo (s.run service moves) := by
  induction moves generalizing s with
  | nil => exact h
  | cons move moves ih =>
    cases hs : s.step service move with
    | none =>
      rw [Broadcast.run, hs] at hc ⊢
      exact ih h hc
    | some next =>
      rw [Broadcast.run, hs] at hc ⊢
      have hlater : Later next (next.run service moves) := later_run fifo moves next
      refine ih (h.step hs fun m hm => hc m ?_) hc
      rcases List.mem_append.mp hm with hm | hm
      · exact List.mem_append_left _ (hlater.frames.sent.subset hm)
      · exact List.mem_append_right _ (hlater.frames.answered.subset hm)

/-- An event that cannot be encoded or framed leaves a line in the log, and nothing
else. -/
theorem step_refused {e : Emission} (he : e.frame? = none) (s : Broadcast T σ L M τ) :
    ∃ logger, s.step service (.emit e) =
      some { s with session := { s.session with host := { s.session.host with logger } } } := by
  obtain ⟨line, hline⟩ := Emission.apply_refused he s.session.host
  refine ⟨Logger.log s.session.host.logger line, ?_⟩
  simp only [step, write, hline, Host.note, List.drop_length, List.map_nil, List.append_nil]

/-- The client processes what the server has written, in order. Each push calls the
callbacks that were registered before, once and with what was emitted, and nothing else
calls any. What cannot be encoded or framed is not written. `hcarried` leaves out only
frames of `2 ^ 32` bytes or more on a stream without a limit. -/
theorem pushes_call_each_callback_once (service : CallService σ M) (link : Link)
    (hlink : link.Fresh) (timeout : Option Nat) (state : σ) (logger : L) (moves : List (Move τ))
    (s : Broadcast T σ L M τ) (hs : s = (start link timeout state logger).run service moves)
    (hcarried : ∀ m ∈ s.session.sent ++ s.session.answered, link.Carries m) :
    (∀ (i : Nat) (x : Processed τ), s.processed[i]? = some x →
        ∃ w : Written, s.written[i]? = some w ∧ w.frame = x.frame ∧ x.Answers w) ∧
      s.heard = s.processed.flatMap (·.calls) ∧
      (∀ more : List (Move τ), ∃ rest, (s.run service more).processed = s.processed ++ rest ∧
        ∀ x ∈ rest, s.registered <+: x.before) ∧
      (∀ v p, (Emission.event v).push? = some p → v.event.decode p.payload = .ok v →
        ∀ index (tag : τ), Registration.due p (.subscribe index v.event tag) =
          [(tag, .value v)]) ∧
      ∀ e : Emission, e.frame? = none → ∃ logger, s.step service (.emit e) =
        some { s with session := { s.session with host := { s.session.host with logger } } } := by
  obtain ⟨fifo, ha, hb⟩ := hlink.fifo
  have hsound : Sound fifo s := by
    subst hs
    exact (sound_start timeout state logger ha hb).run moves hcarried
  refine ⟨fun i x hx => hsound.written hx, hsound.heard,
    fun more => (later_run fifo more s).processed, fun v p hp hv index tag => ?_,
    fun e he => step_refused he s⟩
  unfold Emission.push? at hp
  cases hbytes : v.encode with
  | error e =>
    simp only [hbytes] at hp
    cases hp
  | ok bytes =>
    simp only [hbytes] at hp
    cases hp
    simp only [Registration.due, if_true, Event.heard, hv, List.map_singleton]

end

/-- A subscriber listens beside a callback. While the first push calls them another
callback subscribes, and one comes too late for it. Between the pushes an event is
refused and a request answered. -/
def fanMoves : List (Move Nat) :=
  [.register (.attach 0), .register (.listen "tick" 1), .register (.subscribe 0 .tick 2),
    .aside (.call "raw" [1, 2]), .client .enqueue [], .client .take [], .aside (.server .receive),
    .emit (.event .tick), .emit (.event (.picky ⟨[0x6d]⟩)), .serve, .emit (.event .tick),
    .aside (.server .send), .aside (.server .send), .aside (.server .send),
    .client .receive [[.subscribe 0 .tick 4], [.listen "tick" 3]], .client .receive [],
    .client .receive []]

def fanRun : Broadcast Simulation.ValueType Echo RecordingLogger Echo.Method Nat :=
  (start (.memory .fresh) none ⟨0⟩ ⟨[]⟩).run Echo.service fanMoves

def lastPush : Processed Nat where
  frame := [116, 105, 99, 107, 0]
  before := [.attach 0, .listen "tick" 1, .subscribe 0 .tick 2, .subscribe 0 .tick 4,
    .listen "tick" 3]
  during := []
  calls := [(2, .value .tick), (4, .value .tick), (1, .bytes []), (3, .bytes [])]

theorem fan_run_calls_each_once :
    (Link.memory .fresh).Fresh ∧
      (∀ m ∈ fanRun.session.sent ++ fanRun.session.answered, (Link.memory .fresh).Carries m) ∧
      fanRun.processed.map (·.calls) =
        [[(2, .value .tick), (4, .value .tick), (1, .bytes [])], [], lastPush.calls] ∧
      fanRun.written.map (·.frame) = fanRun.processed.map (·.frame) ∧
      ∃ w : Written, fanRun.written[2]? = some w ∧ w.frame = lastPush.frame ∧
        lastPush.Answers w := by
  obtain ⟨hcalls, -⟩ := pushes_call_each_callback_once Echo.service (.memory .fresh) .memory none
    ⟨0⟩ (RecordingLogger.mk []) fanMoves fanRun rfl fun _ _ => trivial
  exact ⟨.memory, fun _ _ => trivial, rfl, rfl, hcalls 2 lastPush rfl⟩

def mixedRun : Broadcast Simulation.ValueType Echo RecordingLogger Echo.Method Nat :=
  (start (.memory .fresh) none ⟨0⟩ ⟨[]⟩).run Echo.service
    [.register (.attach 0), .register (.listen "tick" 1), .register (.subscribe 0 .tick 2),
      .emit (.event .tick), .aside (.server .send), .client .receive []]

/-- A callback that subscribes is called where its subscriber was attached, before one
that was registered earlier than itself. -/
theorem later_subscription_is_called_first :
    mixedRun.processed.map (·.before) =
        [[.attach 0, .listen "tick" 1, .subscribe 0 .tick 2]] ∧
      mixedRun.processed.map (·.calls) = [[(2, .value .tick), (1, .bytes [])]] ∧
      ¬ ∀ x ∈ mixedRun.processed, ∀ p, Push.read? x.frame = some p →
        x.calls = x.before.flatMap (Registration.due p) := by
  refine ⟨rfl, rfl, fun h => ?_⟩
  have hlast : mixedRun.processed = [⟨[116, 105, 99, 107, 0],
      [.attach 0, .listen "tick" 1, .subscribe 0 .tick 2], [],
      [(2, .value .tick), (1, .bytes [])]⟩] := rfl
  rw [hlast] at h
  have hcalls := h _ (List.mem_singleton_self _) ⟨"tick", []⟩ rfl
  exact absurd hcalls (by decide)

end Broadcast

end Callwire.Sample
