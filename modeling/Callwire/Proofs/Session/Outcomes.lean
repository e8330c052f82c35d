import Callwire.Proofs.Session.Invariant
import Callwire.Proofs.Transport.Lengths
import Callwire.Simulation.World

/-!
# Outcomes of linked calls

Whatever the order of moves, the host serves the requests in the order in which
they were sent, and a caller that gets an answer gets the outcome of the one
execution of its own request.
-/

set_option autoImplicit false

namespace Callwire

namespace Session

variable {S T σ H L M ε : Type} [Universe T] {u : Setup S H ε σ M}
  {Carries : Bytes → Prop} {fifo : Fifo u.ends Carries} {s s' s'' : Session S T σ H L M}

structure Grows (s s' : Session S T σ H L M) : Prop where
  sent : s.sent <+: s'.sent
  answered : s.answered <+: s'.answered
  dispatched : s.dispatched <+: s'.dispatched

theorem Grows.of_eq (hs : s.sent = s'.sent) (ha : s.answered = s'.answered)
    (hd : s.dispatched = s'.dispatched) : Grows s s' :=
  ⟨by rw [hs], by rw [ha], by rw [hd]⟩

theorem Grows.trans (h : Grows s s') (h' : Grows s' s'') : Grows s s'' :=
  ⟨h.sent.trans h'.sent, h.answered.trans h'.answered, h.dispatched.trans h'.dispatched⟩

theorem Carried.of_grows (h : Carried Carries s') (hg : Grows s s') : Carried Carries s := by
  refine ⟨fun m hm => h.frames m ?_, fun d hd => h.messages d (hg.dispatched.subset hd)⟩
  rcases List.mem_append.mp hm with hm | hm
  · exact List.mem_append_left _ (hg.sent.subset hm)
  · exact List.mem_append_right _ (hg.answered.subset hm)

theorem sound_start {link : S} (hub : H) (timeout : Option Nat) (state : σ) (logger : L)
    (ha : fifo.underway .a link []) (hb : fifo.underway .b link []) :
    Sound u fifo (start link hub timeout state logger : Session S T σ H L M) where
  asking := Client.holds_start hub 0 timeout
  serving := ⟨List.prefix_rfl, fun _ => rfl, fun _ _ => ⟨[], hb, rfl⟩⟩
  executed := fun i d hd => by cases hd
  written := fun g hg => by cases hg
  coming := fun _ => ⟨[], ha, fun g hg => by cases hg⟩
  matched := fun caller r hr => by cases hr

def RanOnce (table : MethodTable M) (s : Session S T σ H L M) (caller : Nat) (name : String)
    (payload : Bytes) (result : Except ServiceError Bytes) : Prop :=
  ∃ (i : Nat) (frame : Bytes) (m : M), (s.taken.map (·.caller))[i]? = some caller ∧
    Request.encode ⟨name, Int32.ofNat (i + 1), payload⟩ = .ok frame ∧
    s.sent[i]? = some frame ∧ table.get? name = some m ∧
    s.dispatched[i]? = some ⟨frame, [⟨m, payload, result⟩]⟩

theorem Sound.ranOnce (h : Sound u fifo s) {caller : Nat} {r : CallResult}
    (hr : (caller, r) ∈ s.results) (hans : Answer r) :
    ∃ name payload, s.asked[caller]? = some (name, payload) ∧
      ∃ result, RanOnce u.service.table s caller name payload result ∧ r = reported result := by
  obtain ⟨i, call, d, m, result, hcall, hcaller, hd, hm, hexec, hrep⟩ := h.matched caller r hr hans
  have hmem : Client.identity call ∈ (s.taken ++ s.client.queue ++ s.client.blocked).map
      Client.identity :=
    List.mem_map_of_mem
      (List.mem_append_left _ (List.mem_append_left _ (List.mem_of_getElem? hcall)))
  have hknown := h.asking.owned.known _ hmem
  change s.asked[call.caller]? = some (call.method, call.payload) at hknown
  rw [hcaller] at hknown
  have hframe : s.sent[i]? = some d.frame := by
    have hprefix := (List.prefix_append _ _).trans h.serving.inOrder
    obtain ⟨rest, hrest⟩ := hprefix
    rw [← hrest]
    exact Calls.getElem?_of_append (by rw [List.getElem?_map, hd]; rfl) rest
  obtain ⟨call', hcall', henc⟩ := h.asking.frames i d.frame hframe
  rw [hcall, Option.some.injEq] at hcall'
  subst hcall'
  refine ⟨call.method, call.payload, hknown, result,
    ⟨i, d.frame, m, ?_, henc, hframe, hm, ?_⟩, hrep⟩
  · rw [List.getElem?_map, hcall, Option.map_some, hcaller]
  · rw [hd, ← hexec]

/-- No request is sent twice. -/
theorem Sound.nodup_sent (h : Sound u fifo s) : s.sent.Nodup := by
  rw [List.nodup_iff_getElem?_ne_getElem?]
  intro i j hij hj heq
  obtain ⟨f, hf⟩ : ∃ f, s.sent[j]? = some f := ⟨_, List.getElem?_eq_getElem hj⟩
  rw [hf] at heq
  obtain ⟨c, -, hc⟩ := h.asking.frames i f heq
  obtain ⟨d, -, hd⟩ := h.asking.frames j f hf
  have hid := congrArg (fun r : Request => r.id.toInt) (Request.encode_injective hc hd)
  have hle := h.asking.le
  have hi1 : i + 1 ≤ Frame.maxId := by omega
  have hj1 : j + 1 ≤ Frame.maxId := by omega
  simp only [Calls.number_toInt hi1, Calls.number_toInt hj1] at hid
  omega

variable [Logger L]

theorem grows_of_step (fifo : Fifo u.ends Carries) {move : Move H}
    (hs : s.step u move = some s') : Grows s s' := by
  cases move with
  | client a =>
    obtain ⟨⟨c, p, effects⟩, hact, rfl⟩ := Option.map_eq_some_iff.mp hs
    obtain ⟨out, hsent, -, -⟩ := (Client.change_of_act hact).link fifo
    exact ⟨⟨out, hsent.symm⟩, List.prefix_rfl, List.prefix_rfl⟩
  | server a =>
    obtain ⟨⟨c, p, traces⟩, hact, rfl⟩ := Option.map_eq_some_iff.mp hs
    obtain ⟨out, hanswered, -, -⟩ := (Server.change_of_act hact).link fifo
    exact ⟨List.prefix_rfl, ⟨out, hanswered.symm⟩, List.prefix_rfl⟩
  | serve =>
    change s.serve u = some s' at hs
    unfold Session.serve at hs
    rcases hp : s.host.socket.poll with ⟨socket, r⟩
    rw [hp] at hs
    cases r with
    | message frame =>
      cases hs
      exact ⟨List.prefix_rfl, List.prefix_rfl, List.prefix_append _ _⟩
    | waiting => cases hs
    | finished => cases hs
    | failed f => cases hs
  | call | giveUp | listen | configure | closeClient | push | closeServer | release | pass =>
    cases hs
    exact Grows.of_eq rfl rfl rfl

theorem grows_run (fifo : Fifo u.ends Carries) (s : Session S T σ H L M) (moves : List (Move H)) :
    Grows s (s.run u moves) := by
  induction moves generalizing s with
  | nil => exact Grows.of_eq rfl rfl rfl
  | cons move moves ih =>
    cases hs : s.step u move with
    | none =>
      rw [run, hs]
      exact ih s
    | some next =>
      rw [run, hs]
      exact (grows_of_step fifo hs).trans (ih next)

theorem sound_run (moves : List (Move H)) (h : Sound u fifo s)
    (hc : Carried Carries (s.run u moves)) : Sound u fifo (s.run u moves) := by
  induction moves generalizing s with
  | nil => exact h
  | cons move moves ih =>
    cases hs : s.step u move with
    | none =>
      rw [run, hs] at hc ⊢
      exact ih h hc
    | some next =>
      rw [run, hs] at hc ⊢
      exact ih (h.step hs (hc.of_grows (grows_run fifo next moves))) hc

end Session

namespace Link

inductive Fresh : Link → Prop
  | memory : Fresh (.memory .fresh)
  | stream (a b : UInt32) : Fresh (.stream ⟨.fresh, .fresh, ⟨[], a.toNat⟩, ⟨[], b.toNat⟩⟩)

theorem limit_fresh (a b : UInt32) (s : Side) :
    ((⟨.fresh, .fresh, ⟨[], a.toNat⟩, ⟨[], b.toNat⟩⟩ : Callwire.Stream.Duplex).framer s).limit <
      2 ^ 32 := by
  cases s with
  | a => exact a.toNat_lt
  | b => exact b.toNat_lt

theorem underway_fresh (a b : UInt32) (s : Side) :
    (streamFifo _ (limit_fresh a b)).underway s
      (.stream ⟨.fresh, .fresh, ⟨[], a.toNat⟩, ⟨[], b.toNat⟩⟩) [] := by
  refine ⟨_, rfl, fun _ => rfl, ?_, fun m hm => by cases hm⟩
  cases s <;> rfl

theorem Fresh.fifo {l : Link} (h : l.Fresh) :
    ∃ fifo : Fifo Link.terminal l.Carries, fifo.underway .a l [] ∧ fifo.underway .b l [] := by
  cases h with
  | memory => exact ⟨memoryFifo, ⟨_, rfl, rfl⟩, ⟨_, rfl, rfl⟩⟩
  | stream a b =>
    exact ⟨streamFifo _ (limit_fresh a b), underway_fresh a b .a, underway_fresh a b .b⟩

end Link

namespace Sample

variable {τ : Type}

theorem Subscriber.effects_quiet {α : Type} (wrap : α → Ticker.Value) (seen : List (τ × α))
    (traces : List Trace) (caller : Nat) (r : CallResult) :
    .finish caller r ∉ Subscriber.effects wrap seen traces := by
  intro h
  rcases List.mem_append.mp h with h | h
  · obtain ⟨x, -, hx⟩ := List.mem_map.mp h
    cases hx
  · obtain ⟨t, -, ht⟩ := List.mem_map.mp h
    cases ht

theorem Subscriber.publish_quiet (s : Subscriber τ) (e : Ticker.Event) (payload : Bytes)
    (caller : Nat) (r : CallResult) : .finish caller r ∉ (s.publish e payload).2 := by
  cases e with
  | tick => exact effects_quiet (fun _ : Unit => Ticker.Value.tick) _ _ _ _
  | price => exact effects_quiet _ _ _ _ _
  | blob => exact effects_quiet _ _ _ _ _
  | alarm => exact effects_quiet _ _ _ _ _
  | picky => exact effects_quiet _ _ _ _ _

theorem Hub.run_quiet (payload : Bytes) (caller : Nat) (r : CallResult)
    (listeners : List (Listener τ)) (hub : Hub τ) :
    .finish caller r ∉ (Hub.run payload listeners hub).effects := by
  induction listeners generalizing hub with
  | nil => exact fun hmem => by cases hmem
  | cons listener rest ih =>
    intro hmem
    cases listener with
    | plain tag panics =>
      cases panics with
      | true => cases List.mem_singleton.mp hmem
      | false =>
        rcases List.mem_cons.mp hmem with hmem | hmem
        · cases hmem
        · exact ih hub hmem
    | subscriber index e =>
      unfold Hub.run at hmem
      cases hs : hub.subscribers[index]? with
      | none =>
        rw [hs] at hmem
        exact ih hub hmem
      | some s =>
        rw [hs] at hmem
        rcases List.mem_append.mp hmem with hmem | hmem
        · exact s.publish_quiet e payload caller r hmem
        · exact ih _ hmem

/-- The sample listeners have no part in calls. -/
theorem Hub.deliver_quiet (hub : Hub τ) (p : Push) (caller : Nat) (r : CallResult) :
    .finish caller r ∉ (hub.deliver p).effects := by
  unfold Hub.deliver
  split
  · intro h
    cases List.mem_singleton.mp h
  · exact Hub.run_quiet p.payload caller r _ hub

end Sample

/-- The requests are served in the order in which they were sent, none of them twice,
and an answer is the outcome of the one execution of the request it belongs to. `hframes`
leaves out only frames of `2 ^ 32` bytes or more on a stream without a limit. -/
theorem answers_are_outcomes_of_own_requests {T σ H L M ε : Type} [Universe T] [Logger L]
    (deliver : H → Push → Delivery H ε)
    (quiet : ∀ hub p caller r, .finish caller r ∉ (deliver hub p).effects)
    (service : CallService σ M) (link : Link) (hlink : link.Fresh) (hub : H)
    (timeout : Option Nat) (state : σ) (logger : L) (moves : List (Session.Move H))
    (s : Session Link T σ H L M)
    (hs : s = (Session.start link hub timeout state logger).run
      ⟨Link.terminal, deliver, quiet, service⟩ moves)
    (hframes : ∀ m ∈ s.sent ++ s.answered, link.Carries m)
    (hmessages : ∀ d ∈ s.dispatched, ∀ x ∈ d.executions, Response.Writable x.result) :
    s.dispatched.map (·.frame) <+: s.sent ∧ s.sent.Nodup ∧ (s.taken.map (·.caller)).Nodup ∧
      (∀ caller bytes, (caller, .ok bytes) ∈ s.results →
        ∃ name payload, s.asked[caller]? = some (name, payload) ∧
          s.RanOnce service.table caller name payload (.ok bytes)) ∧
      ∀ caller text, (caller, .error (.remote text)) ∈ s.results →
        ∃ name payload, s.asked[caller]? = some (name, payload) ∧
          s.RanOnce service.table caller name payload (.error ⟨text⟩) := by
  obtain ⟨fifo, ha, hb⟩ := hlink.fifo
  have hsound : s.Sound ⟨Link.terminal, deliver, quiet, service⟩ fifo := by
    subst hs
    exact Session.sound_run moves (Session.sound_start hub timeout state logger ha hb)
      ⟨hframes, hmessages⟩
  refine ⟨(List.prefix_append _ _).trans hsound.serving.inOrder, hsound.nodup_sent, ?_,
    fun caller bytes hr => ?_, fun caller text hr => ?_⟩
  · have hnodup := hsound.asking.owned.nodup
    rw [List.append_assoc, List.map_append, List.map_append, List.map_map] at hnodup
    exact hnodup.of_append_left
  · obtain ⟨name, payload, hasked, result, hran, hrep⟩ := hsound.ranOnce hr (Or.inl ⟨bytes, rfl⟩)
    cases result with
    | ok b =>
      cases hrep
      exact ⟨name, payload, hasked, hran⟩
    | error e => cases hrep
  · obtain ⟨name, payload, hasked, result, hran, hrep⟩ := hsound.ranOnce hr (Or.inr ⟨text, rfl⟩)
    cases result with
    | ok b => cases hrep
    | error e =>
      cases hrep
      exact ⟨name, payload, hasked, hran⟩

open Sample in
/-- The first of two calls has timed out when the responses come. -/
def lateRun : Session Link Simulation.ValueType Echo (Hub Nat) RecordingLogger Echo.Method :=
  (Session.start (.memory .fresh) .empty (some 1) ⟨0⟩ ⟨[]⟩).run
    ⟨Link.terminal, Hub.deliver, Hub.deliver_quiet, Echo.service⟩
    [.call "raw" [1, 2], .client .enqueue, .client .take, .client .sweep, .pass 4, .client .sweep,
      .call "raw" [3], .client .enqueue, .client .take, .server .receive, .server .receive, .serve,
      .serve, .server .send, .server .send, .client .receive, .client .receive]

open Sample in
theorem late_response_reaches_nobody :
    (Link.memory .fresh).Fresh ∧
      (∀ m ∈ lateRun.sent ++ lateRun.answered, (Link.memory .fresh).Carries m) ∧
      (∀ d ∈ lateRun.dispatched, ∀ x ∈ d.executions, Response.Writable x.result) ∧
      lateRun.results = [(0, .error .timeout), (1, .ok [3])] ∧
      lateRun.RanOnce Echo.service.table 1 "raw" [3] (.ok [3]) := by
  have hmessages : ∀ d ∈ lateRun.dispatched, ∀ x ∈ d.executions, Response.Writable x.result := by
    have hdispatched : lateRun.dispatched =
        [⟨[114, 97, 119, 0, 0, 0, 0, 1, 1, 2], [⟨.raw, [1, 2], .ok [2, 1]⟩]⟩,
          ⟨[114, 97, 119, 0, 0, 0, 0, 2, 3], [⟨.raw, [3], .ok [3]⟩]⟩] := rfl
    intro d hd x hx e he
    rw [hdispatched] at hd
    rcases List.mem_pair.mp hd with rfl | rfl <;> rw [List.mem_singleton.mp hx] at he <;> cases he
  have hresults : lateRun.results = [(0, .error .timeout), (1, .ok [3])] := rfl
  obtain ⟨-, -, -, hok, -⟩ := answers_are_outcomes_of_own_requests Hub.deliver Hub.deliver_quiet
    Echo.service (.memory .fresh) .memory .empty (some 1) ⟨0⟩ (RecordingLogger.mk []) _ lateRun rfl
    (fun _ _ => trivial) hmessages
  obtain ⟨name, payload, hasked, hran⟩ := hok 1 [3] (by rw [hresults]; simp)
  have hcall : lateRun.asked[1]? = some ("raw", [3]) := rfl
  rw [hcall, Option.some.injEq, Prod.mk.injEq] at hasked
  obtain ⟨rfl, rfl⟩ := hasked
  exact ⟨.memory, fun _ _ => trivial, hmessages, hresults, hran⟩

theorem Client.take_of_framed {H S ε : Type} {t : Terminal S} {now : Instant} {c : Client H}
    {s s' : S} {call : Call} {rest : List Call} {calls : Calls} {frame : Bytes}
    {es : List (Effect ε)} (hq : c.queue = call :: rest)
    (ho : c.calls.outbound now call = (calls, .framed frame, es)) (hs : t.send s frame = .ok s') :
    c.take t now s = some ({ c with calls, queue := rest }, s', es) := by
  simp only [Client.take, hq, ho, hs]

/-! ## A request that is longer than its length

On a stream without a limit the server takes the front of the request for a request of its own,
and the caller gets the answer to that. -/

namespace Wrapped
open Sample

abbrev EchoSession := Session Link Simulation.ValueType Echo (Hub Nat) RecordingLogger Echo.Method

def setup : Setup Link (Hub Nat) (Nat × Seen) Echo Echo.Method :=
  ⟨Link.terminal, Hub.deliver, Hub.deliver_quiet, Echo.service⟩

def start : EchoSession := Session.start (.stream (.fresh 0)) .empty none ⟨0⟩ ⟨[]⟩

def head : Bytes := [114, 97, 119, 0, 0, 0, 0, 1]

def called (payload : Bytes) : EchoSession :=
  { start with
    client := { start.client with blocked := [⟨0, "raw", payload, false⟩] }
    asked := [("raw", payload)] }

def queued (payload : Bytes) : EchoSession :=
  { called payload with
    client := { start.client with queue := [⟨0, "raw", payload, false⟩] } }

def sent (payload : Bytes) : EchoSession :=
  { queued payload with
    client := { start.client with calls := ⟨some 2, [⟨1, "raw", none, 0, false⟩], none⟩ }
    link := .stream ((Stream.Duplex.fresh 0).putting .a (Stream.Framer.frame (head ++ payload)))
    taken := [⟨0, "raw", payload, false⟩]
    sent := [head ++ payload] }

def received (payload : Bytes) (f : Stream.Framer) (back : Bytes) : EchoSession :=
  { sent payload with
    host := ⟨⟨0⟩, Server.start.hand head, ⟨[]⟩⟩
    link := .stream ⟨.fresh, { Stream.Pipe.fresh with bytes := back }, ⟨[], 0⟩, f⟩ }

def served (payload : Bytes) (f : Stream.Framer) (back : Bytes) : EchoSession :=
  { received payload f back with
    host := ⟨⟨1⟩, { Server.start with outbound := [[0, 0, 0, 1]] }, ⟨["Request: 'raw'"]⟩⟩
    dispatched := [⟨head, [⟨.raw, [], .ok []⟩]⟩] }

def answered (payload : Bytes) (f : Stream.Framer) (back : Bytes) : EchoSession :=
  { served payload f back with
    host := ⟨⟨1⟩, Server.start, ⟨["Request: 'raw'"]⟩⟩
    link := .stream ⟨⟨Stream.Framer.frame [0, 0, 0, 1], true, true⟩,
      { Stream.Pipe.fresh with bytes := back }, ⟨[], 0⟩, f⟩
    answered := [[0, 0, 0, 1]] }

variable (payload : Bytes)

theorem step_called :
    start.step setup (.call "raw" payload) = some (called payload) := rfl

theorem step_queued : (called payload).step setup (.client .enqueue) = some (queued payload) := rfl

theorem outbound_raw :
    (Calls.fresh none).outbound (ε := Nat × Seen) 0 ⟨0, "raw", payload, false⟩ =
      (⟨some 2, [⟨1, "raw", none, 0, false⟩], none⟩, .framed (head ++ payload), []) := by
  have hname : Bytes.ofString "raw" = [114, 97, 119] := rfl
  have hid : Bytes.ofWord (Int32.ofNat 1).toUInt32 = [0, 0, 0, 1] := rfl
  have hencode : Request.encode ⟨"raw", Int32.ofNat 1, payload⟩ = .ok (head ++ payload) := by
    rw [Request.encode_of_checkName rfl]
    simp only [hname, hid]
    rfl
  simp only [Calls.outbound, Calls.fresh]
  rw [hencode]
  rfl

theorem step_sent : (queued payload).step setup (.client .take) = some (sent payload) := by
  have hsend : (Link.terminal .a).recording.send (.stream (.fresh 0), []) (head ++ payload) =
      .ok ((sent payload).link, (sent payload).sent) := rfl
  have hact : (queued payload).client.act (setup.ends .a).recording setup.deliver
      (queued payload).now .take ((queued payload).link, (queued payload).sent) =
        some ((sent payload).client, ((sent payload).link, (sent payload).sent), []) :=
    Client.take_of_framed (c := (queued payload).client) rfl (outbound_raw payload) hsend
  rw [Session.step, Session.clientAct, hact]
  rfl

theorem step_received {payload : Bytes}
    (h : (head ++ payload).length % 2 ^ 32 = head.length) :
    ∃ f back, f.limit = 0 ∧
      (sent payload).step setup (.server .receive) = some (received payload f back) := by
  obtain ⟨f, back, hf, hr⟩ := Stream.Duplex.receive_wrapped (s := .b)
    (d := (Stream.Duplex.fresh 0).putting .a (Stream.Framer.frame (head ++ payload))) rfl rfl
  rw [h, List.take_left] at hr
  have hlink : (sent payload).link.receive .b =
      ((received payload f back).link, .message head) := by
    simp only [sent, Link.receive, hr]
    rfl
  have hact : (sent payload).host.socket.act (setup.ends .b).recording .receive
      ((sent payload).link, (sent payload).answered) =
        some (Server.start.hand head, ((received payload f back).link, []), []) := by
    show Server.receive (Link.terminal .b).recording Server.start ((sent payload).link, []) = _
    simp only [Server.receive, Terminal.recording, Link.terminal, hlink]
  refine ⟨f, back, hf, ?_⟩
  rw [Session.step, Session.serverAct, hact]
  rfl

theorem step_served {f : Stream.Framer} {back : Bytes} :
    (received payload f back).step setup .serve = some (served payload f back) := rfl

theorem step_answered {f : Stream.Framer} (back : Bytes) (h : f.limit = 0) :
    (served payload f back).step setup (.server .send) = some (answered payload f back) := by
  have hsend := Stream.Duplex.send_of_lets (s := .b) (m := [0, 0, 0, 1])
    (d := ⟨.fresh, { Stream.Pipe.fresh with bytes := back }, ⟨[], 0⟩, f⟩) ⟨rfl, rfl⟩ (.inl h)
  have hlink : (served payload f back).link.send .b [0, 0, 0, 1] =
      .ok (answered payload f back).link := by
    simp only [served, received, Link.send, hsend]
    rfl
  have hact : (served payload f back).host.socket.act (setup.ends .b).recording .send
      ((served payload f back).link, (served payload f back).answered) =
        some (Server.start, ((answered payload f back).link, [[0, 0, 0, 1]]), []) := by
    show Server.send (Link.terminal .b).recording
      { Server.start with outbound := [[0, 0, 0, 1]] } ((served payload f back).link, []) = _
    simp only [Server.send, Terminal.recording, Link.terminal, hlink]
    rfl
  rw [Session.step, Session.serverAct, hact]
  rfl

def finish (f : Stream.Framer) (back : Bytes) : EchoSession :=
  (answered payload f back).run setup [.client .receive]

def moves : List (Session.Move (Hub Nat)) :=
  [.call "raw" payload, .client .enqueue, .client .take, .server .receive, .serve,
    .server .send, .client .receive]

theorem run_of_step {s s' : EchoSession} {move : Session.Move (Hub Nat)}
    {rest : List (Session.Move (Hub Nat))} (h : s.step setup move = some s') :
    s.run setup (move :: rest) = s'.run setup rest := by
  rw [Session.run, h, Option.getD_some]

theorem run_moves {payload : Bytes} (h : (head ++ payload).length % 2 ^ 32 = head.length) :
    ∃ f back, start.run setup (moves payload) = finish payload f back := by
  obtain ⟨f, back, hf, hreceived⟩ := step_received h
  refine ⟨f, back, ?_⟩
  rw [moves, run_of_step (step_called payload), run_of_step (step_queued payload),
    run_of_step (step_sent payload), run_of_step hreceived, run_of_step (step_served payload),
    run_of_step (step_answered payload back hf), finish]

end Wrapped

open Wrapped in
/-- The request of a call with `2 ^ 32` bytes is dispatched as one that was never sent, and the
call is answered although it was not executed. -/
theorem wrapped_request_gets_answer_of_another :
    ∃ payload : Bytes, payload = List.replicate (2 ^ 32) 0 ∧
      (Link.stream (.fresh 0)).Fresh ∧
      (∀ d ∈ (start.run setup (moves payload)).dispatched, ∀ x ∈ d.executions,
        Response.Writable x.result) ∧
      ¬(start.run setup (moves payload)).dispatched.map (·.frame) <+:
        (start.run setup (moves payload)).sent ∧
      (start.run setup (moves payload)).asked = [("raw", payload)] ∧
      (0, .ok []) ∈ (start.run setup (moves payload)).results ∧
      ¬(start.run setup (moves payload)).RanOnce Sample.Echo.service.table 0 "raw" payload
        (.ok []) := by
  obtain ⟨payload, hpayload⟩ : ∃ payload : Bytes, payload = List.replicate (2 ^ 32) 0 := ⟨_, rfl⟩
  have hlength : payload.length = 2 ^ 32 := by rw [hpayload, List.length_replicate]
  have hwraps : (head ++ payload).length % 2 ^ 32 = head.length := by
    rw [List.length_append, hlength, Nat.add_mod_right]
    exact Nat.mod_eq_of_lt (by decide)
  obtain ⟨f, back, hrun⟩ := run_moves hwraps
  have hdispatched : (finish payload f back).dispatched = [⟨head, [⟨.raw, [], .ok []⟩]⟩] := rfl
  have hsent : (finish payload f back).sent = [head ++ payload] := rfl
  have hne : payload ≠ [] := List.ne_nil_of_length_pos (by omega)
  refine ⟨payload, hpayload, .stream 0 0, ?_, ?_, ?_, ?_, ?_⟩
  · rw [hrun, hdispatched]
    intro d hd x hx e he
    rw [List.mem_singleton.mp hd] at hx
    rw [List.mem_singleton.mp hx] at he
    cases he
  · rw [hrun, hdispatched, hsent]
    intro hprefix
    have heq : head = head ++ payload := (List.cons_prefix_cons.mp hprefix).1
    exact hne (List.append_right_eq_self.mp heq.symm)
  · rw [hrun]
    rfl
  · rw [hrun]
    exact List.mem_singleton.mpr rfl
  · rw [hrun]
    rintro ⟨i, frame, m, -, -, -, -, hran⟩
    rw [hdispatched] at hran
    obtain ⟨hlt, hd⟩ := List.getElem?_eq_some_iff.mp hran
    obtain rfl : i = 0 := Nat.lt_one_iff.mp hlt
    simp only [List.getElem_cons_zero, Dispatched.mk.injEq, List.cons.injEq,
      Execution.mk.injEq] at hd
    exact hne hd.2.1.2.1.symm

end Callwire
