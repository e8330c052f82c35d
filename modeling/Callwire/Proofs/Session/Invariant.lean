import Callwire.Proofs.Session.Matching
import Callwire.Proofs.Session.Serving

/-!
# What every move keeps

One invariant ties both connections to the histories: requests stand in one order
from the callers to the host, and whatever is on its way back answers what the
host has served.
-/

set_option autoImplicit false

namespace Callwire.Session

variable {S T σ H L M ε : Type} [Universe T] {u : Setup S H ε σ M} {Carries : Bytes → Prop}
  {fifo : Fifo u.ends Carries} {s s' : Session S T σ H L M}

structure Carried (Carries : Bytes → Prop) (s : Session S T σ H L M) : Prop where
  frames : ∀ m ∈ s.sent ++ s.answered, Carries m
  messages : ∀ d ∈ s.dispatched, ∀ x ∈ d.executions, Response.Writable x.result

structure Sound (u : Setup S H ε σ M) (fifo : Fifo u.ends Carries)
    (s : Session S T σ H L M) : Prop where
  asking : s.client.Holds s.asked s.taken s.sent
  serving : s.host.socket.Feeds fifo s.link (s.dispatched.map (·.frame)) s.sent
  executed : ∀ (i : Nat) (d : Dispatched M), s.dispatched[i]? = some d →
    ∃ call, s.taken[i]? = some call ∧ Executed u.service.table call d
  written : ∀ g ∈ s.host.socket.outbound, Answers s.dispatched g
  coming : s.client.phase = .running →
    ∃ ms, fifo.underway .a s.link ms ∧ ∀ g ∈ ms, Answers s.dispatched g
  matched : ∀ caller r, (caller, r) ∈ s.results → Answer r →
    Matched u.service.table s.taken s.dispatched caller r

theorem Sound.length_dispatched (h : Sound u fifo s) : s.dispatched.length ≤ Frame.maxId := by
  have hlen := h.serving.inOrder.length_le
  rw [List.length_append, List.length_map] at hlen
  have hsent := h.asking.le
  omega

/-! ## Moves of one side that the other does not see -/

/-- The client changes, but not in its calls. -/
theorem Sound.client (h : Sound u fifo s) {c : Client H}
    (hc : c.Holds s.asked s.taken s.sent) (hp : c.phase = .running → s.client.phase = .running) :
    Sound u fifo { s with client := c } :=
  ⟨hc, h.serving, h.executed, h.written, fun hrun => h.coming (hp hrun), h.matched⟩

theorem Sound.call (h : Sound u fifo s) (name : String) (payload : Bytes) :
    Sound u fifo (s.call name payload) := by
  have hphase : (s.client.submit (ε := Empty) ⟨s.asked.length, name, payload, false⟩).1.phase =
      s.client.phase := by
    unfold Client.submit
    cases Frame.checkName name <;> rfl
  refine ⟨h.asking.submit name payload, h.serving, h.executed, h.written,
    fun hrun => h.coming (hphase ▸ hrun), fun caller r hr hans => ?_⟩
  rcases List.mem_append.mp hr with hr | hr
  · exact h.matched caller r hr hans
  · have hfinish := mem_finished.mp hr
    unfold Client.submit at hfinish
    cases hn : Frame.checkName name with
    | ok u =>
      rw [hn] at hfinish
      cases hfinish
    | error e =>
      rw [hn] at hfinish
      change .finish caller r ∈ reply s.asked.length false (.error (.frame e)) at hfinish
      obtain ⟨-, rfl⟩ := mem_reply hfinish
      exact absurd hans (not_answer (by simp))

/-- The host changes, but not in what it takes from its connection or writes. -/
theorem Sound.host (h : Sound u fifo s) {host : Host σ (Server T) L}
    (hs : host.socket.Feeds fifo s.link (s.dispatched.map (·.frame)) s.sent)
    (hw : ∀ g ∈ host.socket.outbound, Answers s.dispatched g) :
    Sound u fifo { s with host := host } :=
  ⟨h.asking, hs, h.executed, hw, h.coming, h.matched⟩

/-- An answer is written to the socket, unless it takes no more. -/
theorem Sound.write (h : Sound u fifo s) {host : Host σ (Server T) L} {g : Bytes}
    (hg : Answers s.dispatched g)
    (hs : host.socket = s.host.socket ∨ Socket.write s.host.socket g = .ok host.socket) :
    Sound u fifo { s with host := host } := by
  rcases hs with hs | hw
  · exact h.host (by rw [hs]; exact h.serving) (by rw [hs]; exact h.written)
  · obtain ⟨-, hs⟩ := Server.eq_of_write hw
    refine h.host ?_ fun x hx => ?_
    · rw [hs]
      exact ⟨h.serving.inOrder, h.serving.gone, h.serving.flow⟩
    · rw [hs] at hx
      rcases List.mem_append.mp hx with hx | hx
      · exact h.written x hx
      · rw [List.mem_singleton.mp hx]
        exact hg

/-! ## Tasks -/

theorem Sound.clientAct (h : Sound u fifo s) {a : Client.Action} (hs : s.clientAct u a = some s')
    (hc : Carried Carries s') : Sound u fifo s' := by
  obtain ⟨⟨c, p, effects⟩, hact, rfl⟩ := Option.map_eq_some_iff.mp hs
  have hchange := Client.change_of_act hact
  obtain ⟨out, hsent, hb, ha⟩ := hchange.link fifo
  have hout : ∀ m ∈ out, Carries m := fun m hm => hc.frames m (by
    show m ∈ p.2 ++ s.answered
    rw [hsent]
    exact List.mem_append_left _ (List.mem_append_right _ hm))
  have hrunning : c.phase = .running → s.client.phase = .running := fun hrun =>
    hchange.running hrun
  refine ⟨h.asking.change hchange, ?_, fun i d hd => ?_, h.written, fun hrun => ?_,
    fun caller r hr hans => ?_⟩
  · show s.host.socket.Feeds fifo p.1 (s.dispatched.map (·.frame)) p.2
    rw [hsent]
    exact h.serving.extend fun ms => hb ms hout
  · obtain ⟨call, hcall, hexec⟩ := h.executed i d hd
    exact ⟨call, Calls.getElem?_of_append hcall _, hexec⟩
  · obtain ⟨ms, hms, hanswers⟩ := h.coming (hrunning hrun)
    obtain ⟨rest, hrest, hunder⟩ := ha hrun ms hms
    exact ⟨rest, hunder, fun g hg => hanswers g (hrest.subset hg)⟩
  · have hold : Matched u.service.table s.taken s.dispatched caller r := by
      rcases List.mem_append.mp hr with hr | hr
      · exact h.matched caller r hr hans
      · obtain ⟨frame, hp, hreceive, hcompletes⟩ :=
          hchange.answer u.quiet (mem_finished.mp hr) hans
        obtain ⟨ms, hms, hanswers⟩ := h.coming hp
        obtain ⟨rest, rfl, -⟩ := fifo.received hreceive hms
        exact matched_of_completes h.asking.numbered h.length_dispatched h.executed hc.messages
          (hanswers frame (by simp)) hcompletes
    have hmore := hold.append (if a = .take then s.client.queue.head?.toList else []) []
    rwa [List.append_nil] at hmore

theorem Sound.serverAct (h : Sound u fifo s) {a : Server.Action} (hs : s.serverAct u a = some s')
    (hc : Carried Carries s') : Sound u fifo s' := by
  obtain ⟨⟨c, p, traces⟩, hact, rfl⟩ := Option.map_eq_some_iff.mp hs
  have hchange := Server.change_of_act hact
  obtain ⟨out, hanswered, houtbound, ha⟩ := hchange.link fifo
  have hout : ∀ m ∈ out, Carries m := fun m hm => hc.frames m (by
    show m ∈ s.sent ++ p.2
    rw [hanswered]
    exact List.mem_append_right _ (List.mem_append_right _ hm))
  refine ⟨h.asking, h.serving.change hchange, h.executed, fun g hg => ?_, fun hrun => ?_, h.matched⟩
  · exact h.written g (houtbound g (List.mem_append_right _ hg))
  · obtain ⟨ms, hms, hanswers⟩ := h.coming hrun
    refine ⟨ms ++ out, ha ms hout hms, fun g hg => ?_⟩
    rcases List.mem_append.mp hg with hg | hg
    · exact hanswers g hg
    · exact h.written g (houtbound g (List.mem_append_left _ hg))

/-! ## The host -/

/-- A frame is dispatched for the call of its place. -/
theorem Sound.dispatch (h : Sound u fifo s) {socket : Server T} {d : Dispatched M}
    (hp : s.host.socket.poll = (socket, .message d.frame)) {call : Call}
    (hcall : s.taken[s.dispatched.length]? = some call)
    (hd : Executed u.service.table call d) :
    Sound u fifo { s with
      host := { s.host with socket }, dispatched := s.dispatched ++ [d] } := by
  obtain ⟨-, houtbound⟩ := Server.outbound_poll hp
  refine ⟨h.asking, ?_, fun i e he => ?_, fun g hg => ?_, fun hrun => ?_,
    fun caller r hr hans => ?_⟩
  · show socket.Feeds fifo s.link ((s.dispatched ++ [d]).map (·.frame)) s.sent
    rw [List.map_append, List.map_singleton]
    exact h.serving.poll hp
  · rcases Calls.getElem?_of_concat he with he | ⟨rfl, rfl⟩
    · exact h.executed i e he
    · exact ⟨call, hcall, hd⟩
  · exact (h.written g (houtbound ▸ hg)).append [d]
  · obtain ⟨ms, hms, hanswers⟩ := h.coming hrun
    exact ⟨ms, hms, fun g hg => (hanswers g hg).append [d]⟩
  · have hmore := (h.matched caller r hr hans).append [] [d]
    rwa [List.append_nil] at hmore

variable [Logger L]

theorem Sound.serve (h : Sound u fifo s) (hs : s.serve u = some s') : Sound u fifo s' := by
  unfold Session.serve at hs
  rcases hp : s.host.socket.poll with ⟨socket, r⟩
  rw [hp] at hs
  cases r with
  | waiting => cases hs
  | finished => cases hs
  | failed f => cases hs
  | message frame =>
    cases hs
    -- the frame stands where the request of the next call stands
    have hplace : s.sent[s.dispatched.length]? = some frame := by
      rw [← List.length_map (·.frame)]
      exact h.serving.place hp
    obtain ⟨call, hcall, henc⟩ := h.asking.frames _ frame hplace
    have hdecode := Request.decode_of_encode henc
    rcases Server.serve_cases u.service ({ s.host with socket } : Host σ (Server T) L) hdecode with
      ⟨hnone, hd, hsocket⟩ | ⟨m, result, hm, hd, hsocket⟩
    · have hnext := h.dispatch (d := ⟨frame, []⟩) hp hcall (Or.inl ⟨hnone, rfl⟩)
      rw [hd]
      exact hnext.host (by rw [hsocket]; exact hnext.serving) (by rw [hsocket]; exact hnext.written)
    · have hnext := h.dispatch (d := ⟨frame, [⟨m, call.payload, result⟩]⟩) hp hcall
        (Or.inr ⟨m, result, hm, rfl⟩)
      rw [hd]
      exact hnext.write (Or.inr ⟨s.dispatched.length, ⟨frame, [⟨m, call.payload, result⟩]⟩,
        ⟨m, call.payload, result⟩, List.getElem?_concat_length, rfl, rfl⟩) hsocket

theorem Sound.push (h : Sound u fifo s) (name : String) (payload : Bytes) :
    Sound u fifo { s with host := s.host.pushBytes name payload } := by
  rcases Server.pushBytes_cases s.host name payload with hs | ⟨frame, hpush, hs⟩
  · exact h.host (by rw [hs]; exact h.serving) (by rw [hs]; exact h.written)
  · exact h.write (Or.inl ⟨_, hpush⟩) (Or.inr hs)

theorem Sound.step (h : Sound u fifo s) {move : Move H} (hs : s.step u move = some s')
    (hc : Carried Carries s') : Sound u fifo s' := by
  cases move with
  | call name payload =>
    cases hs
    exact h.call name payload
  | giveUp caller =>
    cases hs
    exact h.client (h.asking.abandon caller) id
  | listen f =>
    cases hs
    exact h.client (h.asking.of_calls h.asking.numbered (List.Sublist.refl _) id) id
  | configure timeout =>
    cases hs
    exact h.client (h.asking.of_calls h.asking.numbered (List.Sublist.refl _) id) id
  | closeClient =>
    cases hs
    exact h.client (h.asking.of_calls h.asking.numbered (List.Sublist.refl _) id) id
  | client a => exact h.clientAct hs hc
  | serve => exact h.serve hs
  | push name payload =>
    cases hs
    exact h.push name payload
  | closeServer =>
    cases hs
    exact h.host ⟨h.serving.inOrder, h.serving.gone, h.serving.flow⟩ h.written
  | release =>
    cases hs
    exact h.host h.serving.release h.written
  | server a => exact h.serverAct hs hc
  | pass time =>
    cases hs
    exact ⟨h.asking, h.serving, h.executed, h.written, h.coming, h.matched⟩

end Callwire.Session
