import Callwire.Proofs.Push.Broadcast

/-!
# From the socket to the client

What the server writes, pushes and answers alike, is received by the client in the order
in which it was written. A push is read as what was emitted, and no answer as a push.
-/

set_option autoImplicit false

namespace Callwire

namespace Server

variable {T σ L M : Type} [Universe T] [Logger L]

/-- A host that serves a request answers it, or does not write. -/
theorem serve_written (service : CallService σ M) (h : Host σ (Server T) L) {frame : Bytes}
    {r : Request} (hr : Request.decode frame = .ok r) :
    (h.serve service frame).1.socket = h.socket ∨
      ∃ result, Socket.write h.socket (Response.to r.id result).encode =
        .ok (h.serve service frame).1.socket := by
  rcases serve_cases service h hr with ⟨-, -, hsame⟩ | ⟨m, result, -, -, hsame | hw⟩
  · exact .inl hsame
  · exact .inl hsame
  · exact .inr ⟨result, hw⟩

end Server

namespace Sample

theorem Emission.apply_cases {T σ L : Type} [Universe T] [Logger L] (h : Host σ (Server T) L)
    (e : Emission) : (e.apply h).socket = h.socket ∨ ∃ p frame, e.push? = some p ∧
      p.encode = .ok frame ∧ Socket.write h.socket frame = .ok (e.apply h).socket := by
  cases e with
  | event v =>
    simp only [apply, Ticker.emit_eq, push?]
    cases hv : v.encode with
    | error f => exact .inl rfl
    | ok bytes =>
      rcases Server.pushBytes_cases h v.event.name bytes with hs | ⟨frame, hf, hw⟩
      · exact .inl hs
      · exact .inr ⟨_, frame, rfl, hf, hw⟩
  | raw name payload =>
    rcases Server.pushBytes_cases h name payload with hs | ⟨frame, hf, hw⟩
    · exact .inl hs
    · exact .inr ⟨_, frame, rfl, hf, hw⟩

def Written.Readable (w : Written) : Prop :=
  match w.source with
  | .emitted e => ∃ p, e.push? = some p ∧ Frame.decode .client w.frame = .ok (.push p)
  | .answered => ∃ r, Frame.decode .client w.frame = .ok (.response r)

namespace Broadcast

variable {T σ L M τ : Type} [Universe T] {Carries : Bytes → Prop}
  {fifo : Fifo Link.terminal Carries} {s s' : Session Link T σ (Hub τ) L M}
  {written : List Written} {processed : List Bytes}

structure Flow (fifo : Fifo Link.terminal Carries) (s : Session Link T σ (Hub τ) L M)
    (written : List Written) (processed : List Bytes) : Prop where
  asking : s.client.Holds s.asked s.taken s.sent
  serving : s.host.socket.Feeds fifo s.link (s.dispatched.map (·.frame)) s.sent
  sends : Server.Sends True s.host.socket s.answered (written.map (·.frame))
  readable : ∀ w ∈ written, w.Readable
  inOrder : processed <+: s.answered
  coming : s.client.phase = .running →
    ∃ ms, fifo.underway .a s.link ms ∧ processed ++ ms = s.answered

theorem flow_start {link : Link} (timeout : Option Nat) (state : σ) (logger : L)
    (ha : fifo.underway .a link []) (hb : fifo.underway .b link []) :
    Flow fifo (Session.start link Hub.empty timeout state logger : Session Link T σ (Hub τ) L M)
      [] [] where
  asking := Client.holds_start Hub.empty 0 timeout
  serving := ⟨List.prefix_rfl, fun _ => rfl, fun _ _ => ⟨[], hb, rfl⟩⟩
  sends := Server.sends_start True
  readable := fun w hw => by cases hw
  inOrder := List.prefix_rfl
  coming := fun _ => ⟨[], ha, rfl⟩

/-- The client changes, but neither in its calls nor in what it has received. -/
theorem Flow.client (h : Flow fifo s written processed) {c : Client (Hub τ)}
    (hc : c.Holds s.asked s.taken s.sent) (hp : c.phase = .running → s.client.phase = .running) :
    Flow fifo { s with client := c } written processed :=
  ⟨hc, h.serving, h.sends, h.readable, h.inOrder, fun hrun => h.coming (hp hrun)⟩

theorem Flow.call (h : Flow fifo s written processed) (name : String) (payload : Bytes) :
    Flow fifo (s.call name payload) written processed := by
  have hphase : (s.client.submit (ε := Empty) ⟨s.asked.length, name, payload, false⟩).1.phase =
      s.client.phase := by
    unfold Client.submit
    cases Frame.checkName name <;> rfl
  exact ⟨h.asking.submit name payload, h.serving, h.sends, h.readable, h.inOrder,
    fun hrun => h.coming (hphase ▸ hrun)⟩

/-- The host changes, but not in what it writes. -/
theorem Flow.host (h : Flow fifo s written processed) {host : Host σ (Server T) L}
    (hs : host.socket.Feeds fifo s.link (s.dispatched.map (·.frame)) s.sent)
    (hp : host.socket.phase = s.host.socket.phase)
    (ho : host.socket.outbound = s.host.socket.outbound) :
    Flow fifo { s with host := host } written processed :=
  ⟨h.asking, hs, h.sends.of_outbound hp ho, h.readable, h.inOrder, h.coming⟩

/-- A frame is accepted by the socket, or nothing is. -/
theorem Flow.write (h : Flow fifo s written processed) {host : Host σ (Server T) L}
    (source : Source)
    (hw : host.socket = s.host.socket ∨ ∃ m, Written.Readable ⟨m, source⟩ ∧
      Socket.write s.host.socket m = .ok host.socket) :
    Flow fifo { s with host := host }
      (written ++ (host.socket.outbound.drop s.host.socket.outbound.length).map (⟨·, source⟩))
      processed := by
  rcases hw with hw | ⟨m, hm, hw⟩
  · rw [hw, List.drop_length, List.map_nil, List.append_nil]
    refine h.host ?_ ?_ ?_ <;> rw [hw]
    exact h.serving
  · have hsends := h.sends.write hw
    obtain ⟨-, hsocket⟩ := Server.eq_of_write hw
    have hdrop : host.socket.outbound.drop s.host.socket.outbound.length = [m] := by
      rw [hsocket, List.drop_left]
    rw [hdrop, List.map_singleton]
    refine ⟨h.asking, ?_, ?_, fun w hmem => ?_, h.inOrder, h.coming⟩
    · rw [hsocket]
      exact ⟨h.serving.inOrder, h.serving.gone, h.serving.flow⟩
    · rw [List.map_append, List.map_singleton]
      exact hsends
    · rcases List.mem_append.mp hmem with hmem | hmem
      · exact h.readable w hmem
      · rw [List.mem_singleton.mp hmem]
        exact hm

theorem Flow.clientAct (h : Flow fifo s written processed)
    {u : Setup Link (Hub τ) (τ × Seen) σ M} (hu : u.ends = Link.terminal) {a : Client.Action}
    (hs : s.clientAct u a = some s') (hc : ∀ m ∈ s'.sent ++ s'.answered, Carries m) :
    Flow fifo s' written
      (processed ++ (Client.arrival (Link.terminal .a) s.link a).toList) := by
  obtain ⟨⟨c, p, effects⟩, hact, rfl⟩ := Option.map_eq_some_iff.mp hs
  rw [hu] at hact
  have hchange := Client.change_of_act hact
  obtain ⟨out, hsent, hb, -⟩ := hchange.link fifo
  have hout : ∀ m ∈ out, Carries m := fun m hm => hc m (by
    show m ∈ p.2 ++ s.answered
    rw [hsent]
    exact List.mem_append_left _ (List.mem_append_right _ hm))
  have hserving : s.host.socket.Feeds fifo p.1 (s.dispatched.map (·.frame)) p.2 := by
    rw [hsent]
    exact h.serving.extend fun ms => hb ms hout
  have hrunning : c.phase = .running → s.client.phase = .running := fun hrun =>
    hchange.running hrun
  cases harrival : Client.arrival (Link.terminal .a) s.link a with
  | none =>
    rw [Option.toList_none, List.append_nil]
    refine ⟨h.asking.change hchange, hserving, h.sends, h.readable, h.inOrder, fun hrun => ?_⟩
    obtain ⟨ms, hms, heq⟩ := h.coming (hrunning hrun)
    have hkept := hchange.arrives fifo hms
    rw [harrival] at hkept
    exact ⟨ms, hkept hrun, heq⟩
  | some frame =>
    have hrun := hchange.running_of_arrival (by rw [harrival]; rfl)
    obtain ⟨ms, hms, heq⟩ := h.coming hrun
    have htaken := hchange.arrives fifo hms
    rw [harrival] at htaken
    obtain ⟨rest, rfl, hrest⟩ := htaken
    have hmoved : processed ++ [frame] ++ rest = s.answered := by
      rw [List.append_assoc, List.singleton_append, heq]
    exact ⟨h.asking.change hchange, hserving, h.sends, h.readable, ⟨rest, hmoved⟩,
      fun _ => ⟨rest, hrest, hmoved⟩⟩

theorem Flow.serverAct (h : Flow fifo s written processed)
    {u : Setup Link (Hub τ) (τ × Seen) σ M} (hu : u.ends = Link.terminal) {a : Server.Action}
    (hs : s.serverAct u a = some s') (hc : ∀ m ∈ s'.sent ++ s'.answered, Carries m) :
    Flow fifo s' written processed := by
  obtain ⟨⟨c, p, traces⟩, hact, rfl⟩ := Option.map_eq_some_iff.mp hs
  rw [hu] at hact
  have hchange := Server.change_of_act hact
  obtain ⟨out, hanswered, -, ha⟩ := hchange.link fifo
  have hout : ∀ m ∈ out, Carries m := fun m hm => hc m (by
    show m ∈ s.sent ++ p.2
    rw [hanswered]
    exact List.mem_append_right _ (List.mem_append_right _ hm))
  refine ⟨h.asking, h.serving.change hchange, (h.sends.change hchange).mono fun _ => trivial,
    h.readable, ?_, fun hrun => ?_⟩
  · show processed <+: p.2
    rw [hanswered]
    exact h.inOrder.trans (List.prefix_append _ _)
  · obtain ⟨ms, hms, heq⟩ := h.coming hrun
    exact ⟨ms ++ out, ha ms hout hms, by rw [← List.append_assoc, heq]; exact hanswered.symm⟩

variable [Logger L]

theorem Flow.emit (h : Flow fifo s written processed) (e : Emission) :
    Flow fifo { s with host := e.apply s.host }
      (written ++ ((e.apply s.host).socket.outbound.drop s.host.socket.outbound.length).map
        (⟨·, .emitted e⟩)) processed := by
  refine h.write (.emitted e) ((Emission.apply_cases s.host e).imp_right ?_)
  rintro ⟨p, frame, hp, hf, hw⟩
  exact ⟨frame, ⟨p, hp, Frame.client_of_push hf⟩, hw⟩

theorem Flow.serve (h : Flow fifo s written processed) {u : Setup Link (Hub τ) (τ × Seen) σ M}
    (hs : s.serve u = some s') :
    Flow fifo s' (written ++ (s'.host.socket.outbound.drop s.host.socket.outbound.length).map
      (⟨·, .answered⟩)) processed := by
  unfold Session.serve at hs
  rcases hp : s.host.socket.poll with ⟨socket, r⟩
  rw [hp] at hs
  cases r with
  | waiting => cases hs
  | finished => cases hs
  | failed f => cases hs
  | message frame =>
    cases hs
    obtain ⟨hphase, houtbound⟩ := Server.outbound_poll hp
    have hfeeds := h.serving.poll hp
    have hpolled (d : Dispatched M) (hd : d.frame = frame) : Flow fifo
        { s with host := { s.host with socket }, dispatched := s.dispatched ++ [d] }
        written processed := by
      refine ⟨h.asking, ?_, h.sends.of_outbound hphase houtbound, h.readable, h.inOrder, h.coming⟩
      show socket.Feeds fifo s.link ((s.dispatched ++ [d]).map (·.frame)) s.sent
      rw [List.map_append, List.map_singleton, hd]
      exact hfeeds
    -- the frame is the request of a call, and so has a number that can be answered
    have hplace : s.sent[s.dispatched.length]? = some frame := by
      rw [← List.length_map (·.frame)]
      exact h.serving.place hp
    obtain ⟨call, -, henc⟩ := h.asking.frames _ frame hplace
    have hnumber : s.dispatched.length + 1 ≤ Frame.maxId := by
      have hlt := (List.getElem?_eq_some_iff.mp hplace).1
      have hle := h.asking.le
      omega
    let host : Host σ (Server T) L := { s.host with socket }
    have hwritten := Server.serve_written u.service host (Request.decode_of_encode henc)
    have hnext := (hpolled (host.serve u.service frame).2 rfl).write .answered
      (hwritten.imp_right fun ⟨result, hw⟩ =>
        ⟨_, ⟨_, Response.decode_to (Nat.succ_pos _) hnumber result⟩, hw⟩)
    rw [houtbound] at hnext
    exact hnext

end Broadcast

end Sample

end Callwire
