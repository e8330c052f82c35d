import Callwire.Proofs.Client.Changes
import Callwire.Proofs.Client.Outcome
import Callwire.Proofs.Session.Linked
import Callwire.Proofs.Transport.Order

/-!
# The asking end

What the calls in a client connection have to do with those who asked for them,
and with the frames that were sent. Calls are numbered in the order in which they
are taken off the queue, and so are the frames.
-/

set_option autoImplicit false

namespace Callwire

section
variable {S : Type} {t : Terminal S} {l : S} {sent : List Bytes} {p : S × List Bytes}

theorem recording_send {m : Bytes} (h : t.recording.send (l, sent) m = .ok p) :
    t.send l m = .ok p.1 ∧ p.2 = sent ++ [m] := by
  obtain ⟨k, hk, rfl⟩ := exists_of_map_eq_ok h
  exact ⟨hk, rfl⟩

theorem recording_receive {r : Poll} (h : t.recording.receive (l, sent) = (p, r)) :
    t.receive l = (p.1, r) ∧ p.2 = sent := by
  change (((t.receive l).1, sent), (t.receive l).2) = (p, r) at h
  cases h
  exact ⟨rfl, rfl⟩

end

namespace Client

def identity (call : Call) : Nat × String × Bytes := (call.caller, call.method, call.payload)

structure Owned (asked : List (String × Bytes)) (l : List (Nat × String × Bytes)) : Prop where
  nodup : (l.map (·.1)).Nodup
  known : ∀ x ∈ l, asked[x.1]? = some x.2
  named : ∀ x ∈ l, Frame.checkName x.2.1 = .ok ()

section
variable {asked : List (String × Bytes)} {l l' : List (Nat × String × Bytes)}

theorem Owned.sublist (h : Owned asked l) (hs : l'.Sublist l) : Owned asked l' :=
  ⟨h.nodup.sublist (hs.map _), fun x hx => h.known x (hs.subset hx),
    fun x hx => h.named x (hs.subset hx)⟩

theorem Owned.ask (h : Owned asked l) (x : String × Bytes) : Owned (asked ++ [x]) l :=
  ⟨h.nodup, fun y hy => Calls.getElem?_of_append (h.known y hy) _, h.named⟩

theorem Owned.lt (h : Owned asked l) {x : Nat × String × Bytes} (hx : x ∈ l) :
    x.1 < asked.length :=
  (List.getElem?_eq_some_iff.mp (h.known x hx)).1

/-- A new caller has a new number. -/
theorem Owned.add (h : Owned asked l) {name : String} (hn : Frame.checkName name = .ok ())
    (payload : Bytes) :
    Owned (asked ++ [(name, payload)]) (l ++ [(asked.length, name, payload)]) := by
  have hask := h.ask (name, payload)
  refine ⟨?_, fun x hx => ?_, fun x hx => ?_⟩
  · rw [List.map_append, List.nodup_append]
    refine ⟨h.nodup, List.nodup_singleton _, fun a ha b hb => ?_⟩
    obtain ⟨x, hx, rfl⟩ := List.mem_map.mp ha
    rw [List.map_singleton, List.mem_singleton] at hb
    rw [hb]
    exact (h.lt hx).ne
  · rcases List.mem_append.mp hx with hx | hx
    · exact hask.known x hx
    · rw [List.mem_singleton.mp hx]
      exact List.getElem?_concat_length
  · rcases List.mem_append.mp hx with hx | hx
    · exact h.named x hx
    · rw [List.mem_singleton.mp hx]
      exact hn

end

variable {H S ε : Type}

structure Holds (c : Client H) (asked : List (String × Bytes)) (taken : List Call)
    (sent : List Bytes) : Prop where
  numbered : c.calls.Numbered taken
  owned : Owned asked ((taken ++ c.queue ++ c.blocked).map identity)
  frames : ∀ (i : Nat) (f : Bytes), sent[i]? = some f → ∃ call, taken[i]? = some call ∧
    Request.encode ⟨call.method, Int32.ofNat (i + 1), call.payload⟩ = .ok f
  le : sent.length ≤ Frame.maxId
  count : c.phase = .running → sent.length = min taken.length Frame.maxId

section
variable {c c' : Client H} {asked : List (String × Bytes)} {taken : List Call}
  {sent : List Bytes}

theorem holds_start (hub : H) (now : Instant) (timeout : Option Nat) :
    Holds (Client.start hub now timeout) [] [] [] :=
  ⟨Calls.numbered_fresh timeout, ⟨List.nodup_nil, by simp [start], by simp [start]⟩, by simp,
    Nat.zero_le _, fun _ => by simp⟩

/-- What leaves the calls taken and sent alone, and comes with no new calls. -/
theorem Holds.of_calls (h : Holds c asked taken sent) (hn : c'.calls.Numbered taken)
    (hs : ((c'.queue ++ c'.blocked).map identity).Sublist ((c.queue ++ c.blocked).map identity))
    (hp : c'.phase = .running → c.phase = .running) : Holds c' asked taken sent := by
  have hsplit : ∀ q b : List Call, (taken ++ q ++ b).map identity =
      taken.map identity ++ (q ++ b).map identity := by
    intro q b
    rw [List.append_assoc, List.map_append]
  refine ⟨hn, h.owned.sublist ?_, h.frames, h.le, fun hrun => h.count (hp hrun)⟩
  rw [hsplit, hsplit]
  exact hs.append_left _

theorem Holds.submit (h : Holds c asked taken sent) (name : String) (payload : Bytes) :
    Holds (c.submit (ε := ε) ⟨asked.length, name, payload, false⟩).1
      (asked ++ [(name, payload)]) taken sent := by
  unfold Client.submit
  cases hn : Frame.checkName name with
  | error e => exact ⟨h.numbered, h.owned.ask _, h.frames, h.le, h.count⟩
  | ok u =>
    refine ⟨h.numbered, ?_, h.frames, h.le, h.count⟩
    show Owned _ ((taken ++ c.queue ++ (c.blocked ++ [_])).map identity)
    rw [← List.append_assoc, List.map_append]
    exact h.owned.add hn payload

theorem Holds.abandon (h : Holds c asked taken sent) (caller : Nat) :
    Holds (c.abandon caller) asked taken sent := by
  refine h.of_calls (h.numbered.abandon caller) ?_ id
  have hqueue : (c.abandon caller).queue.map identity = c.queue.map identity := by
    show (c.queue.map _).map identity = _
    rw [List.map_map]
    apply List.map_congr_left
    intro q _
    simp only [Function.comp, identity]
    split_ifs <;> rfl
  have hblocked : (c.abandon caller).blocked.Sublist c.blocked := List.filter_sublist
  rw [List.map_append, List.map_append, hqueue]
  exact (hblocked.map _).append_left _

theorem inbound_queue (deliver : H → Push → Delivery H ε) (c : Client H) (frame : Bytes) :
    (c.inbound deliver frame).1.queue = c.queue ∧
      (c.inbound deliver frame).1.blocked = c.blocked ∧
      (c.inbound deliver frame).1.calls = (c.calls.inbound (ε := ε) frame).1 := by
  unfold inbound
  rcases c.calls.inbound (ε := ε) frame with ⟨calls, effects, _ | push⟩ <;> exact ⟨rfl, rfl, rfl⟩

/-- A call is taken off the queue and sent, it is not numbered any more, or the task panics. -/
theorem outbound_frames (h : Holds c asked taken sent) (now : Instant) {call : Call}
    {rest : List Call} (hp : c.phase = .running) (hq : c.queue = call :: rest) :
    ((c.calls.outbound (ε := ε) now call).2.1 = .declined ∧ Frame.maxId ≤ taken.length) ∨
      (∃ frame, (c.calls.outbound (ε := ε) now call).2.1 = .framed frame ∧
        sent.length = taken.length ∧ taken.length < Frame.maxId ∧
        Request.encode ⟨call.method, Int32.ofNat (sent.length + 1), call.payload⟩ = .ok frame) ∨
      (c.calls.outbound (ε := ε) now call).2.1 = .panicked := by
  have hcount := h.count hp
  rcases Calls.outbound_cases (ε := ε) c.calls h.numbered now call with ⟨hge, heq⟩ |
    ⟨-, e, he, -⟩ | ⟨hlt, -, frame, hframe, heq⟩ | ⟨-, -, heq⟩
  · exact Or.inl ⟨by rw [heq], by omega⟩
  · have hnamed := h.owned.named (identity call) (by simp [hq])
    change Frame.checkName call.method = .ok () at hnamed
    rw [hnamed] at he
    cases he
  · have hlen : sent.length = taken.length := by omega
    exact Or.inr (Or.inl ⟨frame, by rw [heq], hlen, hlt, by rw [hlen]; exact hframe⟩)
  · exact Or.inr (Or.inr (by rw [heq]))

/-- The next call is taken off the queue, whatever comes of it. -/
theorem Holds.take (h : Holds c asked taken sent) {now : Instant} {call : Call}
    {rest : List Call} {calls : Calls} {outgoing : Outgoing} {effects : List (Effect ε)}
    (phase : Phase) (hp : c.phase = .running) (hq : c.queue = call :: rest)
    (ho : c.calls.outbound now call = (calls, outgoing, effects)) {more : List Bytes}
    (hmore : outgoing ≠ .panicked ∧ more = outgoing.frame?.toList ∨ more = [] ∧ phase ≠ .running) :
    Holds { c with calls, queue := rest, phase } asked (taken ++ [call]) (sent ++ more) := by
  have hcount := h.count hp
  have hnum := h.numbered.outbound (ε := ε) now call
  rw [ho] at hnum
  have howned : Owned asked ((taken ++ [call] ++ rest ++ c.blocked).map identity) := by
    have heq : taken ++ [call] ++ rest = taken ++ c.queue := by
      rw [hq, List.append_assoc, List.singleton_append]
    rw [heq]
    exact h.owned
  have hold : ∀ i f, sent[i]? = some f → ∃ d, (taken ++ [call])[i]? = some d ∧
      Request.encode ⟨d.method, Int32.ofNat (i + 1), d.payload⟩ = .ok f := by
    intro i f hf
    obtain ⟨d, hd, henc⟩ := h.frames i f hf
    exact ⟨d, Calls.getElem?_of_append hd _, henc⟩
  rcases outbound_frames (ε := ε) h now hp hq with ⟨hnone, hge⟩ |
    ⟨g, hsome, hlen, hlt, henc⟩ | hpanic
  · have hframe : outgoing = .declined := by rw [← hnone, ho]
    have hnil : more = [] := by
      rcases hmore with ⟨-, hmore⟩ | ⟨hmore, -⟩
      · rw [hmore, hframe]
        rfl
      · exact hmore
    rw [hnil, List.append_nil]
    refine ⟨hnum, howned, hold, h.le, fun _ => ?_⟩
    rw [List.length_append, List.length_singleton]
    omega
  · have hframe : outgoing = .framed g := by rw [← hsome, ho]
    rcases hmore with ⟨-, hmore⟩ | ⟨hmore, hleft⟩
    · rw [hmore, hframe, Outgoing.frame?]
      refine ⟨hnum, howned, fun i f hf => ?_, ?_, fun _ => ?_⟩
      · rcases Calls.getElem?_of_concat hf with hf | ⟨rfl, rfl⟩
        · exact hold i f hf
        · exact ⟨call, by rw [hlen, List.getElem?_concat_length], henc⟩
      · rw [List.length_append, Option.toList_some, List.length_singleton]
        omega
      · rw [List.length_append, List.length_append, Option.toList_some, List.length_singleton,
          List.length_singleton]
        omega
    · rw [hmore, List.append_nil]
      exact ⟨hnum, howned, hold, h.le, fun hrun => absurd hrun hleft⟩
  · have hframe : outgoing = .panicked := by rw [← hpanic, ho]
    rcases hmore with ⟨hmore, -⟩ | ⟨hmore, hleft⟩
    · exact absurd hframe hmore
    · rw [hmore, List.append_nil]
      exact ⟨hnum, howned, hold, h.le, fun hrun => absurd hrun hleft⟩

variable {t : Terminal S} {deliver : H → Push → Delivery H ε} {now : Instant} {l : S}
  {a : Action} {p : S × List Bytes} {effects : List (Effect ε)}

theorem Holds.change (h : Holds c asked taken sent)
    (hc : Change t.recording deliver now c (l, sent) a c' p effects) :
    Holds c' asked (taken ++ if a = .take then c.queue.head?.toList else []) p.2 := by
  cases hc with
  | queued hb hphase hlt =>
    rw [if_neg (by decide), List.append_nil]
    refine h.of_calls h.numbered ?_ id
    rw [hb, List.append_assoc]
    exact List.Sublist.refl _
  | refused hb hphase =>
    rw [if_neg (by decide), List.append_nil]
    refine h.of_calls h.numbered ?_ id
    rw [hb]
    exact ((List.sublist_cons_self _ _).append_left _).map _
  | @received _ frame hp hr =>
    obtain ⟨hqueue, hblocked, hcalls⟩ := inbound_queue deliver c frame
    rw [if_neg (by decide), List.append_nil, (recording_receive hr).2]
    refine h.of_calls ?_ ?_ fun _ => hp
    · rw [hcalls]
      exact h.numbered.inbound frame
    · rw [hqueue, hblocked]
  | exhausted hp hr =>
    rw [if_neg (by decide), List.append_nil, (recording_receive hr).2]
    exact h.of_calls h.numbered (List.Sublist.refl _) fun _ => hp
  | broken hp hr =>
    rw [if_neg (by decide), List.append_nil, (recording_receive hr).2]
    exact h.of_calls h.numbered (List.Sublist.refl _) fun _ => hp
  | declined hp hq ho =>
    rw [if_pos rfl, hq]
    have hnext := h.take c.phase hp hq ho (Or.inl ⟨Outgoing.noConfusion, rfl⟩)
    rwa [Outgoing.frame?, Option.toList_none, List.append_nil] at hnext
  | sent hp hq ho hs =>
    rw [if_pos rfl, hq, (recording_send hs).2]
    exact h.take c.phase hp hq ho (Or.inl ⟨Outgoing.noConfusion, rfl⟩)
  | @unsent _ _ _ _ _ f hp hq ho hs =>
    rw [if_pos rfl, hq]
    have hnext := h.take (.leaving (.failed f)) hp hq ho (Or.inr ⟨rfl, Phase.noConfusion⟩)
    rwa [List.append_nil] at hnext
  | panicked hp hq ho =>
    rw [if_pos rfl, hq]
    have hnext := h.take (.leaving .panicked) hp hq ho (Or.inr ⟨rfl, Phase.noConfusion⟩)
    rwa [List.append_nil] at hnext
  | swept hp hdue =>
    rw [if_neg (by decide), List.append_nil]
    exact h.of_calls (h.numbered.expire (ε := ε) _) (List.Sublist.refl _) id
  | configured hp hcfg =>
    rw [if_neg (by decide), List.append_nil]
    exact h.of_calls (h.numbered.setTimeout _) (List.Sublist.refl _) id
  | told hp hcl =>
    rw [if_neg (by decide), List.append_nil]
    exact h.of_calls h.numbered (List.Sublist.refl _) fun _ => hp
  | @left e hp =>
    rw [if_neg (by decide), List.append_nil]
    have hp2 : (c.leave (ε := ε) t.recording e (l, sent)).2.1.2 = sent := by
      unfold leave
      split_ifs <;> rfl
    rw [hp2]
    refine h.of_calls (h.numbered.close (ε := ε)) ?_ fun hrun => ?_
    · exact (List.sublist_append_right c.queue c.blocked).map _
    · cases hrun

end

end Client

end Callwire
