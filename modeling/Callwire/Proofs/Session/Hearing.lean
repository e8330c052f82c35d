import Callwire.Proofs.Session.Asking

/-!
# What a client hears

What a change of a client does to its link, and which results it lets out. A
payload or the message of a failure comes from a response to a pending call, and
from nowhere else.
-/

set_option autoImplicit false

namespace Callwire

def Answer (r : CallResult) : Prop := (∃ b, r = .ok b) ∨ ∃ text, r = .error (.remote text)

theorem not_answer {e : RequestError} (h : ∀ text, e ≠ .remote text) : ¬ Answer (.error e) := by
  rintro (⟨b, hb⟩ | ⟨text, ht⟩)
  · cases hb
  · exact h text (Except.error.inj ht)

theorem mem_reply {ε : Type} {caller k : Nat} {abandoned : Bool} {r q : CallResult}
    (h : Effect.finish k r ∈ reply (ε := ε) caller abandoned q) : k = caller ∧ r = q := by
  unfold reply at h
  split_ifs at h
  · cases h
  · cases List.mem_singleton.mp h
    exact ⟨rfl, rfl⟩

namespace Calls

variable {ε : Type}

def Completes (c : Calls) (frame : Bytes) (caller : Nat) (r : CallResult) : Prop :=
  ∃ response p, Frame.decode .client frame = .ok (.response response) ∧
    c.find? response.requestId.toInt.toNat = some p ∧ p.caller = caller ∧ r = result response

theorem finish_mem_inbound {c : Calls} {frame : Bytes} {caller : Nat} {r : CallResult}
    (h : .finish caller r ∈ (c.inbound (ε := ε) frame).2.1) : c.Completes frame caller r := by
  by_cases hr : ∃ response, Frame.decode .client frame = .ok (.response response)
  · obtain ⟨response, hr⟩ := hr
    rw [inbound_of_response hr] at h
    cases hf : c.find? response.requestId.toInt.toNat with
    | none =>
      rw [respond_of_none hf] at h
      simp at h
    | some p =>
      rw [respond_of_some hf] at h
      rcases List.mem_append.mp h with h | h
      · cases hres : result response <;> simp [hres, failureTrace] at h
      · obtain ⟨rfl, rfl⟩ := mem_reply h
        exact ⟨response, p, hr, hf, rfl, rfl⟩
  · obtain ⟨t, ht⟩ := (inbound_of_other (fun q hd => hr ⟨q, hd⟩) c).2 _ h
    cases ht

theorem finish_mem_outbound {c : Calls} {now : Instant} {call : Call} {caller : Nat}
    {r : CallResult} (h : .finish caller r ∈ (c.outbound (ε := ε) now call).2.2) :
    ¬ Answer r := by
  unfold outbound at h
  cases hn : c.nextId with
  | none =>
    simp only [hn] at h
    obtain ⟨-, rfl⟩ := mem_reply h
    exact not_answer (by simp)
  | some id =>
    simp only [hn] at h
    cases he : Request.encode ⟨call.method, Int32.ofNat id, call.payload⟩ with
    | error e =>
      simp only [he] at h
      obtain ⟨-, rfl⟩ := mem_reply h
      exact not_answer (by simp)
    | ok frame =>
      simp only [he] at h
      split_ifs at h
      · cases h
      · obtain ⟨-, rfl⟩ := mem_reply h
        exact not_answer (by simp)

theorem finish_mem_expire {c : Calls} {t : Instant} {caller : Nat} {r : CallResult}
    (h : .finish caller r ∈ (c.expire (ε := ε) t).2) : ¬ Answer r := by
  obtain ⟨p, -, hp⟩ := List.mem_flatMap.mp h
  rcases List.mem_cons.mp hp with hp | hp
  · cases hp
  · obtain ⟨-, rfl⟩ := mem_reply hp
    exact not_answer (by simp)

theorem finish_mem_close {c : Calls} {caller : Nat} {r : CallResult}
    (h : .finish caller r ∈ (c.close (ε := ε)).2) : ¬ Answer r := by
  obtain ⟨p, -, hp⟩ := List.mem_flatMap.mp h
  obtain ⟨-, rfl⟩ := mem_reply hp
  exact not_answer (by simp)

end Calls

namespace Client

variable {H S ε : Type} {ends : Side → Terminal S} {deliver : H → Push → Delivery H ε}
  {now : Instant} {c c' : Client H} {l : S} {sent : List Bytes} {a : Action}
  {p : S × List Bytes} {effects : List (Effect ε)}

theorem finish_mem_inbound
    (quiet : ∀ hub p caller r, Effect.finish caller r ∉ (deliver hub p).effects) {frame : Bytes}
    {caller : Nat} {r : CallResult} (h : .finish caller r ∈ (c.inbound deliver frame).2) :
    c.calls.Completes frame caller r := by
  apply Calls.finish_mem_inbound (ε := ε)
  unfold inbound at h
  rcases hi : c.calls.inbound (ε := ε) frame with ⟨calls, es, _ | push⟩
  · rw [hi] at h
    exact h
  · rw [hi] at h
    rcases List.mem_append.mp h with h | h
    · exact h
    · exact absurd h (quiet _ _ _ _)

theorem finish_mem_leave {t : Terminal S} {e : TaskEnd} {caller : Nat} {r : CallResult}
    (h : .finish caller r ∈ (c.leave (ε := ε) t e l).2.2) : ¬ Answer r := by
  rcases List.mem_append.mp h with h | h
  · rcases List.mem_append.mp h with h | h
    · exact Calls.finish_mem_close h
    · obtain ⟨q, -, hq⟩ := List.mem_flatMap.mp h
      obtain ⟨-, rfl⟩ := mem_reply hq
      exact not_answer (by simp)
  · cases e <;> simp [endTrace] at h

theorem Change.running {t : Terminal S} {k k' : S} (hc : Change t deliver now c k a c' k' effects)
    (h : c'.phase = .running) : c.phase = .running := by
  cases hc with
  | queued hb hphase hlt => exact h
  | refused hb hphase => exact h
  | received hp hreceive => exact hp
  | exhausted hp hreceive => exact hp
  | broken hp hreceive => exact hp
  | declined hp hq ho => exact hp
  | sent hp hq ho hs => exact hp
  | unsent hp hq ho hs => exact hp
  | panicked hp hq ho => exact hp
  | swept hp hdue => exact hp
  | configured hp hcfg => exact hp
  | told hp hcl => exact hp
  | left hp => cases h

/-- Only a frame that is received lets an answer out. -/
theorem Change.answer
    (quiet : ∀ hub p caller r, Effect.finish caller r ∉ (deliver hub p).effects)
    (hc : Change (ends .a).recording deliver now c (l, sent) a c' p effects)
    {caller : Nat} {r : CallResult} (h : .finish caller r ∈ effects) (hr : Answer r) :
    ∃ frame, c.phase = .running ∧ (ends .a).receive l = (p.1, .message frame) ∧
      c.calls.Completes frame caller r := by
  cases hc with
  | queued hb hphase hlt => cases h
  | refused hb hphase =>
    obtain ⟨-, rfl⟩ := mem_reply h
    exact absurd hr (not_answer (by simp))
  | @received _ frame hp hreceive =>
    exact ⟨frame, hp, (recording_receive hreceive).1, finish_mem_inbound quiet h⟩
  | exhausted hp hreceive => cases h
  | broken hp hreceive => cases h
  | declined hp hq ho => exact absurd hr (Calls.finish_mem_outbound (by rw [ho]; exact h))
  | sent hp hq ho hs => exact absurd hr (Calls.finish_mem_outbound (by rw [ho]; exact h))
  | unsent hp hq ho hs => exact absurd hr (Calls.finish_mem_outbound (by rw [ho]; exact h))
  | panicked hp hq ho => exact absurd hr (Calls.finish_mem_outbound (by rw [ho]; exact h))
  | swept hp hdue => exact absurd hr (Calls.finish_mem_expire h)
  | configured hp hcfg => cases h
  | told hp hcl => cases h
  | left hp => exact absurd hr (finish_mem_leave h)

/-- Frames that a change sends are on their way, and what comes to the client is
taken off the front. -/
theorem Change.link {Carries : Bytes → Prop} (fifo : Fifo ends Carries)
    (hc : Change (ends .a).recording deliver now c (l, sent) a c' p effects) :
    ∃ out, p.2 = sent ++ out ∧
      (∀ ms, (∀ m ∈ out, Carries m) → fifo.underway .b l ms → fifo.underway .b p.1 (ms ++ out)) ∧
      (c'.phase = .running → ∀ ms, fifo.underway .a l ms →
        ∃ rest, rest <:+ ms ∧ fifo.underway .a p.1 rest) := by
  have hstill : ∃ out, sent = sent ++ out ∧
      (∀ ms, (∀ m ∈ out, Carries m) → fifo.underway .b l ms → fifo.underway .b l (ms ++ out)) ∧
      (c'.phase = .running → ∀ ms, fifo.underway .a l ms →
        ∃ rest, rest <:+ ms ∧ fifo.underway .a l rest) :=
    ⟨[], (List.append_nil _).symm, fun ms _ h => by rwa [List.append_nil],
      fun _ ms h => ⟨ms, List.suffix_rfl, h⟩⟩
  cases hc with
  | queued hb hphase hlt => exact hstill
  | refused hb hphase => exact hstill
  | @received _ frame hp hreceive =>
    obtain ⟨hr, hsent⟩ := recording_receive hreceive
    refine ⟨[], by rw [hsent, List.append_nil], fun ms _ h => ?_, fun _ ms h => ?_⟩
    · rw [List.append_nil]
      exact fifo.receive_keeps hr h
    · obtain ⟨rest, rfl, hrest⟩ := fifo.received hr h
      exact ⟨rest, List.suffix_cons frame rest, hrest⟩
  | exhausted hp hreceive =>
    obtain ⟨hr, hsent⟩ := recording_receive hreceive
    refine ⟨[], by rw [hsent, List.append_nil], fun ms _ h => ?_, fun hrun => by cases hrun⟩
    rw [List.append_nil]
    exact fifo.receive_keeps hr h
  | broken hp hreceive =>
    obtain ⟨hr, hsent⟩ := recording_receive hreceive
    refine ⟨[], by rw [hsent, List.append_nil], fun ms _ h => ?_, fun hrun => by cases hrun⟩
    rw [List.append_nil]
    exact fifo.receive_keeps hr h
  | declined hp hq ho => exact hstill
  | @sent _ _ _ _ frame _ hp hq ho hs =>
    obtain ⟨hsend, hsent⟩ := recording_send hs
    refine ⟨[frame], hsent, fun ms hm h => ?_, fun _ ms h => ?_⟩
    · exact fifo.sent hsend (hm frame (List.mem_singleton_self frame)) h
    · exact ⟨ms, List.suffix_rfl, fifo.send_keeps hsend h⟩
  | unsent hp hq ho hs => exact hstill
  | panicked hp hq ho => exact hstill
  | swept hp hdue => exact hstill
  | configured hp hcfg => exact hstill
  | told hp hcl => exact hstill
  | @left e hp =>
    refine ⟨[], ?_, fun ms _ h => ?_, fun hrun => by cases hrun⟩
    · unfold leave
      split_ifs <;> exact (List.append_nil _).symm
    · rw [List.append_nil]
      show fifo.underway .b ((ends .a).recording.detach
        (if e = .panicked then (l, sent) else (ends .a).recording.shutdown (l, sent))).1 ms
      split_ifs
      · exact fifo.detach_keeps (s := .a) h
      · exact fifo.detach_keeps (s := .a) (fifo.shutdown_keeps (s := .a) h)

end Client

end Callwire
