import Callwire.Proofs.Client.Entries
import Callwire.Proofs.Frame.Answers
import Callwire.Proofs.Payload.Failures

/-!
# The fate of a call

A call that was handed over waits until it is answered, until a sweep finds its
deadline come or its caller gone, or until the table is closed. An automaton for
one call sees only what happens to that call; the table holds the call, and the
caller gets a result, exactly as the automaton says, whatever happens to all the
other calls in between.
-/

set_option autoImplicit false

namespace Callwire.Calls

inductive Note
  | answered (succeeded : Bool) (payload : Bytes)
  | swept (t : Instant)
  | givenUp
  | closed

def note (id caller : Nat) : Op → Option Note
  | .inbound frame =>
    match Frame.decode .client frame with
    | .ok (.response r) =>
      if r.id.toInt = id then some (.answered true r.payload)
      else if r.id.toInt = -id then some (.answered false r.payload)
      else none
    | _ => none
  | .expire t => some (.swept t)
  | .giveUp c => if c = caller then some .givenUp else none
  | .close => some .closed
  | .outbound _ _ | .setTimeout _ => none

def verdict (succeeded : Bool) (payload : Bytes) : CallResult :=
  if succeeded then .ok payload
  else
    match Payload.decode (α := Failure) payload with
    | .ok f => .error (.remote f.error)
    | .error e => .error (.codec e)

inductive Fate
  | waiting (abandoned : Bool)
  | settled (result : Option CallResult)

namespace Fate

def step (deadline : Option Instant) : Fate → Note → Fate
  | .waiting abandoned, .answered succeeded payload =>
    .settled (if abandoned then none else some (verdict succeeded payload))
  | .waiting abandoned, .swept t =>
    if abandoned then .settled none
    else if ∃ d ∈ deadline, d ≤ t then .settled (some (.error .timeout))
    else .waiting false
  | .waiting _, .givenUp => .waiting true
  | .waiting abandoned, .closed => .settled (if abandoned then none else some (.error .closed))
  | .settled result, _ => .settled result

def run (deadline : Option Instant) (fate : Fate) (notes : List Note) : Fate :=
  notes.foldl (step deadline) fate

def entries (p : PendingCall) : Fate → List PendingCall
  | .waiting abandoned => [{ p with abandoned }]
  | .settled _ => []

def result? : Fate → Option CallResult
  | .waiting _ => none
  | .settled result => result

theorem step_swept_of_due {deadline : Option Instant} {t : Instant}
    (h : ∃ d ∈ deadline, d ≤ t) : step deadline (.waiting false) (.swept t) =
      .settled (some (.error .timeout)) := by
  simp only [step, Bool.false_eq_true, if_false, if_pos h]

theorem step_swept_of_not_due {deadline : Option Instant} {t : Instant}
    (h : ¬ ∃ d ∈ deadline, d ≤ t) : step deadline (.waiting false) (.swept t) =
      .waiting false := by
  simp only [step, Bool.false_eq_true, if_false, if_neg h]

def since : Fate → Fate → List CallResult
  | .waiting _, fate => fate.result?.toList
  | .settled _, _ => []

end Fate

/-! ## One operation -/

section
variable {c : Calls} {calls : List Call} {p : PendingCall} {fate : Fate}

theorem since_self : fate.since fate = [] := by
  cases fate <;> rfl

theorem mem_entries {q : PendingCall} (h : c.entries p.id = fate.entries p)
    (hq : c.find? p.id = some q) : ∃ a, fate = .waiting a ∧ q = { p with abandoned := a } := by
  rw [find?_eq_head?, h] at hq
  cases fate with
  | waiting a => exact ⟨a, rfl, (Option.some.inj hq).symm⟩
  | settled r => exact absurd hq (by simp [Fate.entries])

theorem result_of_id {r : Response} {n : Nat} (hn : 0 < n) (h : r.id.toInt = n) :
    result r = verdict true r.payload := by
  have hs : r.isSuccess = true := (Response.isSuccess_iff r).mpr (by omega)
  simp only [result, hs, verdict, if_true]

theorem result_of_neg {r : Response} {n : Nat} (h : r.id.toInt = -n) :
    result r = verdict false r.payload := by
  have hs : ¬ r.isSuccess = true := fun hs => by
    have := (Response.isSuccess_iff r).mp hs
    omega
  refine (if_neg hs).trans ?_
  unfold verdict
  cases Payload.decode (α := Failure) r.payload with
  | ok f => rfl
  | error e => rfl

/-- The message of a failure, if it can be written. -/
theorem verdict_bytes {f : Failure} (h : (Bytes.ofString f.error).length < UInt64.size) :
    verdict false f.bytes = .error (.remote f.error) := by
  rw [verdict, if_neg Bool.false_ne_true, Failure.decode_bytes h]

theorem note_of_response {frame : Bytes} {r : Response} (id caller : Nat)
    (h : Frame.decode .client frame = .ok (.response r)) : note id caller (.inbound frame) =
      if r.id.toInt = id then some (.answered true r.payload)
      else if r.id.toInt = -id then some (.answered false r.payload)
      else none := by
  simp only [note, h]

theorem note_of_other {frame : Bytes} (id caller : Nat)
    (h : ∀ r, Frame.decode .client frame ≠ .ok (.response r)) :
    note id caller (.inbound frame) = none := by
  unfold note
  dsimp only
  split
  · rename_i r hr
    exact absurd hr (h r)
  · rfl

def Shows (d : Calls) (effects : List (Effect Empty)) (p : PendingCall) (fate next : Fate) :
    Prop :=
  d.entries p.id = next.entries p ∧ resultsFor p.caller effects = fate.since next

theorem shows_respond (h : c.entries p.id = fate.entries p) (r : Response)
    (succeeded : Bool) (hid : r.requestId.toInt.toNat = p.id)
    (hr : result r = verdict succeeded r.payload) :
    Shows (c.respond (ε := Empty) r).1 (c.respond r).2 p fate
      (fate.step p.deadline (.answered succeeded r.payload)) := by
  cases hf : c.find? r.requestId.toInt.toNat with
  | none =>
    have hempty : c.entries p.id = [] := by
      rw [hid, find?_eq_head?] at hf
      exact List.head?_eq_none_iff.mp hf
    rw [respond_of_none hf]
    cases fate with
    | waiting a =>
      rw [hempty] at h
      cases h
    | settled r => exact ⟨h, rfl⟩
  | some q =>
    rw [respond_of_some hf]
    rw [hid] at hf
    obtain ⟨a, rfl, rfl⟩ := mem_entries h hf
    refine ⟨entries_without_self c p.id, ?_⟩
    rw [resultsFor_append, PendingCall.reply, resultsFor_reply, hr]
    have htrace : resultsFor p.caller (failureTrace (ε := Empty) p.method
        (verdict succeeded r.payload)) = [] := by
      cases verdict succeeded r.payload <;> rfl
    rw [htrace]
    cases a <;> simp [Fate.since, Fate.step, Fate.result?]

theorem shows_respond_other (ho : Own c p) (h : c.entries p.id = fate.entries p) (r : Response)
    (hid : r.requestId.toInt.toNat ≠ p.id) :
    Shows (c.respond (ε := Empty) r).1 (c.respond r).2 p fate fate := by
  cases hf : c.find? r.requestId.toInt.toNat with
  | none =>
    rw [respond_of_none hf]
    exact ⟨h, since_self.symm⟩
  | some q =>
    have hq : q.id = r.requestId.toInt.toNat := by simpa using List.find?_some hf
    have hne : q.caller ≠ p.caller :=
      ho.others q (List.mem_of_find?_eq_some hf) (by rw [hq]; exact hid)
    rw [respond_of_some hf]
    refine ⟨by rw [entries_without_other c (by rw [hq]; exact hid), h], ?_⟩
    rw [resultsFor_append, PendingCall.reply, resultsFor_reply, if_neg fun hc => hne hc.1,
      since_self]
    cases result r <;> rfl

def Fate.next (fate : Fate) (p : PendingCall) (op : Op) : Fate :=
  (note p.id p.caller op).elim fate (fate.step p.deadline)

theorem shows_inbound (ho : Own c p) (h : c.entries p.id = fate.entries p) (frame : Bytes) :
    Shows (c.step (.inbound frame)).1 (c.step (.inbound frame)).2.2 p fate
      (fate.next p (.inbound frame)) := by
  by_cases hr : ∃ r, Frame.decode .client frame = .ok (.response r)
  · obtain ⟨r, hr⟩ := hr
    have hstep : c.step (.inbound frame) =
        ((c.respond (ε := Empty) r).1, none, (c.respond r).2) := by
      simp only [step, inbound_of_response hr]
    rw [hstep, Fate.next, note_of_response p.id p.caller hr]
    have hiff := Response.requestId_eq_iff r ho.pos ho.le
    split_ifs with hpos hneg
    · exact shows_respond h r true (hiff.mpr (Or.inl hpos)) (result_of_id ho.pos hpos)
    · exact shows_respond h r false (hiff.mpr (Or.inr hneg)) (result_of_neg hneg)
    · exact shows_respond_other ho h r fun hid => (hiff.mp hid).elim hpos hneg
  · have hother : ∀ r, Frame.decode .client frame ≠ .ok (.response r) := fun r hd => hr ⟨r, hd⟩
    obtain ⟨hsame, htraces⟩ := inbound_of_other (ε := Empty) hother c
    rw [Fate.next, note_of_other p.id p.caller hother]
    refine ⟨?_, ?_⟩
    · show (c.inbound (ε := Empty) frame).1.entries p.id = fate.entries p
      rw [hsame, h]
    · show resultsFor p.caller (c.inbound (ε := Empty) frame).2.1 = fate.since fate
      rw [resultsFor_traces htraces, since_self]

theorem shows_expire (ho : Own c p) (h : c.entries p.id = fate.entries p) (t : Instant) :
    Shows (c.step (.expire t)).1 (c.step (.expire t)).2.2 p fate (fate.next p (.expire t)) := by
  have hothers : ∀ q ∈ (c.pending.filter (!·.abandoned)).filter (·.isDue t), q.id ≠ p.id →
      resultsFor p.caller (timedOut (ε := Empty) q) = [] := by
    intro q hq hid
    have hmem := (List.mem_filter.mp (List.mem_filter.mp hq).1).1
    rw [timedOut, resultsFor_trace, PendingCall.reply, resultsFor_reply,
      if_neg fun hc => ho.others q hmem hid hc.1]
  have hfilter : ((c.pending.filter (!·.abandoned)).filter (·.isDue t)).filter (·.id == p.id) =
      ((fate.entries p).filter (!·.abandoned)).filter (·.isDue t) := by
    rw [← h, entries]
    simp only [List.filter_filter]
    apply List.filter_congr
    intro q _
    cases q.isDue t <;> cases q.abandoned <;> simp
  have hresults : resultsFor p.caller (c.step (.expire t)).2.2 =
      (((fate.entries p).filter (!·.abandoned)).filter (·.isDue t)).flatMap fun q =>
        resultsFor p.caller (timedOut (ε := Empty) q) := by
    rw [← hfilter]
    exact resultsFor_entries timedOut hothers
  have hentries : (c.step (.expire t)).1.entries p.id =
      ((fate.entries p).filter (!·.abandoned)).filter (!·.isDue t) := by
    rw [← h]
    exact entries_expire (ε := Empty) c t p.id
  rw [Shows, hentries, hresults]
  cases fate with
  | settled r => exact ⟨rfl, rfl⟩
  | waiting a =>
    cases a with
    | true => exact ⟨rfl, rfl⟩
    | false =>
      show _ = (Fate.step p.deadline (.waiting false) (.swept t)).entries p ∧
        _ = Fate.since _ (Fate.step p.deadline (.waiting false) (.swept t))
      cases hd : ({ p with abandoned := false } : PendingCall).isDue t with
      | true =>
        rw [Fate.step_swept_of_due ((isDue_iff _ t).mp hd)]
        simp [Fate.entries, Fate.since, Fate.result?, hd, timedOut, PendingCall.reply]
      | false =>
        have hnot : ¬ ∃ d ∈ p.deadline, d ≤ t := fun hdue =>
          Bool.false_ne_true (hd.symm.trans ((isDue_iff { p with abandoned := false } t).mpr hdue))
        rw [Fate.step_swept_of_not_due hnot]
        simp [Fate.entries, Fate.since, Fate.result?, hd]

theorem shows_close (ho : Own c p) (h : c.entries p.id = fate.entries p) :
    Shows (c.step .close).1 (c.step .close).2.2 p fate (fate.next p .close) := by
  have hothers : ∀ q ∈ c.pending, q.id ≠ p.id →
      resultsFor p.caller (q.reply (ε := Empty) (.error .closed)) = [] := by
    intro q hq hid
    rw [PendingCall.reply, resultsFor_reply, if_neg fun hc => ho.others q hq hid hc.1]
  have hresults : resultsFor p.caller (c.step .close).2.2 =
      (fate.entries p).flatMap fun q =>
        resultsFor p.caller (q.reply (ε := Empty) (.error .closed)) := by
    rw [← h]
    exact resultsFor_entries (fun q => q.reply (.error .closed)) hothers
  refine ⟨?_, hresults.trans ?_⟩
  · cases fate <;> rfl
  · cases fate with
    | settled r => rfl
    | waiting a => cases a <;> simp [Fate.entries, Fate.next, note, Fate.step, Fate.since,
        Fate.result?, PendingCall.reply]

theorem shows_giveUp (h : c.entries p.id = fate.entries p) (caller : Nat) :
    Shows (c.step (.giveUp caller)).1 (c.step (.giveUp caller)).2.2 p fate
      (fate.next p (.giveUp caller)) := by
  have hentries : (c.step (.giveUp caller)).1.entries p.id = (fate.entries p).map fun q =>
      if q.caller = caller then { q with abandoned := true } else q := by
    rw [← h]
    exact entries_abandon c caller p.id
  rw [Shows, hentries]
  cases fate with
  | settled r =>
    by_cases hc : caller = p.caller <;>
      simp [Fate.next, note, hc, Fate.entries, Fate.step, Fate.since, step]
  | waiting a =>
    by_cases hc : caller = p.caller
    · simp [Fate.next, note, hc, Fate.entries, Fate.step, Fate.since, Fate.result?, step]
    · simp [Fate.next, note, hc, Ne.symm hc, Fate.entries, Fate.since, Fate.result?, step]

/-- A call that was handed over before does not see another one. -/
theorem shows_outbound (hnum : Numbered c calls) (hle : p.id ≤ calls.length)
    (h : c.entries p.id = fate.entries p) (now : Instant) {call : Call}
    (hne : call.caller ≠ p.caller) :
    Shows (c.step (.outbound now call)).1 (c.step (.outbound now call)).2.2 p fate
      (fate.next p (.outbound now call)) := by
  have hreply : ∀ e,
      resultsFor p.caller (reply (ε := Empty) call.caller call.abandoned e) = [] := by
    intro e
    rw [resultsFor_reply, if_neg fun hc => hne hc.1]
  show Shows (c.outbound (ε := Empty) now call).1 (c.outbound now call).2.2 p fate fate
  rw [Shows, since_self]
  rcases outbound_cases (ε := Empty) c hnum now call with ⟨-, heq⟩ | ⟨-, e, -, heq⟩ |
    ⟨-, -, frame, -, heq⟩ | ⟨-, -, heq⟩
  · rw [heq]
    exact ⟨h, hreply _⟩
  · rw [heq]
    exact ⟨h, hreply _⟩
  · rw [heq]
    refine ⟨?_, rfl⟩
    rw [← h, entries, List.filter_append, List.filter_singleton]
    have hid : (calls.length + 1 == p.id) = false := beq_eq_false_iff_ne.mpr (by omega)
    simp [hid, entries]
  · rw [heq]
    exact ⟨h, hreply _⟩

theorem shows_step (hnum : Numbered c calls) (ho : Own c p) (hle : p.id ≤ calls.length)
    (h : c.entries p.id = fate.entries p) (op : Op)
    (hne : ∀ call ∈ op.call?, call.caller ≠ p.caller) :
    Shows (c.step op).1 (c.step op).2.2 p fate (fate.next p op) := by
  cases op with
  | outbound now call => exact shows_outbound hnum hle h now (hne call rfl)
  | inbound frame => exact shows_inbound ho h frame
  | expire t => exact shows_expire ho h t
  | setTimeout timeout => exact ⟨h, since_self.symm⟩
  | giveUp caller => exact shows_giveUp h caller
  | close => exact shows_close ho h

end

end Callwire.Calls
