import Callwire.Client.Calls
import Callwire.Proofs.Frame.Requests

/-!
# Numbers of calls

The calls handed to a connection are numbered in order, from one on. Whatever
else happens to the table of pending calls, an entry under a number belongs to
the caller of the call with that number.
-/

set_option autoImplicit false

namespace Callwire.Calls

variable {ε : Type}

structure Numbered (c : Calls) (handed : List Call) : Prop where
  next : c.nextId = if handed.length < Frame.maxId then some (handed.length + 1) else none
  pending : ∀ p ∈ c.pending, 0 < p.id ∧ p.id ≤ Frame.maxId ∧
    ∃ call, handed[p.id - 1]? = some call ∧ call.caller = p.caller

theorem numbered_fresh (timeout : Option Nat) : Numbered (fresh timeout) [] :=
  ⟨rfl, fun p hp => absurd hp (by simp [fresh])⟩

theorem getElem?_of_append {α : Type} {l : List α} {i : Nat} {a : α} (h : l[i]? = some a)
    (m : List α) : (l ++ m)[i]? = some a := by
  obtain ⟨hlt, -⟩ := List.getElem?_eq_some_iff.mp h
  rw [List.getElem?_append_left hlt, h]

theorem getElem?_of_concat {α : Type} {l : List α} {i : Nat} {a b : α}
    (h : (l ++ [a])[i]? = some b) : l[i]? = some b ∨ i = l.length ∧ a = b := by
  rcases Nat.lt_trichotomy i l.length with hlt | rfl | hgt
  · rw [List.getElem?_append_left hlt] at h
    exact Or.inl h
  · rw [List.getElem?_concat_length, Option.some.injEq] at h
    exact Or.inr ⟨rfl, h⟩
  · obtain ⟨hlt, -⟩ := List.getElem?_eq_some_iff.mp h
    rw [List.length_append, List.length_singleton] at hlt
    omega

/-- What keeps the ids and callers of the entries keeps the numbers. -/
theorem Numbered.of_entries {c d : Calls} {handed : List Call} (h : Numbered c handed)
    (hnext : d.nextId = c.nextId)
    (hpending : ∀ q ∈ d.pending, ∃ p ∈ c.pending, p.id = q.id ∧ p.caller = q.caller) :
    Numbered d handed := by
  refine ⟨hnext.trans h.next, fun q hq => ?_⟩
  obtain ⟨p, hp, hid, hcaller⟩ := hpending q hq
  rw [← hid, ← hcaller]
  exact h.pending p hp

/-- What an outbound call does: it gets the next number, if there is one, and is registered
if its name can be framed and its deadline is on the clock. -/
theorem outbound_cases (c : Calls) {handed : List Call} (h : Numbered c handed) (now : Instant)
    (call : Call) :
    (¬ handed.length < Frame.maxId ∧ c.outbound (ε := ε) now call =
      (c, .declined, reply call.caller call.abandoned (.error .idsExhausted))) ∨
    (handed.length < Frame.maxId ∧ ∃ e, Frame.checkName call.method = .error e ∧
      c.outbound (ε := ε) now call = (c.advance (handed.length + 1), .declined,
        reply call.caller call.abandoned (.error (.frame e)))) ∨
    (handed.length < Frame.maxId ∧ OnClock (c.timeout.map fun t => now + Instant.ofMillis t) ∧
      ∃ frame,
        Request.encode ⟨call.method, Int32.ofNat (handed.length + 1), call.payload⟩ = .ok frame ∧
        c.outbound (ε := ε) now call =
          ({ c.advance (handed.length + 1) with
              pending := c.pending ++ [⟨handed.length + 1, call.method,
                c.timeout.map fun t => now + Instant.ofMillis t, call.caller, call.abandoned⟩] },
            .framed frame, [])) ∨
    (handed.length < Frame.maxId ∧ ¬ OnClock (c.timeout.map fun t => now + Instant.ofMillis t) ∧
      c.outbound (ε := ε) now call = (c.advance (handed.length + 1), .panicked,
        reply call.caller call.abandoned (.error .closed))) := by
  by_cases hlt : handed.length < Frame.maxId
  · have hnext : c.nextId = some (handed.length + 1) := by rw [h.next, if_pos hlt]
    cases hname : Frame.checkName call.method with
    | error e =>
      right; left
      refine ⟨hlt, e, rfl, ?_⟩
      have henc : Request.encode ⟨call.method, Int32.ofNat (handed.length + 1), call.payload⟩ =
          .error e := by
        simp only [Request.encode, hname]
        rfl
      simp only [outbound, hnext, henc]
    | ok u =>
      have henc := Request.encode_of_checkName
        (r := ⟨call.method, Int32.ofNat (handed.length + 1), call.payload⟩) hname
      right; right
      by_cases hclock : OnClock (c.timeout.map fun t => now + Instant.ofMillis t)
      · left
        refine ⟨hlt, hclock, _, henc, ?_⟩
        simp only [outbound, hnext, henc]
        exact if_pos hclock
      · right
        refine ⟨hlt, hclock, ?_⟩
        simp only [outbound, hnext, henc]
        exact if_neg hclock
  · left
    have hnext : c.nextId = none := by rw [h.next, if_neg hlt]
    exact ⟨hlt, by simp only [outbound, hnext]⟩

theorem advance_next (c : Calls) (n : Nat) :
    (c.advance (n + 1)).nextId = if n + 1 < Frame.maxId then some (n + 1 + 1) else none := rfl

theorem Numbered.outbound {c : Calls} {handed : List Call} (h : Numbered c handed)
    (now : Instant) (call : Call) :
    Numbered (c.outbound (ε := ε) now call).1 (handed ++ [call]) := by
  have hold : ∀ p ∈ c.pending, 0 < p.id ∧ p.id ≤ Frame.maxId ∧
      ∃ d, (handed ++ [call])[p.id - 1]? = some d ∧ d.caller = p.caller := by
    intro p hp
    obtain ⟨h0, hmax, d, hd, hcaller⟩ := h.pending p hp
    exact ⟨h0, hmax, d, getElem?_of_append hd _, hcaller⟩
  rcases outbound_cases (ε := ε) c h now call with ⟨hge, heq⟩ | ⟨hlt, e, -, heq⟩ |
    ⟨hlt, -, frame, -, heq⟩ | ⟨hlt, -, heq⟩
  · rw [heq]
    refine ⟨?_, hold⟩
    rw [h.next, if_neg hge, if_neg (by rw [List.length_append, List.length_singleton]; omega)]
  · rw [heq]
    exact ⟨by rw [advance_next, List.length_append, List.length_singleton], hold⟩
  · rw [heq]
    refine ⟨by rw [List.length_append, List.length_singleton]; rfl, fun p hp => ?_⟩
    rcases List.mem_append.mp hp with hp | hp
    · exact hold p hp
    · rw [List.mem_singleton] at hp
      subst hp
      exact ⟨Nat.succ_pos _, hlt, call, List.getElem?_concat_length, rfl⟩
  · rw [heq]
    exact ⟨by rw [advance_next, List.length_append, List.length_singleton], hold⟩

theorem Numbered.without {c : Calls} {handed : List Call} (h : Numbered c handed) (id : Nat) :
    Numbered (c.without id) handed := by
  refine h.of_entries rfl fun q hq => ?_
  exact ⟨q, (List.mem_filter.mp hq).1, rfl, rfl⟩

theorem respond_of_none {c : Calls} {r : Response}
    (h : c.find? r.requestId.toInt.toNat = none) : c.respond (ε := ε) r =
      (c, [.trace ⟨.error, "no pending call found for id " ++ toString r.id.toInt⟩]) := by
  simp only [respond, h]

theorem respond_of_some {c : Calls} {r : Response} {p : PendingCall}
    (h : c.find? r.requestId.toInt.toNat = some p) : c.respond (ε := ε) r =
      (c.without p.id, failureTrace p.method (result r) ++ p.reply (result r)) := by
  simp only [respond, h]

theorem inbound_of_response {frame : Bytes} {r : Response}
    (h : Frame.decode .client frame = .ok (.response r)) (c : Calls) :
    c.inbound (ε := ε) frame = ((c.respond (ε := ε) r).1, (c.respond r).2, none) := by
  simp only [inbound, h]

/-- A frame that is no response leaves the table alone and leaves no more than a
trace. -/
theorem inbound_of_other {frame : Bytes}
    (h : ∀ r, Frame.decode .client frame ≠ .ok (.response r)) (c : Calls) :
    (c.inbound (ε := ε) frame).1 = c ∧
      ∀ e ∈ (c.inbound (ε := ε) frame).2.1, ∃ t, e = .trace t := by
  unfold inbound
  cases hd : Frame.decode .client frame with
  | error e => exact ⟨rfl, fun e he => ⟨_, List.mem_singleton.mp he⟩⟩
  | ok f =>
    cases f with
    | request r => exact ⟨rfl, fun e he => ⟨_, List.mem_singleton.mp he⟩⟩
    | response r => exact absurd hd (h r)
    | push p => exact ⟨rfl, fun e he => absurd he (by simp)⟩

theorem Numbered.respond {c : Calls} {handed : List Call} (h : Numbered c handed)
    (r : Response) : Numbered (c.respond (ε := ε) r).1 handed := by
  cases hf : c.find? r.requestId.toInt.toNat with
  | none =>
    rw [respond_of_none hf]
    exact h
  | some p =>
    rw [respond_of_some hf]
    exact h.without p.id

theorem Numbered.inbound {c : Calls} {handed : List Call} (h : Numbered c handed)
    (frame : Bytes) : Numbered (c.inbound (ε := ε) frame).1 handed := by
  by_cases hr : ∃ r, Frame.decode .client frame = .ok (.response r)
  · obtain ⟨r, hr⟩ := hr
    rw [inbound_of_response hr]
    exact h.respond r
  · rw [(inbound_of_other (fun r hd => hr ⟨r, hd⟩) c).1]
    exact h

theorem Numbered.expire {c : Calls} {handed : List Call} (h : Numbered c handed) (t : Instant) :
    Numbered (c.expire (ε := ε) t).1 handed := by
  refine h.of_entries rfl fun q hq => ?_
  exact ⟨q, (List.mem_filter.mp (List.mem_filter.mp hq).1).1, rfl, rfl⟩

theorem Numbered.close {c : Calls} {handed : List Call} (h : Numbered c handed) :
    Numbered (c.close (ε := ε)).1 handed :=
  h.of_entries rfl fun q hq => absurd hq (by simp [Calls.close])

theorem Numbered.setTimeout {c : Calls} {handed : List Call} (h : Numbered c handed)
    (timeout : Option Nat) : Numbered (c.setTimeout timeout) handed :=
  ⟨h.next, h.pending⟩

theorem Numbered.abandon {c : Calls} {handed : List Call} (h : Numbered c handed)
    (caller : Nat) : Numbered (c.abandon caller) handed := by
  refine h.of_entries rfl fun q hq => ?_
  obtain ⟨p, hp, rfl⟩ := List.mem_map.mp hq
  refine ⟨p, hp, ?_, ?_⟩ <;> split_ifs <;> rfl

end Callwire.Calls
