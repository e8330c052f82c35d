import Callwire.Proofs.Lifetime.Settled

/-!
# Deadlines

The deadline of a call is set when the call is taken off the queue, from the time
and the timeout of that moment, and never moves. A call times out only after it.
-/

set_option autoImplicit false

namespace Callwire

namespace Calls

variable {ε : Type} {c : Calls}

theorem pending_inbound {frame : Bytes} {q : PendingCall}
    (hq : q ∈ (c.inbound (ε := ε) frame).1.pending) : q ∈ c.pending := by
  by_cases hr : ∃ r, Frame.decode .client frame = .ok (.response r)
  · obtain ⟨r, hr⟩ := hr
    rw [inbound_of_response hr] at hq
    cases hf : c.find? r.requestId.toInt.toNat with
    | none =>
      rw [respond_of_none hf] at hq
      exact hq
    | some p =>
      rw [respond_of_some hf] at hq
      exact (List.mem_filter.mp hq).1
  · rw [(inbound_of_other (fun r hd => hr ⟨r, hd⟩) c).1] at hq
    exact hq

theorem pending_expire {t : Instant} {q : PendingCall}
    (hq : q ∈ (c.expire (ε := ε) t).1.pending) :
    q ∈ c.pending ∧ q.abandoned = false ∧ q.isDue t = false := by
  simpa [expire, and_comm] using hq

/-- No answer says that the time is up. -/
theorem result_ne_timeout (r : Response) : result r ≠ .error .timeout := by
  unfold result
  split_ifs
  · exact fun h => by cases h
  · split <;> exact fun h => by cases h

theorem inbound_no_timeout (c : Calls) (frame : Bytes) (caller : Nat) :
    (caller, .error .timeout) ∉ finished (c.inbound (ε := ε) frame).2.1 := by
  by_cases hr : ∃ r, Frame.decode .client frame = .ok (.response r)
  · obtain ⟨r, hr⟩ := hr
    rw [inbound_of_response hr]
    cases hf : c.find? r.requestId.toInt.toNat with
    | none =>
      rw [respond_of_none hf]
      simp
    | some p =>
      have htrace : finished (failureTrace (ε := ε) p.method (result r)) = [] := by
        cases result r <;> rfl
      have hne := result_ne_timeout r
      rw [respond_of_some hf]
      simp only [finished_append, htrace, PendingCall.reply, finished_reply, List.nil_append]
      split_ifs
      · simp
      · simp only [List.mem_singleton, Prod.mk.injEq]
        exact fun h => hne h.2.symm
  · have htraces := (inbound_of_other (ε := ε) (fun r hd => hr ⟨r, hd⟩) c).2
    have hnone : finished (c.inbound (ε := ε) frame).2.1 = [] := by
      apply finished_eq_nil
      intro caller r hmem
      obtain ⟨t, ht⟩ := htraces _ hmem
      cases ht
    simp [hnone]

variable {handed : List Call}

/-- A call that is taken off the queue becomes pending with a deadline of its own. -/
theorem pending_outbound (hnum : c.Numbered handed) {now : Instant} {call : Call} {q : PendingCall}
    (hq : q ∈ (c.outbound (ε := ε) now call).1.pending) : q ∈ c.pending ∨
      q = ⟨handed.length + 1, call.method, c.timeout.map fun t => now + Instant.ofMillis t,
        call.caller, call.abandoned⟩ := by
  rcases outbound_cases (ε := ε) c hnum now call with ⟨-, heq⟩ | ⟨-, e, -, heq⟩ |
    ⟨-, -, frame, -, heq⟩ | ⟨-, -, heq⟩
  · rw [heq] at hq
    exact Or.inl hq
  · rw [heq] at hq
    exact Or.inl hq
  · rw [heq] at hq
    rcases List.mem_append.mp hq with hq | hq
    · exact Or.inl hq
    · exact Or.inr (List.mem_singleton.mp hq)
  · rw [heq] at hq
    exact Or.inl hq

theorem outbound_no_timeout (hnum : c.Numbered handed) (now : Instant) (call : Call)
    (caller : Nat) : (caller, .error .timeout) ∉ finished (c.outbound (ε := ε) now call).2.2 := by
  rcases outbound_cases (ε := ε) c hnum now call with ⟨-, heq⟩ | ⟨-, e, -, heq⟩ |
    ⟨-, -, frame, -, heq⟩ | ⟨-, -, heq⟩ <;> rw [heq]
  · rw [finished_reply]
    split_ifs <;> simp
  · rw [finished_reply]
    split_ifs <;> simp
  · simp
  · rw [finished_reply]
    split_ifs <;> simp

end Calls

namespace Client

variable {H S ε : Type} {now : Instant} {c c' : Client H} {a : Action}
  {effects : List (Effect ε)} {handed : List Call}

/-- Entries of the pending calls are put in by one action, and not changed by any. -/
theorem Worked.pending (hw : Worked now c c' a effects) (hnum : c.calls.Numbered handed)
    {q : PendingCall} (hq : q ∈ c'.calls.pending) :
    q ∈ c.calls.pending ∨ a = .take ∧ ∃ call rest, c.queue = call :: rest ∧
      q = ⟨handed.length + 1, call.method, c.calls.timeout.map fun t => now + Instant.ofMillis t,
        call.caller, call.abandoned⟩ := by
  cases hw with
  | kept hcalls =>
    rw [hcalls] at hq
    exact Or.inl hq
  | received frame hcalls =>
    rw [hcalls] at hq
    exact Or.inl (Calls.pending_inbound hq)
  | took call rest ha hqueue hcalls =>
    rw [hcalls] at hq
    rcases Calls.pending_outbound hnum hq with hold | hnew
    · exact Or.inl hold
    · exact Or.inr ⟨ha, call, rest, hqueue, hnew⟩
  | swept hdue hcalls =>
    rw [hcalls] at hq
    exact Or.inl (Calls.pending_expire hq).1
  | configured timeout hcalls =>
    rw [hcalls] at hq
    exact Or.inl hq
  | left hcalls =>
    rw [hcalls] at hq
    cases hq

/-- Only a sweep makes a call time out, and only one whose deadline has come. -/
theorem Worked.timed_out (hw : Worked now c c' a effects) (hnum : c.calls.Numbered handed)
    {caller : Nat} (h : (caller, .error .timeout) ∈ finished effects) :
    ∃ p ∈ c.calls.pending, p.caller = caller ∧ ∃ d ∈ p.deadline, d ≤ now := by
  cases hw with
  | kept hcalls hsweep hresults => cases hresults _ h
  | received frame hcalls hsweep hresults =>
    rw [hresults] at h
    exact absurd h (Calls.inbound_no_timeout c.calls frame caller)
  | took call rest ha hqueue hcalls hsweep heffects =>
    rw [heffects] at h
    exact absurd h (Calls.outbound_no_timeout hnum now call caller)
  | swept hdue hcalls hsweep heffects =>
    rw [heffects, Calls.finished_expire] at h
    obtain ⟨p, hp, heq⟩ := List.mem_map.mp h
    obtain ⟨hmem, hpdue⟩ := List.mem_filter.mp hp
    obtain ⟨d, hd, hle⟩ := (Calls.isDue_iff p _).mp hpdue
    have hcaller : p.caller = caller := congrArg Prod.fst heq
    exact ⟨p, (List.mem_filter.mp hmem).1, hcaller, d, hd, Nat.le_trans hle hdue⟩
  | configured timeout hcalls hsweep heffects =>
    rw [heffects] at h
    cases h
  | left hcalls hsweep hresults => cases hresults _ h

namespace Life

variable {u : Setting S H ε} {s s' : Life S H}

structure Timed (s : Life S H) : Prop where
  pending : ∀ p ∈ s.client.calls.pending, ∃ x, s.taken[p.id - 1]? = some x ∧
    x.call.caller = p.caller ∧ p.deadline = x.deadline
  results : ∀ r ∈ s.results, r.result = .error .timeout →
    ∃ x ∈ s.taken, x.call.caller = r.caller ∧ ∃ d ∈ x.deadline, d ≤ r.time

theorem timed_start (now : Instant) (link : S) (hub : H) (timeout : Option Nat) :
    Timed (start now link hub timeout) where
  pending := fun p hp => by cases hp
  results := fun r hr => by cases hr

theorem Timed.grow (h : Timed s) (hg : Grows s s') :
    (∀ p ∈ s.client.calls.pending, ∃ x, s'.taken[p.id - 1]? = some x ∧
      x.call.caller = p.caller ∧ p.deadline = x.deadline) ∧
    ∀ r ∈ s.results, r.result = .error .timeout →
      ∃ x ∈ s'.taken, x.call.caller = r.caller ∧ ∃ d ∈ x.deadline, d ≤ r.time := by
  obtain ⟨more, hmore⟩ := hg.taken
  constructor
  · intro p hp
    obtain ⟨x, hx, hkept⟩ := h.pending p hp
    exact ⟨x, by rw [← hmore, Calls.getElem?_of_append hx], hkept⟩
  · intro r hr htimeout
    obtain ⟨x, hx, hkept⟩ := h.results r hr htimeout
    exact ⟨x, hg.taken.subset hx, hkept⟩

theorem Timed.act (h : Timed s) (hsound : Sound s) {a : Action} (hs : s.act u a = some s') :
    Timed s' := by
  have hgrows : Grows s s' := grows_of_step (show s.step u (.act a) = some s' from hs)
  obtain ⟨hpending, hresults⟩ := h.grow hgrows
  have hnum := hsound.holds.numbered
  obtain ⟨c, p, effects, hc, rfl⟩ := change_of_act hs
  have hworked := hc.worked u.quiet
  constructor
  · intro q hq
    rcases hworked.pending hnum hq with hold | ⟨rfl, call, rest, hqueue, rfl⟩
    · exact hpending q hold
    · have htaken : (s.become .take c p effects).taken =
          s.taken ++ [⟨call, s.now, s.client.calls.timeout⟩] := by
        simp only [become, takes, hqueue, if_pos]
        rfl
      refine ⟨⟨call, s.now, s.client.calls.timeout⟩, ?_, rfl, rfl⟩
      rw [htaken, List.length_map, Nat.add_sub_cancel, List.getElem?_concat_length]
  · intro r hr htimeout
    rcases List.mem_append.mp hr with hr | hr
    · exact hresults r hr htimeout
    · obtain ⟨⟨caller, result⟩, hmem, rfl⟩ := List.mem_map.mp hr
      simp only at htimeout
      rw [htimeout] at hmem
      obtain ⟨q, hq, hcaller, d, hd, hle⟩ := hworked.timed_out hnum hmem
      obtain ⟨x, hx, hxcaller, hdeadline⟩ := hpending q hq
      exact ⟨x, List.mem_of_getElem? hx, hxcaller.trans hcaller, d, hdeadline ▸ hd, hle⟩

theorem Timed.step (h : Timed s) (hsound : Sound s) {move : Move S H}
    (hs : s.step u move = some s') : Timed s' := by
  rcases act_or_aside hs with ⟨a, rfl⟩ | haside
  · exact h.act hsound hs
  · obtain ⟨hpending, hresults⟩ := h.grow (grows_of_step hs)
    constructor
    · intro q hq
      obtain ⟨p, hp, hid, hcaller, hdeadline, -⟩ := haside.pending q hq
      rw [← hid, ← hcaller, ← hdeadline]
      exact hpending p hp
    · intro r hr htimeout
      rcases haside.results with hsame | ⟨name, payload, e, -, -, hmore⟩
      · rw [hsame] at hr
        exact hresults r hr htimeout
      · rw [hmore] at hr
        rcases List.mem_append.mp hr with hr | hr
        · exact hresults r hr htimeout
        · rw [List.mem_singleton.mp hr] at htimeout
          cases htimeout

theorem timed_run (now : Instant) (link : S) (hub : H) (timeout : Option Nat)
    (moves : List (Move S H)) : Timed ((start now link hub timeout).run u moves) :=
  ((sound_start now link hub timeout).run_keeps
    (fun _ _ _ hsound h hs => Timed.step h hsound hs) moves (timed_start now link hub timeout)).2

structure Punctual (u : Setting S H ε) (s : Life S H) : Prop where
  once : (s.taken.map (·.call.caller)).Nodup
  late : ∀ r ∈ s.results, r.result = .error .timeout → ∃ x ∈ s.taken, x.call.caller = r.caller ∧
    ∃ t, x.timeout = some t ∧ x.time + Instant.ofMillis t ≤ r.time
  never : ∀ x ∈ s.taken, x.timeout = none → .error .timeout ∉ s.resultsOf x.call.caller
  fixed : ∀ p ∈ s.client.calls.pending, ∃ x ∈ s.taken, x.call.caller = p.caller ∧
    ∀ moves, ∀ q ∈ (s.run u moves).client.calls.pending, q.id = p.id → q.deadline = x.deadline

/-- No call times out before its own timeout has passed since it was taken off the
queue, whatever becomes of the configuration. -/
theorem timeouts_follow_deadlines (u : Setting S H ε) (now : Instant) (link : S) (hub : H)
    (timeout : Option Nat) (moves : List (Move S H)) :
    Punctual u ((start now link hub timeout).run u moves) := by
  have hsound := (sound_start (S := S) now link hub timeout).run (u := u) moves
  have htimed := timed_run (u := u) now link hub timeout moves
  have hlater := fun more => timed_run (u := u) now link hub timeout (moves ++ more)
  simp only [run_append] at hlater
  generalize (start now link hub timeout).run u moves = s at hsound htimed hlater ⊢
  have hnodup := hsound.nodup_callers.of_append_left
  rw [List.map_map] at hnodup
  constructor
  · exact hnodup
  · intro r hr htimeout
    obtain ⟨x, hx, hcaller, d, hd, hle⟩ := htimed.results r hr htimeout
    obtain ⟨t, ht, rfl⟩ := Option.map_eq_some_iff.mp hd
    exact ⟨x, hx, hcaller, t, ht, hle⟩
  · intro x hx hnone hmem
    obtain ⟨r, hr, hcaller, htimeout⟩ := mem_resultsOf.mp hmem
    obtain ⟨y, hy, hycaller, d, hd, -⟩ := htimed.results r hr htimeout
    have hxy : x = y := List.inj_on_of_nodup_map hnodup hx hy (hcaller.symm.trans hycaller.symm)
    rw [← hxy, Taken.deadline, hnone] at hd
    cases hd
  · intro p hp
    obtain ⟨x, hx, hcaller, -⟩ := htimed.pending p hp
    refine ⟨x, List.mem_of_getElem? hx, hcaller, ?_⟩
    intro more q hq hid
    obtain ⟨y, hy, -, hdeadline⟩ := (hlater more).pending q hq
    obtain ⟨rest, hrest⟩ := (grows_run (u := u) more s).taken
    rw [hid, ← hrest, Calls.getElem?_of_append hx, Option.some.injEq] at hy
    rw [hdeadline, hy]

/-- A timeout of one millisecond comes too late for a call that has ten. -/
example : ((start 0 (.memory .fresh) .empty (some 10)).run sampleSetting
    [.call "raw" [1], .act .enqueue, .act .take, .configure (some 1), .act .configure, .pass 39,
      .act .sweep, .act .sweep, .pass 4, .act .sweep]).results = [⟨0, .error .timeout, 43⟩] := rfl

end Life

end Client

end Callwire
