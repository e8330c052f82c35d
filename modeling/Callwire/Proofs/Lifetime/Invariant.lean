import Callwire.Proofs.Lifetime.Waiting

/-!
# What every move of a life keeps

A caller that has not given up either waits with one call, or has got one result.
Pending calls have ids of their own, and a task that has ended has none.
-/

set_option autoImplicit false

namespace Callwire

namespace Calls

variable {ε : Type}

def Distinct (c : Calls) : Prop := (c.pending.map (·.id)).Nodup

variable {c d : Calls}

theorem Distinct.of_sublist (h : Distinct c) (hs : d.pending.Sublist c.pending) : Distinct d :=
  h.sublist (hs.map _)

theorem Distinct.inbound (h : Distinct c) (frame : Bytes) :
    Distinct (c.inbound (ε := ε) frame).1 := by
  by_cases hr : ∃ r, Frame.decode .client frame = .ok (.response r)
  · obtain ⟨r, hr⟩ := hr
    rw [inbound_of_response hr]
    cases hf : c.find? r.requestId.toInt.toNat with
    | none =>
      rw [respond_of_none hf]
      exact h
    | some p =>
      rw [respond_of_some hf]
      exact h.of_sublist List.filter_sublist
  · rw [(inbound_of_other (fun r hd => hr ⟨r, hd⟩) c).1]
    exact h

theorem Distinct.expire (h : Distinct c) (t : Instant) : Distinct (c.expire (ε := ε) t).1 :=
  h.of_sublist (List.filter_sublist.trans List.filter_sublist)

theorem Distinct.abandon (h : Distinct c) (caller : Nat) : Distinct (c.abandon caller) := by
  have hids : (c.abandon caller).pending.map (·.id) = c.pending.map (·.id) := by
    simp only [Calls.abandon, List.map_map]
    apply List.map_congr_left
    intro p _
    simp only [Function.comp]
    split_ifs <;> rfl
  rw [Distinct, hids]
  exact h

/-- A number that was handed out is no greater than the number of calls. -/
theorem Numbered.id_le {handed : List Call} (h : Numbered c handed) {p : PendingCall}
    (hp : p ∈ c.pending) : p.id ≤ handed.length := by
  obtain ⟨hpos, -, call, hcall, -⟩ := h.pending p hp
  obtain ⟨hlt, -⟩ := List.getElem?_eq_some_iff.mp hcall
  omega

theorem Distinct.outbound {handed : List Call} (h : Distinct c) (hnum : Numbered c handed)
    (now : Instant) (call : Call) : Distinct (c.outbound (ε := ε) now call).1 := by
  rcases outbound_cases (ε := ε) c hnum now call with ⟨-, heq⟩ | ⟨-, e, -, heq⟩ |
    ⟨-, -, frame, -, heq⟩ | ⟨-, -, heq⟩
  · rw [heq]
    exact h
  · rw [heq]
    exact h
  · rw [heq]
    have hnew : ∀ p ∈ c.pending, p.id ≠ handed.length + 1 := by
      intro p hp
      have hle := hnum.id_le hp
      omega
    simp only [Distinct, List.map_append, List.map_singleton, List.nodup_append]
    constructor
    · exact h
    · constructor
      · exact List.nodup_singleton _
      · intro id hid new hmem
        obtain ⟨p, hp, rfl⟩ := List.mem_map.mp hid
        rw [List.mem_singleton.mp hmem]
        exact hnew p hp
  · rw [heq]
    exact h

end Calls

namespace Client

variable {H S ε : Type} {t : Terminal S} {deliver : H → Push → Delivery H ε} {now : Instant}
  {c c' : Client H} {l l' : S} {a : Action} {effects : List (Effect ε)} {e : TaskEnd}

theorem inbound_sweep (deliver : H → Push → Delivery H ε) (c : Client H) (frame : Bytes) :
    (c.inbound deliver frame).1.sweep = c.sweep := by
  unfold inbound
  rcases c.calls.inbound (ε := ε) frame with ⟨calls, effects, _ | push⟩ <;> rfl

inductive Worked (now : Instant) (c c' : Client H) (a : Action) (effects : List (Effect ε)) : Prop
  | kept : c'.calls = c.calls → c'.sweep = c.sweep →
      (∀ x ∈ finished effects, x.2 = .error .alreadyClosed) → Worked now c c' a effects
  | received (frame : Bytes) : c'.calls = (c.calls.inbound (ε := ε) frame).1 →
      c'.sweep = c.sweep → finished effects = finished (c.calls.inbound (ε := ε) frame).2.1 →
      Worked now c c' a effects
  | took (call : Call) (rest : List Call) : a = .take → c.queue = call :: rest →
      c'.calls = (c.calls.outbound (ε := ε) now call).1 → c'.sweep = c.sweep →
      effects = (c.calls.outbound now call).2.2 → Worked now c c' a effects
  | swept : c.sweep.due ≤ now → c'.calls = (c.calls.expire (ε := ε) c.sweep.due).1 →
      c'.sweep = c.sweep.next now → effects = (c.calls.expire c.sweep.due).2 →
      Worked now c c' a effects
  | configured (timeout : Option Nat) : c'.calls = c.calls.setTimeout timeout →
      c'.sweep = .start now timeout → effects = [] → Worked now c c' a effects
  | left : c'.calls = (c.calls.close (ε := ε)).1 → c'.sweep = c.sweep →
      (∀ x ∈ finished effects, x.2 = .error .closed) → Worked now c c' a effects

theorem Change.worked
    (quiet : ∀ hub p caller r, Effect.finish caller r ∉ (deliver hub p).effects)
    (hc : Change t deliver now c l a c' l' effects) : Worked now c c' a effects := by
  have htook : ∀ {call : Call} {rest : List Call} {calls : Calls} {outgoing : Outgoing}
      {es : List (Effect ε)} (d : Client H), c.queue = call :: rest →
      c.calls.outbound now call = (calls, outgoing, es) → d.calls = calls → d.sweep = c.sweep →
      Worked now c d .take es := by
    intro call rest calls outgoing es d hq ho hcalls hsweep
    exact .took call rest rfl hq (by rw [ho, hcalls]) hsweep (by rw [ho])
  cases hc with
  | queued hb hp hlt => exact .kept rfl rfl fun x hx => by cases hx
  | refused hb hp =>
    refine .kept rfl rfl fun x hx => ?_
    rw [finished_reply] at hx
    split_ifs at hx
    · cases hx
    · rw [List.mem_singleton.mp hx]
  | @received _ frame hp hr =>
    exact .received frame (inbound_queue deliver c frame).2.2 (inbound_sweep deliver c frame)
      (finished_inbound quiet c frame)
  | exhausted hp hr => exact .kept rfl rfl fun x hx => by cases hx
  | broken hp hr => exact .kept rfl rfl fun x hx => by cases hx
  | declined hp hq ho => exact htook _ hq ho rfl rfl
  | sent hp hq ho hs => exact htook _ hq ho rfl rfl
  | unsent hp hq ho hs => exact htook _ hq ho rfl rfl
  | panicked hp hq ho => exact htook _ hq ho rfl rfl
  | swept hp hdue => exact .swept hdue rfl rfl rfl
  | @configured timeout hp hcfg => exact .configured timeout rfl rfl rfl
  | told hp hcl => exact .kept rfl rfl fun x hx => by cases hx
  | left hp =>
    refine .left rfl rfl fun x hx => ?_
    rw [finished_leave] at hx
    obtain ⟨k, -, rfl⟩ := List.mem_map.mp hx
    rfl

theorem Worked.distinct (hw : Worked now c c' a effects) {handed : List Call}
    (hnum : c.calls.Numbered handed) (h : c.calls.Distinct) : c'.calls.Distinct := by
  cases hw with
  | kept hcalls => exact hcalls ▸ h
  | received frame hcalls =>
    rw [hcalls]
    exact h.inbound frame
  | took call rest ha hq hcalls =>
    rw [hcalls]
    exact h.outbound hnum now call
  | swept hdue hcalls =>
    rw [hcalls]
    exact h.expire c.sweep.due
  | configured timeout hcalls =>
    rw [hcalls]
    exact h
  | left hcalls =>
    rw [hcalls]
    exact List.nodup_nil

/-- All that a client does after its task has ended. -/
theorem Change.of_ended (hc : Change t deliver now c l a c' l' effects)
    (h : c.phase = .ended e) : ∃ call rest, c.blocked = call :: rest ∧ a = .enqueue ∧
      c' = { c with blocked := rest } ∧ l' = l ∧
      effects = reply call.caller call.abandoned (.error .alreadyClosed) := by
  cases hc with
  | queued hb hp hlt => exact absurd h (hp e)
  | @refused call rest _ hb hp => exact ⟨call, rest, hb, rfl, rfl, rfl, rfl⟩
  | received hp hr => rw [hp] at h; cases h
  | exhausted hp hr => rw [hp] at h; cases h
  | broken hp hr => rw [hp] at h; cases h
  | declined hp hq ho => rw [hp] at h; cases h
  | sent hp hq ho hs => rw [hp] at h; cases h
  | unsent hp hq ho hs => rw [hp] at h; cases h
  | panicked hp hq ho => rw [hp] at h; cases h
  | swept hp hdue => rw [hp] at h; cases h
  | configured hp hcfg => rw [hp] at h; cases h
  | told hp hcl => rw [hp] at h; cases h
  | left hp => rw [hp] at h; cases h

/-- A task ends in one way: it leaves its loop, and then all that it has. -/
theorem Change.to_ended (hc : Change t deliver now c l a c' l' effects)
    (h : c'.phase = .ended e) : c.phase = .ended e ∨ a = .leave ∧ c.phase = .leaving e ∧
      c' = (c.leave (ε := ε) t e l).1 ∧ l' = (c.leave (ε := ε) t e l).2.1 ∧
      effects = (c.leave t e l).2.2 := by
  cases hc with
  | queued hb hp hlt => exact Or.inl h
  | refused hb hp => exact Or.inl h
  | @received _ frame hp hr =>
    exfalso
    unfold inbound at h
    rcases hi : c.calls.inbound (ε := ε) frame with ⟨calls, es, _ | push⟩
    · rw [hi] at h
      change c.phase = .ended e at h
      rw [hp] at h
      cases h
    · rw [hi] at h
      change (if (deliver c.hub push).panicked then Phase.leaving .panicked else c.phase) = _ at h
      rw [hp] at h
      split_ifs at h
  | exhausted hp hr => cases h
  | broken hp hr => cases h
  | declined hp hq ho => exact Or.inl h
  | sent hp hq ho hs => exact Or.inl h
  | unsent hp hq ho hs => cases h
  | panicked hp hq ho => cases h
  | swept hp hdue => exact Or.inl h
  | configured hp hcfg => exact Or.inl h
  | told hp hcl => cases h
  | left hp =>
    cases h
    exact Or.inr ⟨rfl, hp, rfl, rfl, rfl⟩

namespace Life

structure Sound (s : Life S H) : Prop where
  holds : s.client.Holds s.asked (s.taken.map (·.call)) s.sent
  distinct : s.client.calls.Distinct
  emptied : ∀ e, s.client.phase = .ended e → s.client.calls.pending = [] ∧ s.client.queue = []
  balanced : ∀ k, k ∉ s.cancelled → s.client.waiting.count k + (s.results.map (·.caller)).count k =
    (List.range s.asked.length).count k

variable {u : Setting S H ε} {s s' : Life S H}

theorem sound_start (now : Instant) (link : S) (hub : H) (timeout : Option Nat) :
    Sound (start now link hub timeout) where
  holds := holds_start hub now timeout
  distinct := List.nodup_nil
  emptied := fun e h => by cases h
  balanced := fun k _ => rfl

theorem callers_results? (now : Instant) (effects : List (Effect ε)) :
    (results? now effects).map (·.caller) = served effects := by
  rw [results?, List.map_map]
  rfl

theorem taken_become (s : Life S H) (a : Action) (c : Client H) (p : S × List Bytes)
    (effects : List (Effect ε)) : (s.become a c p effects).taken.map (·.call) =
      s.taken.map (·.call) ++ if a = .take then s.client.queue.head?.toList else [] := by
  simp only [become, takes, List.map_append]
  split_ifs
  · rw [List.map_map]
    exact congrArg _ (List.map_id _)
  · rfl

theorem count_range_succ (n k : Nat) :
    (List.range (n + 1)).count k = (List.range n).count k + [n].count k := by
  rw [List.range_succ, List.count_append]

/-- A new caller waits, or has its result at once. -/
theorem Sound.call (h : Sound s) (name : String) (payload : Bytes) :
    Sound (s.call name payload) := by
  have hholds := h.holds.submit (ε := Empty) name payload
  cases hn : Frame.checkName name with
  | error e =>
    rw [call_of_error s hn]
    simp only [submit, hn] at hholds
    refine ⟨hholds, h.distinct, h.emptied, ?_⟩
    intro k hk
    have hbefore := h.balanced k hk
    simp only [List.map_append, List.count_append, List.map_singleton, List.length_append,
      List.length_singleton, count_range_succ]
    omega
  | ok _ =>
    rw [call_of_ok s hn]
    simp only [submit, hn] at hholds
    refine ⟨hholds, h.distinct, h.emptied, ?_⟩
    intro k hk
    have hbefore := h.balanced k hk
    have hnew : awaited [⟨s.asked.length, name, payload, false⟩] = [s.asked.length] := rfl
    simp only [count_waiting, awaited_append, hnew, List.count_append, List.length_append,
      List.length_singleton, count_range_succ] at hbefore ⊢
    omega

/-- A caller that gives up is not counted any more. -/
theorem Sound.giveUp (h : Sound s) (caller : Nat) :
    Sound { s with client := s.client.abandon caller, cancelled := s.cancelled ++ [caller] } := by
  refine ⟨h.holds.abandon caller, h.distinct.abandon caller, ?_, ?_⟩
  · intro e he
    obtain ⟨hpending, hqueue⟩ := h.emptied e he
    constructor
    · exact List.map_eq_nil_iff.mpr hpending
    · exact List.map_eq_nil_iff.mpr hqueue
  · intro k hk
    rw [List.mem_append, List.mem_singleton, not_or] at hk
    have hbefore := h.balanced k hk.1
    have hkept : (s.client.waiting.filter (· != caller)).count k = s.client.waiting.count k :=
      List.count_filter (by simpa using hk.2)
    show (s.client.abandon caller).waiting.count k + _ = _
    rw [waiting_abandon, hkept]
    exact hbefore

/-- What has no part in the calls keeps everything. -/
theorem Sound.of_client (h : Sound s) {c : Client H} (hcalls : c.calls = s.client.calls)
    (hqueue : c.queue = s.client.queue) (hblocked : c.blocked = s.client.blocked)
    (hphase : c.phase = s.client.phase) : Sound { s with client := c } := by
  have hwaiting : c.waiting = s.client.waiting := by
    rw [waiting, waiting, hcalls, hqueue, hblocked]
  constructor
  · refine h.holds.of_calls ?_ ?_ ?_
    · rw [hcalls]
      exact h.holds.numbered
    · rw [hqueue, hblocked]
    · rw [hphase]
      exact id
  · rw [hcalls]
    exact h.distinct
  · rw [hcalls, hqueue, hphase]
    exact h.emptied
  · rw [hwaiting]
    exact h.balanced

theorem Sound.act (h : Sound s) {a : Action} (hs : s.act u a = some s') : Sound s' := by
  obtain ⟨c, p, effects, hc, rfl⟩ := change_of_act hs
  constructor
  · rw [taken_become]
    exact h.holds.change hc
  · exact (hc.worked u.quiet).distinct h.holds.numbered h.distinct
  · intro e he
    rcases hc.to_ended he with hp | ⟨-, -, hleft, -, -⟩
    · obtain ⟨call, rest, -, -, hkept, -, -⟩ := hc.of_ended hp
      change c.calls.pending = [] ∧ c.queue = []
      rw [hkept]
      exact h.emptied e hp
    · change c.calls.pending = [] ∧ c.queue = []
      rw [hleft]
      exact ⟨rfl, rfl⟩
  · intro k hk
    have hbefore := h.balanced k hk
    have hcount := hc.count_waiting u.quiet h.distinct k
    change c.waiting.count k + ((s.results ++ results? s.now effects).map (·.caller)).count k = _
    rw [List.map_append, callers_results?, List.count_append]
    change _ = (List.range s.asked.length).count k
    omega

theorem Sound.step (h : Sound s) {move : Move S H} (hs : s.step u move = some s') : Sound s' := by
  cases move with
  | call name payload =>
    cases hs
    exact h.call name payload
  | giveUp caller =>
    simp only [Life.step] at hs
    split_ifs at hs
    cases hs
    exact h.giveUp caller
  | listen f =>
    cases hs
    exact h.of_client rfl rfl rfl rfl
  | configure timeout =>
    cases hs
    exact h.of_client rfl rfl rfl rfl
  | close =>
    cases hs
    exact h.of_client rfl rfl rfl rfl
  | act a => exact h.act hs
  | pass time =>
    cases hs
    exact ⟨h.holds, h.distinct, h.emptied, h.balanced⟩
  | peer f =>
    cases hs
    exact ⟨h.holds, h.distinct, h.emptied, h.balanced⟩

/-- What every move of a sound life keeps is kept by every run of one. -/
theorem Sound.run_keeps {P : Life S H → Prop} (h : Sound s)
    (hstep : ∀ s s' move, Sound s → P s → s.step u move = some s' → P s')
    (moves : List (Move S H)) (hp : P s) : Sound (s.run u moves) ∧ P (s.run u moves) :=
  Life.run_keeps (P := fun s => Sound s ∧ P s)
    (fun s s' move h hs => ⟨h.1.step hs, hstep s s' move h.1 h.2 hs⟩) moves ⟨h, hp⟩

theorem Sound.run (h : Sound s) (moves : List (Move S H)) : Sound (s.run u moves) :=
  Life.run_keeps (fun _ _ _ h hs => Sound.step h hs) moves h

/-- No two calls have one caller. -/
theorem Sound.nodup_callers (h : Sound s) : ((s.taken.map (·.call)).map (·.caller) ++
    (s.client.queue ++ s.client.blocked).map (·.caller)).Nodup := by
  have hnodup := h.holds.owned.nodup
  rw [List.append_assoc, List.map_append, List.map_append] at hnodup
  simp only [List.map_map] at hnodup ⊢
  exact hnodup

/-- Every call is one that was started. -/
theorem Sound.caller_lt (h : Sound s) {q : Call}
    (hq : q ∈ s.taken.map (·.call) ++ s.client.queue ++ s.client.blocked) :
    q.caller < s.asked.length := by
  have hidentity := List.mem_map_of_mem (f := identity) hq
  exact h.holds.owned.lt hidentity

/-- A call that was taken and is not pending has its result. -/
theorem Sound.result_of_taken (h : Sound s) {i : Nat} {x : Taken} (hx : s.taken[i]? = some x)
    (hpending : ∀ q ∈ s.client.calls.pending, q.id ≠ i + 1)
    (hcancelled : x.call.caller ∉ s.cancelled) : ∃ r, s.resultsOf x.call.caller = [r] := by
  have hcall : (s.taken.map (·.call))[i]? = some x.call := by rw [List.getElem?_map, hx]; rfl
  have hmem : x.call.caller ∈ (s.taken.map (·.call)).map (·.caller) :=
    List.mem_map_of_mem (List.mem_of_getElem? hcall)
  have hnodup := h.nodup_callers
  have hnot : x.call.caller ∉ s.client.waiting := by
    intro hwaits
    rw [waiting, List.append_assoc, List.mem_append] at hwaits
    rcases hwaits with hwaits | hwaits
    · obtain ⟨q, hq, hcaller⟩ := List.mem_map.mp hwaits
      have hqmem := (List.mem_filter.mp hq).1
      obtain ⟨hpos, -, d, hd, hdcaller⟩ := h.holds.numbered.pending q hqmem
      have hindex := Calls.index_of_caller hnodup.of_append_left hd hcall (hdcaller.trans hcaller)
      exact hpending q hqmem (by omega)
    · rw [← awaited_append] at hwaits
      obtain ⟨q, hq, hcaller⟩ := List.mem_map.mp hwaits
      have hother : x.call.caller ∈ (s.client.queue ++ s.client.blocked).map (·.caller) :=
        hcaller ▸ List.mem_map_of_mem (List.mem_filter.mp hq).1
      exact (List.nodup_append.mp hnodup).2.2 _ hmem _ hother rfl
  have hasked : x.call.caller < s.asked.length :=
    h.caller_lt (by simp [List.mem_of_getElem? hcall])
  have hbalanced := h.balanced _ hcancelled
  rw [List.count_eq_zero.mpr hnot, Nat.zero_add, List.count_eq_one_of_mem List.nodup_range
    (List.mem_range.mpr hasked), ← length_resultsOf] at hbalanced
  exact List.length_eq_one_iff.mp hbalanced

end Life

end Client

end Callwire
