import Callwire.Proofs.Client.Fate

/-!
# What becomes of the calls of a client

From a fresh table on, in any order of operations: the frames that go out are
those of the calls, numbered in order, and each call ends as its fate says.
-/

set_option autoImplicit false

namespace Callwire.Calls

variable {c : Calls} {calls : List Call} {p : PendingCall}

namespace Fate

@[simp] theorem run_settled (deadline : Option Instant) (r : Option CallResult)
    (notes : List Note) : run deadline (.settled r) notes = .settled r := by
  induction notes with
  | nil => rfl
  | cons note notes ih => exact ih

theorem since_run (deadline : Option Instant) (fate : Fate) (note : Note) (notes : List Note) :
    fate.since (fate.step deadline note) ++
        (fate.step deadline note).since (run deadline (fate.step deadline note) notes) =
      fate.since (run deadline (fate.step deadline note) notes) := by
  cases fate with
  | settled r => rfl
  | waiting a =>
    cases hs : step deadline (.waiting a) note with
    | waiting b => rfl
    | settled r =>
      rw [run_settled]
      exact List.append_nil _

end Fate

theorem callers_ne {more : List Call} (hnodup : ((calls ++ more).map (·.caller)).Nodup)
    {call d : Call} {n : Nat} (hcall : calls[n]? = some call) (hd : d ∈ more) :
    d.caller ≠ call.caller := by
  rw [List.map_append] at hnodup
  have hmem := List.mem_map_of_mem (f := (·.caller)) (List.mem_of_getElem? hcall)
  exact fun heq => List.disjoint_of_nodup_append hnodup hmem
    (heq ▸ List.mem_map_of_mem (f := (·.caller)) hd)

/-- The table shows of a call what its fate says, through any operations. -/
theorem shows_run {call : Call} {ops : List Op} (hnum : Numbered c calls)
    (hnodup : ((calls ++ handed ops).map (·.caller)).Nodup) (hpos : 0 < p.id)
    (hmax : p.id ≤ Frame.maxId) (hcall : calls[p.id - 1]? = some call)
    (hcaller : call.caller = p.caller) (fate : Fate) (h : c.entries p.id = fate.entries p) :
    (c.after ops).entries p.id =
        (fate.run p.deadline (ops.filterMap (note p.id p.caller))).entries p ∧
      resultsFor p.caller (c.effects ops) =
        fate.since (fate.run p.deadline (ops.filterMap (note p.id p.caller))) := by
  induction ops generalizing c calls fate with
  | nil => exact ⟨h, since_self.symm⟩
  | cons op ops ih =>
    rw [handed_cons, ← List.append_assoc] at hnodup
    have hold : (calls.map (·.caller)).Nodup := by
      rw [List.append_assoc, List.map_append] at hnodup
      exact hnodup.of_append_left
    have hothers : ∀ d ∈ op.call?, d.caller ≠ p.caller := by
      intro d hd
      rw [List.map_append] at hnodup
      rw [← hcaller]
      exact callers_ne hnodup.of_append_left hcall (Option.mem_toList.mpr hd)
    obtain ⟨hlt, -⟩ := List.getElem?_eq_some_iff.mp hcall
    obtain ⟨hentry, hresults⟩ :=
      shows_step hnum (hnum.own hold hpos hmax hcall hcaller) (by omega) h op hothers
    obtain ⟨hentries, hrest⟩ := ih (hnum.step op) hnodup (getElem?_of_append hcall _) _ hentry
    rw [after, effects, resultsFor_append, hresults, hrest, hentries, List.filterMap_cons]
    cases hnote : note p.id p.caller op with
    | none =>
      rw [Fate.next, hnote]
      exact ⟨rfl, by rw [Option.elim_none, since_self, List.nil_append]⟩
    | some note =>
      rw [Fate.next, hnote]
      exact ⟨rfl, Fate.since_run p.deadline fate note _⟩

/-! ## Before a call -/

/-- Only the callers of calls that were handed over get results. -/
theorem resultsFor_step {caller : Nat} (hnum : Numbered c calls) (op : Op)
    (h : ∀ d ∈ calls ++ op.call?.toList, d.caller ≠ caller) :
    resultsFor caller (c.step op).2.2 = [] := by
  have hpending : ∀ q ∈ c.pending, q.caller ≠ caller := by
    intro q hq
    obtain ⟨-, -, d, hd, hcaller⟩ := hnum.pending q hq
    rw [← hcaller]
    exact h d (List.mem_append_left _ (List.mem_of_getElem? hd))
  have hreply : ∀ q ∈ c.pending, ∀ r, resultsFor caller (q.reply (ε := Empty) r) = [] := by
    intro q hq r
    rw [PendingCall.reply, resultsFor_reply, if_neg fun hc => hpending q hq hc.1]
  cases op with
  | outbound now call =>
    have hne : call.caller ≠ caller := h call (by simp [Op.call?])
    have hnone : ∀ e, resultsFor caller (reply (ε := Empty) call.caller call.abandoned e) = [] := by
      intro e
      rw [resultsFor_reply, if_neg fun hc => hne hc.1]
    show resultsFor caller (c.outbound (ε := Empty) now call).2.2 = []
    rcases outbound_cases (ε := Empty) c hnum now call with ⟨-, heq⟩ | ⟨-, e, -, heq⟩ |
      ⟨-, -, frame, -, heq⟩ | ⟨-, -, heq⟩ <;> rw [heq]
    · exact hnone _
    · exact hnone _
    · rfl
    · exact hnone _
  | inbound frame =>
    show resultsFor caller (c.inbound (ε := Empty) frame).2.1 = []
    by_cases hr : ∃ r, Frame.decode .client frame = .ok (.response r)
    · obtain ⟨r, hr⟩ := hr
      rw [inbound_of_response hr]
      cases hf : c.find? r.requestId.toInt.toNat with
      | none =>
        rw [respond_of_none hf]
        rfl
      | some q =>
        rw [respond_of_some hf, resultsFor_append,
          hreply q (List.mem_of_find?_eq_some hf) (result r), List.append_nil]
        cases result r <;> rfl
    · exact resultsFor_traces (inbound_of_other (fun r hd => hr ⟨r, hd⟩) c).2
  | expire t =>
    show resultsFor caller (c.expire (ε := Empty) t).2 = []
    rw [expire, resultsFor_flatMap, List.flatMap_eq_nil_iff]
    intro q hq
    rw [timedOut, resultsFor_trace]
    exact hreply q (List.mem_filter.mp (List.mem_filter.mp hq).1).1 _
  | setTimeout timeout => rfl
  | giveUp caller => rfl
  | close =>
    show resultsFor caller (c.close (ε := Empty)).2 = []
    rw [close, resultsFor_flatMap, List.flatMap_eq_nil_iff]
    exact fun q hq => hreply q hq _

theorem resultsFor_effects {caller : Nat} {ops : List Op} (hnum : Numbered c calls)
    (h : ∀ d ∈ calls ++ handed ops, d.caller ≠ caller) :
    resultsFor caller (c.effects ops) = [] := by
  induction ops generalizing c calls with
  | nil => rfl
  | cons op ops ih =>
    rw [handed_cons, ← List.append_assoc] at h
    rw [effects, resultsFor_append,
      resultsFor_step hnum op fun d hd => h d (List.mem_append_left _ hd), ih (hnum.step op) h]
    rfl

theorem entries_of_numbered (hnum : Numbered c calls) {n : Nat} (h : calls.length < n) :
    c.entries n = [] := by
  apply List.filter_eq_nil_iff.mpr
  intro q hq
  obtain ⟨hpos, -, d, hd, -⟩ := hnum.pending q hq
  obtain ⟨hlt, -⟩ := List.getElem?_eq_some_iff.mp hd
  have hne : q.id ≠ n := by omega
  simpa using hne

/-! ## What goes out -/

theorem outbound_on_clock {ε : Type} (hnum : Numbered c calls) (hlt : calls.length < Frame.maxId)
    {now : Instant} {call : Call} (hname : Frame.checkName call.method = .ok ())
    (hclock : OnClock (c.timeout.map fun t => now + Instant.ofMillis t)) :
    ∃ frame, Request.encode ⟨call.method, Int32.ofNat (calls.length + 1), call.payload⟩ =
        .ok frame ∧
      c.outbound (ε := ε) now call =
        ({ c.advance (calls.length + 1) with
            pending := c.pending ++ [⟨calls.length + 1, call.method,
              c.timeout.map fun t => now + Instant.ofMillis t, call.caller, call.abandoned⟩] },
          .framed frame, []) := by
  rcases outbound_cases (ε := ε) c hnum now call with ⟨hge, -⟩ | ⟨-, e, he, -⟩ |
    ⟨-, -, frame, henc, heq⟩ | ⟨-, hoff, -⟩
  · exact absurd hlt hge
  · rw [hname] at he
    cases he
  · exact ⟨frame, henc, heq⟩
  · exact absurd hclock hoff

theorem outbound_off_clock {ε : Type} (hnum : Numbered c calls) (hlt : calls.length < Frame.maxId)
    {now : Instant} {call : Call} (hname : Frame.checkName call.method = .ok ())
    (hclock : ¬OnClock (c.timeout.map fun t => now + Instant.ofMillis t)) :
    c.outbound (ε := ε) now call = (c.advance (calls.length + 1), .panicked,
      reply call.caller call.abandoned (.error .closed)) := by
  rcases outbound_cases (ε := ε) c hnum now call with ⟨hge, -⟩ | ⟨-, e, he, -⟩ |
    ⟨-, hon, -⟩ | ⟨-, -, heq⟩
  · exact absurd hlt hge
  · rw [hname] at he
    cases he
  · exact absurd hon hclock
  · exact heq

theorem deadlines_cons (timeout : Option Nat) (op : Op) (ops : List Op) :
    deadlines timeout (op :: ops) =
      deadlines timeout [op] ++ deadlines (timeoutAfter timeout [op]) ops := by
  cases op <;> rfl

theorem length_deadlines (timeout : Option Nat) (ops : List Op) :
    (deadlines timeout ops).length = (handed ops).length := by
  induction ops generalizing timeout with
  | nil => rfl
  | cons op ops ih =>
    rw [deadlines_cons, handed_cons, List.length_append, List.length_append, ih]
    cases op <;> rfl

theorem frames_step (hnum : Numbered c calls) (op : Op)
    (hlt : calls.length + op.call?.toList.length ≤ Frame.maxId)
    (hnames : ∀ d ∈ op.call?, Frame.checkName d.method = .ok ())
    (hclock : ∀ d ∈ deadlines c.timeout [op], OnClock d) :
    (c.step op).2.1.toList.map Except.ok = op.call?.toList.map fun d =>
      Request.encode ⟨d.method, Int32.ofNat (calls.length + 1), d.payload⟩ := by
  cases op with
  | outbound now call =>
    obtain ⟨frame, henc, heq⟩ := outbound_on_clock (ε := Empty) hnum hlt (hnames call rfl)
      (hclock _ (List.mem_singleton_self _))
    show (c.outbound (ε := Empty) now call).2.1.frame?.toList.map Except.ok = [Request.encode _]
    rw [heq, henc]
    rfl
  | inbound frame => rfl
  | expire t => rfl
  | setTimeout timeout => rfl
  | giveUp caller => rfl
  | close => rfl

/-- If all deadlines are on the clock, as many frames go out as calls were handed over,
numbered in their order. -/
theorem frames_eq {ops : List Op} (hnum : Numbered c calls)
    (hlt : calls.length + (handed ops).length ≤ Frame.maxId)
    (hnames : ∀ d ∈ handed ops, Frame.checkName d.method = .ok ())
    (hclock : ∀ d ∈ deadlines c.timeout ops, OnClock d) :
    (c.frames ops).map Except.ok = (handed ops).mapIdx fun i d =>
      Request.encode ⟨d.method, Int32.ofNat (calls.length + i + 1), d.payload⟩ := by
  induction ops generalizing c calls with
  | nil => rfl
  | cons op ops ih =>
    rw [handed_cons] at hnames hlt ⊢
    rw [List.length_append] at hlt
    rw [deadlines_cons] at hclock
    have htimeout : (c.step op).1.timeout = timeoutAfter c.timeout [op] := timeout_after c [op]
    have hrest := ih (hnum.step op) (by rw [List.length_append]; omega)
      (fun d hd => hnames d (List.mem_append_right _ hd))
      fun d hd => hclock d (List.mem_append_right _ (htimeout ▸ hd))
    have hfirst := frames_step hnum op (by omega)
      (fun d hd => hnames d (List.mem_append_left _ (Option.mem_toList.mpr hd)))
      fun d hd => hclock d (List.mem_append_left _ hd)
    rw [frames, List.map_append, hrest, hfirst, List.mapIdx_append, List.length_append]
    cases op.call? with
    | none => rfl
    | some d => simp [Nat.add_assoc, Nat.add_comm, Nat.add_left_comm]

theorem length_frames_step (hnum : Numbered c calls) (op : Op)
    (hlt : calls.length + op.call?.toList.length ≤ Frame.maxId)
    (hnames : ∀ d ∈ op.call?, Frame.checkName d.method = .ok ()) :
    (c.step op).2.1.toList.length = (deadlines c.timeout [op]).countP (OnClock ·) := by
  cases op with
  | outbound now call =>
    show (c.outbound (ε := Empty) now call).2.1.frame?.toList.length = List.countP _ [_]
    by_cases hclock : OnClock (c.timeout.map fun t => now + Instant.ofMillis t)
    · obtain ⟨frame, -, heq⟩ := outbound_on_clock (ε := Empty) hnum hlt (hnames call rfl) hclock
      rw [heq]
      simp [Outgoing.frame?, hclock]
    · rw [outbound_off_clock (ε := Empty) hnum hlt (hnames call rfl) hclock]
      simp [Outgoing.frame?, hclock]
  | inbound frame => rfl
  | expire t => rfl
  | setTimeout timeout => rfl
  | giveUp caller => rfl
  | close => rfl

/-- Only the calls whose deadlines are on the clock are framed. -/
theorem length_frames {ops : List Op} (hnum : Numbered c calls)
    (hlt : calls.length + (handed ops).length ≤ Frame.maxId)
    (hnames : ∀ d ∈ handed ops, Frame.checkName d.method = .ok ()) :
    (c.frames ops).length = (deadlines c.timeout ops).countP (OnClock ·) := by
  induction ops generalizing c calls with
  | nil => rfl
  | cons op ops ih =>
    rw [handed_cons] at hnames hlt
    rw [List.length_append] at hlt
    have htimeout : (c.step op).1.timeout = timeoutAfter c.timeout [op] := timeout_after c [op]
    have hrest := ih (hnum.step op) (by rw [List.length_append]; omega)
      fun d hd => hnames d (List.mem_append_right _ hd)
    have hfirst := length_frames_step hnum op (by omega)
      fun d hd => hnames d (List.mem_append_left _ (Option.mem_toList.mpr hd))
    rw [frames, List.length_append, hfirst, hrest, deadlines_cons c.timeout op ops,
      List.countP_append, htimeout]

theorem frames_eq_iff {ops : List Op} (hnum : Numbered c calls)
    (hlt : calls.length + (handed ops).length ≤ Frame.maxId)
    (hnames : ∀ d ∈ handed ops, Frame.checkName d.method = .ok ()) :
    ((c.frames ops).map Except.ok = (handed ops).mapIdx fun i d =>
        Request.encode ⟨d.method, Int32.ofNat (calls.length + i + 1), d.payload⟩) ↔
      ∀ d ∈ deadlines c.timeout ops, OnClock d := by
  refine ⟨fun heq => ?_, frames_eq hnum hlt hnames⟩
  have hlength := congrArg List.length heq
  rw [List.length_map, List.length_mapIdx, length_frames hnum hlt hnames,
    ← length_deadlines c.timeout, List.countP_eq_length] at hlength
  exact fun d hd => of_decide_eq_true (hlength d hd)

/-! ## Whole runs -/

/-- The last call of `before ++ [.outbound now call]` as it is entered. -/
theorem entries_outbound (hnum : Numbered c calls) (hlt : calls.length < Frame.maxId)
    (now : Instant) (call : Call) (hname : Frame.checkName call.method = .ok ())
    (hclock : OnClock (c.timeout.map fun t => now + Instant.ofMillis t)) :
    (c.step (.outbound now call)).1.entries (calls.length + 1) =
        [⟨calls.length + 1, call.method, c.timeout.map fun t => now + Instant.ofMillis t,
          call.caller, call.abandoned⟩] ∧
      (c.step (.outbound now call)).2.2 = [] := by
  obtain ⟨frame, -, heq⟩ := outbound_on_clock (ε := Empty) hnum hlt hname hclock
  show (c.outbound (ε := Empty) now call).1.entries _ = _ ∧ (c.outbound now call).2.2 = []
  rw [heq]
  refine ⟨?_, rfl⟩
  have hnone := entries_of_numbered hnum (Nat.lt_succ_self calls.length)
  rw [entries] at hnone ⊢
  rw [List.filter_append, hnone, List.nil_append, List.filter_singleton]
  simp

/-- The last call as it is dropped. -/
theorem entries_dropped (hnum : Numbered c calls) (hlt : calls.length < Frame.maxId)
    (now : Instant) (call : Call) (hname : Frame.checkName call.method = .ok ())
    (hclock : ¬OnClock (c.timeout.map fun t => now + Instant.ofMillis t)) :
    (c.step (.outbound now call)).1.entries (calls.length + 1) = [] ∧
      (c.step (.outbound now call)).2.2 =
        reply call.caller call.abandoned (.error .closed) := by
  show (c.outbound (ε := Empty) now call).1.entries _ = _ ∧ (c.outbound now call).2.2 = _
  rw [outbound_off_clock (ε := Empty) hnum hlt hname hclock]
  exact ⟨entries_of_numbered hnum (Nat.lt_succ_self calls.length), rfl⟩

/-- Ids that no call has leave the table alone. -/
theorem step_inbound_unknown (hnum : Numbered c calls) {frame : Bytes} {r : Response}
    (hr : Frame.decode .client frame = .ok (.response r))
    (h : r.id.toInt = 0 ∨ r.id.toInt = Int32.minValue.toInt ∨
      ∀ q ∈ c.pending, q.id ≠ r.id.toInt.natAbs) :
    c.step (.inbound frame) = (c, none,
      [.trace ⟨.error, "no pending call found for id " ++ toString r.id.toInt⟩]) := by
  have hnone : c.find? r.requestId.toInt.toNat = none := by
    apply List.find?_eq_none.mpr
    intro q hq
    obtain ⟨hpos, hmax, -⟩ := hnum.pending q hq
    have hiff := Response.requestId_eq_iff r hpos hmax
    have hmin : Int32.minValue.toInt = -2147483648 := by decide
    have hle : Frame.maxId = 16777215 := rfl
    have hne : q.id ≠ r.requestId.toInt.toNat := by
      intro heq
      rcases hiff.mp heq.symm with hid | hid
      · rcases h with h | h | h
        · omega
        · omega
        · exact h q hq (by omega)
      · rcases h with h | h | h
        · omega
        · omega
        · exact h q hq (by omega)
    simpa using hne
  rw [step, inbound_of_response hr, respond_of_none hnone]

def deadlineOf (timeout : Option Nat) (before : List Op) (now : Instant) : Option Instant :=
  (timeoutAfter timeout before).map fun t => now + Instant.ofMillis t

def fateOf (timeout : Option Nat) (before : List Op) (now : Instant) (call : Call)
    (rest : List Op) : Fate :=
  (Fate.waiting call.abandoned).run (deadlineOf timeout before now)
    (rest.filterMap (note ((handed before).length + 1) call.caller))

theorem number_toInt {n : Nat} (h : n ≤ Frame.maxId) : (Int32.ofNat n).toInt = n := by
  rw [show Frame.maxId = 16777215 from rfl] at h
  exact Int32.toInt_ofNat_of_lt (by omega)

/-- What a call shows of its fate from when it was handed over, in `ops`. -/
theorem shows_from {timeout : Option Nat} {before rest ops : List Op} {now : Instant} {call : Call}
    (hops : ops = before ++ .outbound now call :: rest)
    (hids : (handed ops).length ≤ Frame.maxId) (hcallers : ((handed ops).map (·.caller)).Nodup)
    {p : PendingCall} (hid : p.id = (handed before).length + 1) (hcaller : p.caller = call.caller)
    (fate : Fate)
    (hentry : (((fresh timeout).after before).step (.outbound now call)).1.entries p.id =
      fate.entries p) :
    ((fresh timeout).after ops).entries p.id =
        (fate.run p.deadline (rest.filterMap (note p.id p.caller))).entries p ∧
      resultsFor p.caller ((fresh timeout).effects ops) =
        resultsFor p.caller (((fresh timeout).after before).step (.outbound now call)).2.2 ++
          fate.since (fate.run p.deadline (rest.filterMap (note p.id p.caller))) := by
  have hhanded : handed ops = handed before ++ [call] ++ handed rest := by
    rw [hops, handed_append, handed_cons, List.append_assoc]
    rfl
  have hnum : Numbered ((fresh timeout).after before) (handed before) :=
    (numbered_fresh timeout).after before
  have hlength : p.id + (handed rest).length = (handed ops).length := by
    rw [hhanded, List.length_append, List.length_append, List.length_singleton, hid]
  have hcall : (handed before ++ [call])[p.id - 1]? = some call := by
    rw [hid, Nat.add_sub_cancel, List.getElem?_concat_length]
  obtain ⟨hentries, hresults⟩ := shows_run (hnum.step (.outbound now call)) (hhanded ▸ hcallers)
    (show 0 < p.id by omega) (show p.id ≤ _ by omega) hcall hcaller.symm fate hentry
  have hbefore : resultsFor p.caller ((fresh timeout).effects before) = [] := by
    apply resultsFor_effects (numbered_fresh timeout)
    intro d hd heq
    rw [hhanded, List.append_assoc, List.map_append] at hcallers
    exact List.disjoint_of_nodup_append hcallers (List.mem_map_of_mem (f := (·.caller)) hd)
      (by simp [heq, hcaller])
  constructor
  · rw [hops, after_append, after, hentries]
  · rw [hops, effects_append, effects, resultsFor_append, resultsFor_append, hbefore,
      List.nil_append, hresults]

/-- All calls are framed, with numbers from one on without a gap, exactly if all deadlines are
on the clock. What becomes of a call whose deadline is on the clock is what its own notes make
of it alone, any other is dropped, and responses to other numbers change nothing. -/
theorem each_call_meets_its_fate (timeout : Option Nat) (before rest ops : List Op) (now : Instant)
    (call : Call) (n : Nat) (hops : ops = before ++ .outbound now call :: rest)
    (hn : n = (handed before).length + 1) (hids : (handed ops).length ≤ Frame.maxId)
    (hnames : ∀ d ∈ handed ops, Frame.checkName d.method = .ok ())
    (hcallers : ((handed ops).map (·.caller)).Nodup) :
    (((fresh timeout).frames ops).map Except.ok = ((handed ops).mapIdx fun i d =>
        Request.encode ⟨d.method, Int32.ofNat (i + 1), d.payload⟩) ↔
          ∀ d ∈ deadlines timeout ops, OnClock d) ∧
      (handed ops)[n - 1]? = some call ∧ (Int32.ofNat n).toInt = n ∧ n ≤ Frame.maxId ∧
      (OnClock (deadlineOf timeout before now) →
        ((fresh timeout).after ops).entries n = (fateOf timeout before now call rest).entries
            ⟨n, call.method, deadlineOf timeout before now, call.caller, call.abandoned⟩ ∧
          resultsFor call.caller ((fresh timeout).effects ops) =
            (fateOf timeout before now call rest).result?.toList) ∧
      (¬OnClock (deadlineOf timeout before now) →
        ((fresh timeout).after ops).entries n = [] ∧
          resultsFor call.caller ((fresh timeout).effects ops) =
            if call.abandoned then [] else [.error .closed]) ∧
      ∀ frame r, Frame.decode .client frame = .ok (.response r) →
        (r.id.toInt = 0 ∨ r.id.toInt = Int32.minValue.toInt ∨
          ∀ q ∈ ((fresh timeout).after ops).pending, q.id ≠ r.id.toInt.natAbs) →
        ((fresh timeout).after ops).step (.inbound frame) = ((fresh timeout).after ops, none,
          [.trace ⟨.error, "no pending call found for id " ++ toString r.id.toInt⟩]) := by
  have hhanded : handed ops = handed before ++ [call] ++ handed rest := by
    rw [hops, handed_append, handed_cons, List.append_assoc]
    rfl
  have hnum : Numbered ((fresh timeout).after before) (handed before) :=
    (numbered_fresh timeout).after before
  have hlength : n + (handed rest).length = (handed ops).length := by
    rw [hhanded, List.length_append, List.length_append, List.length_singleton, hn]
  have hname : Frame.checkName call.method = .ok () := hnames call (by simp [hhanded])
  have htimeout : ((fresh timeout).after before).timeout = timeoutAfter timeout before :=
    timeout_after (fresh timeout) before
  have hframes : _ ↔ ∀ d ∈ deadlines timeout ops, OnClock d :=
    frames_eq_iff (numbered_fresh timeout) (by simpa using hids) hnames
  refine ⟨?_, ?_, number_toInt (by omega), by omega, fun hclock => ?_, fun hclock => ?_, ?_⟩
  · simpa using hframes
  · rw [hhanded, hn, Nat.add_sub_cancel]
    exact getElem?_of_append List.getElem?_concat_length _
  · obtain ⟨hentry, hnothing⟩ := entries_outbound hnum (by omega) now call hname
      (by rw [htimeout]; exact hclock)
    rw [htimeout, ← hn] at hentry
    obtain ⟨hentries, hresults⟩ := shows_from hops hids hcallers
      (p := ⟨n, call.method, deadlineOf timeout before now, call.caller, call.abandoned⟩) hn rfl
      (.waiting call.abandoned) hentry
    rw [hnothing] at hresults
    rw [fateOf, ← hn]
    exact ⟨hentries, hresults⟩
  · obtain ⟨hentry, hdropped⟩ := entries_dropped hnum (by omega) now call hname
      (by rw [htimeout]; exact hclock)
    rw [← hn] at hentry
    obtain ⟨hentries, hresults⟩ := shows_from hops hids hcallers
      (p := ⟨n, call.method, deadlineOf timeout before now, call.caller, call.abandoned⟩) hn rfl
      (.settled none) hentry
    rw [hdropped, resultsFor_reply] at hresults
    rw [Fate.run_settled] at hentries
    refine ⟨hentries, hresults.trans ?_⟩
    cases call.abandoned <;> simp [Fate.since]
  · intro frame r hr hid
    exact step_inbound_unknown ((numbered_fresh timeout).after ops) hr hid

/-- The first call runs out of time, the second one is answered twice. -/
theorem fate_of_second_call :
    (handed [.outbound 0 ⟨1, "tick", [], false⟩, .outbound 4 ⟨2, "tick", [1], false⟩]).length ≤
        Frame.maxId ∧
      Frame.checkName "tick" = .ok () ∧
      resultsFor 2 ((fresh (some 1)).effects [.outbound 0 ⟨1, "tick", [], false⟩,
        .outbound 4 ⟨2, "tick", [1], false⟩, .expire 7, .inbound [0, 0, 0, 2, 42],
        .inbound [255, 255, 255, 254], .close]) = [.ok [42]] := by
  refine ⟨by decide, rfl, ?_⟩
  have hnames : ∀ d ∈ [(⟨1, "tick", [], false⟩ : Call), ⟨2, "tick", [1], false⟩],
      Frame.checkName d.method = .ok () := by
    intro d hd
    rcases List.mem_pair.mp hd with rfl | rfl <;> rfl
  obtain ⟨-, -, -, -, hfate, -, -⟩ := each_call_meets_its_fate (some 1)
    [.outbound 0 ⟨1, "tick", [], false⟩]
    [.expire 7, .inbound [0, 0, 0, 2, 42], .inbound [255, 255, 255, 254], .close] _ 4
    ⟨2, "tick", [1], false⟩ 2 rfl rfl (by decide) hnames (by decide)
  exact (hfate (by decide)).2

/-- The longest timeout there is, of `2 ^ 64 - 1` seconds: the call is not framed, and the
response that it would have waited for does not reach its caller. -/
theorem longest_timeout_drops_call :
    (handed [.outbound 0 ⟨1, "tick", [], false⟩, .inbound [0, 0, 0, 1, 42]]).length ≤
        Frame.maxId ∧
      Frame.checkName "tick" = .ok () ∧
      (fresh (some (1000 * (2 ^ 64 - 1)))).frames
        [.outbound 0 ⟨1, "tick", [], false⟩, .inbound [0, 0, 0, 1, 42]] = [] ∧
      (fateOf (some (1000 * (2 ^ 64 - 1))) [] 0 ⟨1, "tick", [], false⟩
        [.inbound [0, 0, 0, 1, 42]]).result? = some (.ok [42]) ∧
      resultsFor 1 ((fresh (some (1000 * (2 ^ 64 - 1)))).effects
        [.outbound 0 ⟨1, "tick", [], false⟩, .inbound [0, 0, 0, 1, 42]]) = [.error .closed] :=
  ⟨by decide, rfl, rfl, rfl, rfl⟩

end Callwire.Calls
