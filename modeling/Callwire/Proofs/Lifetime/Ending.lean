import Callwire.Proofs.Lifetime.Settled

/-!
# The end of a connection

A task ends once, in whatever way it comes to that. What it had then is rejected,
and so is every call that comes too late. When the connection has settled after
that, every caller that has not given up has got one result.
-/

set_option autoImplicit false

namespace Callwire.Client

variable {H S ε : Type}

def handedOver (c : Client H) : List Nat := c.calls.waiting ++ awaited c.queue

def refusal (name : String) : RequestError :=
  match Frame.checkName name with
  | .ok () => .alreadyClosed
  | .error e => .frame e

namespace Life

variable {u : Setting S H ε} {s s' : Life S H}

/-! ## The results of one caller -/

theorem Sound.one_result (h : Sound s) (hwaiting : s.client.waiting = []) {k : Nat}
    (hk : k < s.asked.length) (hc : k ∉ s.cancelled) : (s.resultsOf k).length = 1 := by
  have hbalanced := h.balanced k hc
  rw [hwaiting, List.count_nil, Nat.zero_add] at hbalanced
  rw [length_resultsOf, hbalanced]
  exact List.count_eq_one_of_mem List.nodup_range (List.mem_range.mpr hk)

/-- Where nobody waits, a result of a caller is its only one. -/
theorem Sound.only_result (h : Sound s) (hwaiting : s.client.waiting = []) {x : Result}
    (hx : x ∈ s.results) (hc : x.caller ∉ s.cancelled) :
    s.resultsOf x.caller = [x.result] := by
  have hasked : x.caller < s.asked.length := by
    have hbalanced := h.balanced x.caller hc
    have hpos : 0 < (s.results.map (·.caller)).count x.caller :=
      List.count_pos_iff.mpr (List.mem_map_of_mem hx)
    have hrange : 0 < (List.range s.asked.length).count x.caller := by omega
    exact List.mem_range.mp (List.count_pos_iff.mp hrange)
  obtain ⟨r, hr⟩ := List.length_eq_one_iff.mp (h.one_result hwaiting hasked hc)
  have hmem := mem_resultsOf.mpr ⟨x, hx, rfl, rfl⟩
  rw [hr, List.mem_singleton] at hmem
  rw [hr, hmem]

/-! ## After the end -/

theorem act_leave {e : TaskEnd} (h : s.client.phase = .leaving e) :
    s.act u .leave = some (s.become .leave (s.client.leave (ε := ε) u.transport.recording e
      (s.link, s.sent)).1 (s.client.leave (ε := ε) u.transport.recording e (s.link, s.sent)).2.1
      (s.client.leave (ε := ε) u.transport.recording e (s.link, s.sent)).2.2) := by
  simp only [act, Client.act, h, Option.map_some]

theorem results_leave (s : Life S H) (e : TaskEnd) :
    results? s.now (s.client.leave (ε := ε) u.transport.recording e (s.link, s.sent)).2.2 =
      s.client.handedOver.map fun k => ⟨k, .error .closed, s.now⟩ := by
  rw [results?, finished_leave, List.map_map]
  rfl

structure Over (e : TaskEnd) (s t : Life S H) : Prop where
  phase : t.client.phase = .ended e
  sent : t.sent = s.sent
  results : ∀ x ∈ t.results, x ∈ s.results ∨ ∃ name payload,
    t.asked[x.caller]? = some (name, payload) ∧ x.result = .error (refusal name)

theorem Over.step {e : TaskEnd} {t t' : Life S H} (h : Over e s t) (hsound : Sound t)
    {move : Move S H} (hs : t.step u move = some t') : Over e s t' := by
  have hold : ∀ x ∈ t.results, x ∈ s.results ∨ ∃ name payload,
      t'.asked[x.caller]? = some (name, payload) ∧ x.result = .error (refusal name) := by
    intro x hx
    rcases h.results x hx with hx | ⟨name, payload, hasked, hr⟩
    · exact Or.inl hx
    · obtain ⟨more, hmore⟩ := (grows_of_step hs).asked
      exact Or.inr ⟨name, payload, by rw [← hmore, Calls.getElem?_of_append hasked], hr⟩
  rcases act_or_aside hs with ⟨a, rfl⟩ | haside
  · obtain ⟨c, p, effects, hc, rfl⟩ := change_of_act hs
    obtain ⟨call, rest, hb, rfl, rfl, rfl, rfl⟩ := hc.of_ended h.phase
    refine ⟨h.phase, h.sent, ?_⟩
    intro x hx
    rcases List.mem_append.mp hx with hx | hx
    · exact hold x hx
    · -- the call waited for room, so its name can be framed
      have hmem : identity call ∈
          (t.taken.map (·.call) ++ t.client.queue ++ t.client.blocked).map identity :=
        List.mem_map_of_mem (by simp [hb])
      have hknown := hsound.holds.owned.known _ hmem
      have hnamed := hsound.holds.owned.named _ hmem
      simp only [identity] at hknown hnamed
      rw [results?, finished_reply] at hx
      split_ifs at hx with ha
      · cases hx
      · rw [List.map_singleton, List.mem_singleton] at hx
        rw [hx]
        exact Or.inr ⟨call.method, call.payload, hknown, by simp [refusal, hnamed]⟩
  · refine ⟨haside.phase.trans h.phase, haside.sent.trans h.sent, ?_⟩
    rcases haside.results with hsame | ⟨name, payload, f, hn, hasked, hmore⟩
    · rw [hsame]
      exact hold
    · intro x hx
      rw [hmore] at hx
      rcases List.mem_append.mp hx with hx | hx
      · exact hold x hx
      · rw [List.mem_singleton.mp hx]
        exact Or.inr ⟨name, payload, by rw [hasked, List.getElem?_concat_length],
          by simp [refusal, hn]⟩

/-- From the end of the task on. -/
theorem over_run {e : TaskEnd} (hsound : Sound s) (hp : s.client.phase = .ended e)
    (moves : List (Move S H)) : Over e s (s.run u moves) := by
  have hstart : Over e s s := ⟨hp, rfl, fun x hx => Or.inl hx⟩
  exact (hsound.run_keeps (fun _ _ _ hsound h hs => Over.step h hsound hs) moves hstart).2

/-- A task that has ended has left its loop before, and then all that it had. -/
theorem exists_leave {e : TaskEnd} {moves : List (Move S H)} (hsound : Sound s)
    (hrun : ∀ e, s.client.phase ≠ .ended e) (hend : (s.run u moves).client.phase = .ended e) :
    ∃ before after, moves = before ++ .act .leave :: after ∧
      (s.run u before).client.phase = .leaving e := by
  induction moves generalizing s with
  | nil => exact absurd hend (hrun e)
  | cons move moves ih =>
    have hnext : ∀ t, t = (s.step u move).getD s → Sound t → (∀ e, t.client.phase ≠ .ended e) →
        ∃ before after, move :: moves = before ++ .act .leave :: after ∧
          (s.run u before).client.phase = .leaving e := by
      intro t ht hsoundt hrunt
      subst ht
      obtain ⟨before, after, hmoves, hleaving⟩ := ih hsoundt hrunt hend
      exact ⟨move :: before, after, by rw [hmoves]; rfl, hleaving⟩
    cases hs : s.step u move with
    | none => exact hnext s (by rw [hs]; rfl) hsound hrun
    | some t =>
      have hsoundt := hsound.step hs
      have heq : t = (s.step u move).getD s := by rw [hs]; rfl
      by_cases hended : ∃ f, t.client.phase = .ended f
      · obtain ⟨f, hf⟩ := hended
        have hover := (over_run (u := u) hsoundt hf moves).phase
        rw [run, ← heq, hover] at hend
        cases hend
        have hmove : move = .act .leave ∧ s.client.phase = .leaving e := by
          rcases act_or_aside hs with ⟨a, rfl⟩ | haside
          · obtain ⟨c, p, effects, hc, rfl⟩ := change_of_act hs
            rcases hc.to_ended hf with hp | ⟨rfl, hp, -⟩
            · exact absurd hp (hrun e)
            · exact ⟨rfl, hp⟩
          · exact absurd (haside.phase.symm.trans hf) (hrun e)
        exact ⟨[], moves, by rw [hmove.1]; rfl, hmove.2⟩
      · exact hnext t heq hsoundt fun f hf => hended ⟨f, hf⟩

/-- What the task had when it ended gets its results at once. -/
theorem after_leave {e : TaskEnd} (h : s.client.phase = .leaving e) :
    ∃ t, s.step u (.act .leave) = some t ∧ t.client.phase = .ended e ∧ t.sent = s.sent ∧
      t.results = s.results ++ s.client.handedOver.map fun k => ⟨k, .error .closed, s.now⟩ := by
  refine ⟨_, act_leave h, rfl, ?_, ?_⟩
  · show (if e = .panicked then _ else _ : S × List Bytes).2 = s.sent
    split_ifs <;> rfl
  · rw [← results_leave (u := u) s e]
    rfl

/-- Nobody waits on a settled connection whose task has ended. -/
theorem waiting_of_ended {e : TaskEnd} (hsound : Sound s) (hsettled : s.Settled u)
    (hp : s.client.phase = .ended e) : s.client.waiting = [] := by
  obtain ⟨hpending, hqueue⟩ := hsound.emptied e hp
  have hblocked := hsettled.blocked hp
  simp [waiting, Calls.waiting, hpending, hqueue, hblocked]

structure Concluded (u : Setting S H ε) (e : TaskEnd) (s t : Life S H) : Prop where
  leaving : s.client.phase = .leaving e
  ended : t.client.phase = .ended e
  pending : t.client.calls.pending = []
  queue : t.client.queue = []
  blocked : t.client.blocked = []
  sent : t.sent = s.sent
  one : ∀ k < t.asked.length, k ∉ t.cancelled → ∃ r, t.resultsOf k = [r]
  kept : ∀ k r, k ∉ t.cancelled → r ∈ s.resultsOf k → t.resultsOf k = [r]
  rejected : ∀ k ∈ s.client.handedOver, k ∉ t.cancelled → t.resultsOf k = [.error .closed]
  refused : ∀ k name payload, t.asked[k]? = some (name, payload) → Frame.checkName name = .ok () →
    k ∉ t.cancelled → s.resultsOf k = [] → k ∉ s.client.handedOver →
    t.resultsOf k = [.error .alreadyClosed]
  late : ∀ name payload, Frame.checkName name = .ok () →
    (t.run u [.call name payload, .act .enqueue]).Settled u ∧
    (t.run u [.call name payload, .act .enqueue]).sent = t.sent ∧
    (t.run u [.call name payload, .act .enqueue]).results =
      t.results ++ [⟨t.asked.length, .error .alreadyClosed, t.now⟩]

theorem late_call {e : TaskEnd} (hp : s.client.phase = .ended e) (hb : s.client.blocked = [])
    {name : String} (hn : Frame.checkName name = .ok ()) (payload : Bytes) :
    (s.run u [.call name payload, .act .enqueue]).Settled u ∧
    (s.run u [.call name payload, .act .enqueue]).sent = s.sent ∧
    (s.run u [.call name payload, .act .enqueue]).results =
      s.results ++ [⟨s.asked.length, .error .alreadyClosed, s.now⟩] := by
  have hcall := call_of_ok s hn payload
  have hact : (s.call name payload).act u .enqueue = some ((s.call name payload).become .enqueue
      { s.client with blocked := [] } (s.link, s.sent)
      [Effect.finish (ε := ε) s.asked.length (.error .alreadyClosed)]) := by
    rw [hcall]
    simp only [Life.act, Client.act, enqueue, hb, hp, List.nil_append, Option.map_some]
    rfl
  have hrun : s.run u [.call name payload, .act .enqueue] = (s.call name payload).become .enqueue
      { s.client with blocked := [] } (s.link, s.sent)
      [Effect.finish (ε := ε) s.asked.length (.error .alreadyClosed)] := by
    simp only [run, step, Option.getD_some, hact]
  rw [hrun]
  refine ⟨settled_of_ended hp rfl, rfl, ?_⟩
  rw [hcall]
  rfl

/-- A caller that had no result when the task left, and whose call the task did not
have, gets what comes of late calls. -/
theorem Over.refused {e : TaskEnd} {s₁ t : Life S H} (hover : Over e s₁ t)
    (hresults : s₁.results =
      s.results ++ s.client.handedOver.map fun k => ⟨k, .error .closed, s.now⟩)
    {x : Result} (hx : x ∈ t.results) (hnone : s.resultsOf x.caller = [])
    (hnot : x.caller ∉ s.client.handedOver) : ∃ name payload,
      t.asked[x.caller]? = some (name, payload) ∧ x.result = .error (refusal name) := by
  refine (hover.results x hx).resolve_left fun hx₁ => ?_
  rw [hresults] at hx₁
  rcases List.mem_append.mp hx₁ with hbefore | hrejected
  · have hmem := mem_resultsOf.mpr ⟨x, hbefore, rfl, rfl⟩
    rw [hnone] at hmem
    cases hmem
  · obtain ⟨k, hmem, rfl⟩ := List.mem_map.mp hrejected
    exact hnot hmem

theorem concluded_of_leave {e : TaskEnd} {t : Life S H} (hsound : Sound s)
    (hleaving : s.client.phase = .leaving e) {after : List (Move S H)}
    (ht : t = s.run u (.act .leave :: after)) (hsettled : t.Settled u) : Concluded u e s t := by
  obtain ⟨s₁, hstep, hp₁, hsent₁, hresults₁⟩ := after_leave (u := u) hleaving
  have hsound₁ : Sound s₁ := hsound.step hstep
  have hrest : t = s₁.run u after := by
    rw [ht, run, hstep, Option.getD_some]
  have hsoundt : Sound t := by
    rw [hrest]
    exact hsound₁.run after
  have hover : Over e s₁ t := by
    rw [hrest]
    exact over_run hsound₁ hp₁ after
  have hgrows : Grows s₁ t := by
    rw [hrest]
    exact grows_run after s₁
  have hwaiting := waiting_of_ended hsoundt hsettled hover.phase
  obtain ⟨hpending, hqueue⟩ := hsoundt.emptied e hover.phase
  have hblocked := hsettled.blocked hover.phase
  have hone : ∀ k < t.asked.length, k ∉ t.cancelled → ∃ r, t.resultsOf k = [r] := by
    intro k hk hc
    exact List.length_eq_one_iff.mp (hsoundt.one_result hwaiting hk hc)
  refine ⟨hleaving, hover.phase, hpending, hqueue, hblocked, hover.sent.trans hsent₁, hone, ?_, ?_,
    ?_, fun name payload hn => late_call hover.phase hblocked hn payload⟩
  · intro k r hk hr
    obtain ⟨x, hx, rfl, rfl⟩ := mem_resultsOf.mp hr
    have hx₁ : x ∈ s₁.results := by
      rw [hresults₁]
      exact List.mem_append_left _ hx
    exact hsoundt.only_result hwaiting (hgrows.results.subset hx₁) hk
  · intro k hmem hk
    have hx₁ : ⟨k, .error .closed, s.now⟩ ∈ s₁.results := by
      rw [hresults₁]
      exact List.mem_append_right _ (List.mem_map_of_mem hmem)
    exact hsoundt.only_result hwaiting (hgrows.results.subset hx₁) hk
  · intro k name payload hasked hn hk hnone hnot
    obtain ⟨hlt, -⟩ := List.getElem?_eq_some_iff.mp hasked
    obtain ⟨r, hr⟩ := hone k hlt hk
    obtain ⟨x, hx, rfl, rfl⟩ := mem_resultsOf.mp (hr ▸ List.mem_singleton_self r)
    obtain ⟨name', payload', hasked', hrefused⟩ := hover.refused hresults₁ hx hnone hnot
    rw [hasked, Option.some.injEq, Prod.mk.injEq] at hasked'
    rw [hr, hrefused, ← hasked'.1, refusal, hn]

/-- However a task ends, no call is left waiting after it. -/
theorem no_call_outlives_connection (u : Setting S H ε) (now : Instant) (link : S) (hub : H)
    (timeout : Option Nat) (moves : List (Move S H)) (s : Life S H)
    (hs : s = (start now link hub timeout).run u moves) (hsettled : s.Settled u)
    (hend : s.client.phase ≠ .running ∨ s.client.closing = true ∨
      (u.transport.receive s.link).2 ≠ .waiting) :
    ∃ before after e, moves = before ++ .act .leave :: after ∧
      Concluded u e ((start now link hub timeout).run u before) s := by
  have hstart := sound_start (S := S) now link hub timeout
  have hphase : s.client.phase ≠ .running := by
    intro hp
    have hidle := hsettled.idle hp
    rcases hend with hend | hend | hend
    · exact hend hp
    · rw [hidle.untold] at hend
      cases hend
    · exact hend hidle.waits
  obtain ⟨e, he⟩ := hsettled.ended hphase
  obtain ⟨before, after, hmoves, hleaving⟩ := exists_leave hstart (fun _ h => by cases h) (hs ▸ he)
  have hrun : s = ((start now link hub timeout).run u before).run u (.act .leave :: after) := by
    rw [hs, hmoves, run_append]
  exact ⟨before, after, e, hmoves, concluded_of_leave (hstart.run before) hleaving hrun hsettled⟩

/-- One call is answered, one is pending, one is in the queue and one waits for room
when the connection is closed. -/
def closedRun : Life Link (Sample.Hub Nat) :=
  (start 0 (.memory .fresh) .empty none).run sampleSetting
    [.call "raw" [1], .call "raw" [2], .act .enqueue, .act .enqueue, .act .take, .act .take,
      .peer fun l => (Link.feed .b l [0, 0, 0, 1, 9]).toOption.getD l, .act .receive,
      .call "raw" [3], .act .enqueue, .call "raw" [4], .close, .act .close, .act .leave,
      .act .enqueue]

theorem closed_run_concludes :
    closedRun.Settled sampleSetting ∧ closedRun.client.phase ≠ .running ∧
      closedRun.results.map (fun x => (x.caller, x.result)) = [(0, .ok [9]), (1, .error .closed),
        (2, .error .closed), (3, .error .alreadyClosed)] ∧
      (closedRun.run sampleSetting [.call "raw" [5], .act .enqueue]).sent = closedRun.sent := by
  have hsettled : closedRun.Settled sampleSetting := settled_of_ended (e := .finished) rfl rfl
  have hphase : closedRun.client.phase ≠ .running := fun h => by cases h
  obtain ⟨before, after, e, -, hconcluded⟩ := no_call_outlives_connection sampleSetting 0
    (.memory .fresh) .empty none _ closedRun rfl hsettled (Or.inl hphase)
  exact ⟨hsettled, hphase, rfl, (hconcluded.late "raw" [5] rfl).2.1⟩

end Life

end Callwire.Client
