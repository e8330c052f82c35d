import Callwire.Proofs.Lifetime.Deadlines

/-!
# Sweeps of a life

The next sweep is never more than one period away. So a call whose time is up, or
whose caller has given up, is not pending for longer than that.
-/

set_option autoImplicit false

namespace Callwire

namespace Sweep

theorem next_period (s : Sweep) (now : Instant) : (s.next now).period = s.period := by
  unfold next
  split_ifs <;> rfl

theorem next_due_le (s : Sweep) {now : Instant} (h : s.due ≤ now) :
    (s.next now).due ≤ now + s.period := by
  unfold next
  split_ifs
  · exact Nat.add_le_add_right h _
  · exact Nat.sub_le _ _

theorem next_multiple {due period now : Nat} (hperiod : 0 < period) (h : due ≤ now) :
    now < now + period - (now - due) % period ∧
      ∃ k, now + period - (now - due) % period = due + k * period := by
  have hmod : (now - due) % period < period := Nat.mod_lt _ hperiod
  have hsplit : period * ((now - due) / period) + (now - due) % period = now - due :=
    Nat.div_add_mod _ _
  constructor
  · omega
  · refine ⟨(now - due) / period + 1, ?_⟩
    rw [Nat.add_mul, Nat.one_mul, Nat.mul_comm]
    omega

/-- After a late sweep the next one is at the first of the planned times that is still
to come. -/
theorem next_of_late (s : Sweep) {now : Instant} (hperiod : 0 < s.period)
    (hlate : s.due + slack < now) :
    now < (s.next now).due ∧ ∃ k, (s.next now).due = s.due + k * s.period := by
  have hnext : (s.next now).due = now + s.period - (now - s.due) % s.period := by
    simp only [next, if_neg (Nat.not_le_of_lt hlate)]
  have hdue : s.due ≤ now := Nat.le_trans (Nat.le_add_right _ _) (Nat.le_of_lt hlate)
  rw [hnext]
  exact next_multiple hperiod hdue

end Sweep

namespace Client

section
variable {H ε : Type} {now : Instant} {c c' : Client H} {a : Action} {effects : List (Effect ε)}

/-- What becomes of the sweep: it is left as it is, or run, or set up anew. -/
theorem Worked.sweep (hw : Worked now c c' a effects) :
    (c'.sweep = c.sweep ∧ c'.calls.timeout = c.calls.timeout) ∨
    (c.sweep.due ≤ now ∧ c'.sweep = c.sweep.next now ∧
      c'.calls = (c.calls.expire (ε := ε) c.sweep.due).1) ∨
    ∃ timeout, c'.sweep = .start now timeout ∧ c'.calls = c.calls.setTimeout timeout := by
  cases hw with
  | kept hcalls hsweep => exact Or.inl ⟨hsweep, by rw [hcalls]⟩
  | received frame hcalls hsweep =>
    exact Or.inl ⟨hsweep, by rw [hcalls, Calls.timeout_inbound]⟩
  | took call rest ha hq hcalls hsweep =>
    exact Or.inl ⟨hsweep, by rw [hcalls, Calls.timeout_outbound]⟩
  | swept hdue hcalls hsweep => exact Or.inr (Or.inl ⟨hdue, hsweep, hcalls⟩)
  | configured timeout hcalls hsweep => exact Or.inr (Or.inr ⟨timeout, hsweep, hcalls⟩)
  | left hcalls hsweep => exact Or.inl ⟨hsweep, by rw [hcalls]; rfl⟩

end

namespace Life

variable {S H ε : Type} {u : Setting S H ε} {s s' : Life S H}

structure Paced (s : Life S H) : Prop where
  period : s.client.sweep.period = Sweep.periodOf s.client.calls.timeout
  due : s.client.sweep.due ≤ s.now + s.client.sweep.period

theorem paced_start (now : Instant) (link : S) (hub : H) (timeout : Option Nat) :
    Paced (start now link hub timeout) :=
  ⟨rfl, Nat.le_add_right _ _⟩

theorem Paced.step (h : Paced s) {move : Move S H} (hs : s.step u move = some s') : Paced s' := by
  rcases act_or_aside hs with ⟨a, rfl⟩ | haside
  · obtain ⟨c, p, effects, hc, rfl⟩ := change_of_act hs
    rcases (hc.worked u.quiet).sweep with ⟨hsweep, htimeout⟩ | ⟨hdue, hsweep, hcalls⟩ |
      ⟨timeout, hsweep, hcalls⟩
    · constructor
      · show c.sweep.period = Sweep.periodOf c.calls.timeout
        rw [hsweep, htimeout]
        exact h.period
      · show c.sweep.due ≤ s.now + c.sweep.period
        rw [hsweep]
        exact h.due
    · constructor
      · show c.sweep.period = Sweep.periodOf c.calls.timeout
        rw [hsweep, hcalls, Sweep.next_period]
        exact h.period
      · show c.sweep.due ≤ s.now + c.sweep.period
        rw [hsweep, Sweep.next_period]
        exact Sweep.next_due_le _ hdue
    · constructor
      · show c.sweep.period = Sweep.periodOf c.calls.timeout
        rw [hsweep, hcalls]
        rfl
      · show c.sweep.due ≤ s.now + c.sweep.period
        rw [hsweep]
        exact Nat.le_add_right _ _
  · have hnow := (grows_of_step hs).now
    constructor
    · rw [haside.sweep, haside.timeout]
      exact h.period
    · rw [haside.sweep]
      exact Nat.le_trans h.due (Nat.add_le_add_right hnow _)

theorem paced_run (now : Instant) (link : S) (hub : H) (timeout : Option Nat)
    (moves : List (Move S H)) : Paced ((start now link hub timeout).run u moves) :=
  run_keeps (fun _ _ _ h hs => Paced.step h hs) moves (paced_start now link hub timeout)

structure Leaving (id : Nat) (time limit : Instant) (s : Life S H) : Prop where
  old : id ≤ s.taken.length
  now : time ≤ s.now
  ripe : ∀ q ∈ s.client.calls.pending, q.id = id → q.abandoned = true ∨ q.isDue time = true
  next : (∃ q ∈ s.client.calls.pending, q.id = id) →
    time ≤ s.client.sweep.due ∧ (s.client.sweep.due ≤ limit ∨ s.client.sweep.due ≤ s.now)

variable {id : Nat} {time limit : Instant}

theorem isDue_mono {p : PendingCall} {t t' : Instant} (h : p.isDue t = true) (hle : t ≤ t') :
    p.isDue t' = true := by
  obtain ⟨d, hd, hdue⟩ := (Calls.isDue_iff p t).mp h
  exact (Calls.isDue_iff p t').mpr ⟨d, hd, Nat.le_trans hdue hle⟩

theorem Leaving.act (h : Leaving id time limit s) (hsound : Sound s) {a : Action}
    (hs : s.act u a = some s') : Leaving id time limit s' := by
  obtain ⟨c, p, effects, hc, rfl⟩ := change_of_act hs
  -- the id was handed out before, so no new entry has it
  have hkept : ∀ q ∈ c.calls.pending, q.id = id → q ∈ s.client.calls.pending := by
    intro q hq hid
    rcases (hc.worked u.quiet).pending hsound.holds.numbered hq with hold | ⟨-, call, rest, -, hnew⟩
    · exact hold
    · have hfresh : q.id = s.taken.length + 1 := by rw [hnew, List.length_map]
      have hold := h.old
      omega
  have hripe : ∀ q ∈ c.calls.pending, q.id = id → q.abandoned = true ∨ q.isDue time = true :=
    fun q hq hid => h.ripe q (hkept q hq hid) hid
  refine ⟨?_, h.now, hripe, ?_⟩
  · show id ≤ (s.taken ++ _).length
    rw [List.length_append]
    exact Nat.le_trans h.old (Nat.le_add_right _ _)
  · rintro ⟨q, hq, hid⟩
    obtain ⟨hafter, hsoon⟩ := h.next ⟨q, hkept q hq hid, hid⟩
    show time ≤ c.sweep.due ∧ (c.sweep.due ≤ limit ∨ c.sweep.due ≤ s.now)
    rcases (hc.worked u.quiet).sweep with ⟨hsweep, -⟩ | ⟨-, -, hcalls⟩ | ⟨timeout, hsweep, -⟩
    · rw [hsweep]
      exact ⟨hafter, hsoon⟩
    · change q ∈ c.calls.pending at hq
      rw [hcalls] at hq
      obtain ⟨hmem, hwaits, hearly⟩ := Calls.pending_expire hq
      rcases h.ripe q hmem hid with habandoned | hdue
      · rw [hwaits] at habandoned
        cases habandoned
      · rw [isDue_mono hdue hafter] at hearly
        cases hearly
    · rw [hsweep]
      exact ⟨h.now, Or.inr (Nat.le_refl s.now)⟩

theorem Leaving.step (h : Leaving id time limit s) (hsound : Sound s) {move : Move S H}
    (hs : s.step u move = some s') : Leaving id time limit s' := by
  rcases act_or_aside hs with ⟨a, rfl⟩ | haside
  · exact h.act hsound hs
  · have hnow := (grows_of_step hs).now
    constructor
    · rw [haside.taken]
      exact h.old
    · exact Nat.le_trans h.now hnow
    · intro q hq hid
      obtain ⟨p, hp, hpid, -, hdeadline, habandoned⟩ := haside.pending q hq
      rcases h.ripe p hp (hpid.trans hid) with hripe | hripe
      · exact Or.inl (habandoned hripe)
      · right
        rw [PendingCall.isDue, ← hdeadline]
        exact hripe
    · rintro ⟨q, hq, hid⟩
      obtain ⟨p, hp, hpid, -⟩ := haside.pending q hq
      obtain ⟨hafter, hsoon⟩ := h.next ⟨p, hp, hpid.trans hid⟩
      rw [haside.sweep]
      exact ⟨hafter, hsoon.imp_right fun hle => Nat.le_trans hle hnow⟩

theorem Leaving.run (h : Leaving id time limit s) (hsound : Sound s) (moves : List (Move S H)) :
    Leaving id time limit (s.run u moves) :=
  (hsound.run_keeps (fun _ _ _ hsound h hs => Leaving.step h hsound hs) moves h).2

/-- Where the connection has settled after the limit, the call is gone. -/
theorem Leaving.gone (h : Leaving id time limit s) (hsound : Sound s) (hsettled : s.Settled u)
    (hlimit : limit ≤ s.now) : ∀ q ∈ s.client.calls.pending, q.id ≠ id := by
  intro q hq hid
  by_cases hp : s.client.phase = .running
  · have hearly := (hsettled.idle hp).early
    obtain ⟨-, hsoon⟩ := h.next ⟨q, hq, hid⟩
    rcases hsoon with hle | hle
    · exact Nat.not_lt_of_le (Nat.le_trans hle hlimit) hearly
    · exact Nat.not_lt_of_le hle hearly
  · obtain ⟨e, he⟩ := hsettled.ended hp
    rw [(hsound.emptied e he).1] at hq
    cases hq

/-- A connection that has settled with a pending call is live. -/
theorem Settled.running (hsettled : s.Settled u) (hsound : Sound s) {p : PendingCall}
    (hp : p ∈ s.client.calls.pending) : s.client.phase = .running := by
  by_contra hnot
  obtain ⟨e, he⟩ := hsettled.ended hnot
  rw [(hsound.emptied e he).1] at hp
  cases hp

theorem leaving_of_settled (hsettled : s.Settled u) (hsound : Sound s) (hpaced : Paced s)
    {p : PendingCall} (hp : p ∈ s.client.calls.pending)
    (hdue : p.abandoned = true ∨ ∃ d ∈ p.deadline, d ≤ s.now) :
    Leaving p.id s.now (s.now + s.client.sweep.period) s := by
  have hearly := (hsettled.idle (hsettled.running hsound hp)).early
  constructor
  · have hle := hsound.holds.numbered.id_le hp
    rwa [List.length_map] at hle
  · exact Nat.le_refl _
  · intro q hq hid
    have hqp : q = p := List.inj_on_of_nodup_map hsound.distinct hq hp hid
    rw [hqp, Calls.isDue_iff]
    exact hdue
  · intro _
    exact ⟨Nat.le_of_lt hearly, Or.inl hpaced.due⟩

/-- A call whose time is up, or whose caller has given up, is not pending any more one
period later. -/
theorem due_calls_do_not_stay (u : Setting S H ε) (now : Instant) (link : S) (hub : H)
    (timeout : Option Nat) (moves more : List (Move S H)) (s t : Life S H)
    (hs : s = (start now link hub timeout).run u moves) (ht : t = s.run u more)
    (hsettled : s.Settled u) (hsettled' : t.Settled u) (p : PendingCall)
    (hp : p ∈ s.client.calls.pending)
    (hdue : p.abandoned = true ∨ ∃ d ∈ p.deadline, d ≤ s.now)
    (hlater : s.now + Sweep.periodOf s.client.calls.timeout ≤ t.now) :
    s.client.sweep.period = Sweep.periodOf s.client.calls.timeout ∧
      (∀ q ∈ t.client.calls.pending, q.id ≠ p.id) ∧
      (p.caller ∉ t.cancelled → ∃ r, t.resultsOf p.caller = [r]) := by
  have hsound : Sound s := by
    rw [hs]
    exact (sound_start now link hub timeout).run moves
  have hpaced : Paced s := by
    rw [hs]
    exact paced_run now link hub timeout moves
  have htimed : Timed s := by
    rw [hs]
    exact timed_run now link hub timeout moves
  have hsound' : Sound t := by
    rw [ht]
    exact hsound.run more
  have hleaving := leaving_of_settled hsettled hsound hpaced hp hdue
  have hgone : ∀ q ∈ t.client.calls.pending, q.id ≠ p.id := by
    have hrun : Leaving p.id s.now (s.now + s.client.sweep.period) t := by
      rw [ht]
      exact hleaving.run hsound more
    apply hrun.gone hsound' hsettled'
    rw [hpaced.period]
    exact hlater
  refine ⟨hpaced.period, hgone, ?_⟩
  intro hwaits
  obtain ⟨x, hx, hcaller, -⟩ := htimed.pending p hp
  obtain ⟨rest, hrest⟩ := (grows_run (u := u) more s).taken
  have hx' : t.taken[p.id - 1]? = some x := by
    rw [ht, ← hrest, Calls.getElem?_of_append hx]
  have hpos := (hsound.holds.numbered.pending p hp).1
  rw [← hcaller] at hwaits ⊢
  refine hsound'.result_of_taken hx' ?_ hwaits
  intro q hq
  rw [Nat.sub_add_cancel hpos]
  exact hgone q hq

/-- After a jump of the clock a sweep looks at deadlines as of the time it was due. -/
def jumped : Life Link (Sample.Hub Nat) :=
  (start 0 (.memory .fresh) .empty (some 4)).run sampleSetting
    [.call "raw" [1], .act .enqueue, .act .take, .act .sweep, .pass 40, .act .sweep]

def swept : Life Link (Sample.Hub Nat) := jumped.run sampleSetting [.pass 4, .act .sweep]

theorem overdue_call_is_swept :
    jumped.Settled sampleSetting ∧ swept.Settled sampleSetting ∧
      (⟨1, "raw", some 16, 0, false⟩ : PendingCall) ∈ jumped.client.calls.pending ∧
      jumped.now = 40 ∧ swept.now = 40 + Sweep.periodOf (some 4) ∧
      swept.results = [⟨0, .error .timeout, 44⟩] ∧
      ∀ q ∈ swept.client.calls.pending, q.id ≠ 1 := by
  have hsettled : jumped.Settled sampleSetting := fun a => by cases a <;> rfl
  have hsettled' : swept.Settled sampleSetting := fun a => by cases a <;> rfl
  have hpending : (⟨1, "raw", some 16, 0, false⟩ : PendingCall) ∈ jumped.client.calls.pending :=
    List.mem_singleton.mpr rfl
  have hgone := due_calls_do_not_stay sampleSetting 0 (.memory .fresh) .empty (some 4) _ _ jumped
    swept rfl rfl hsettled hsettled' ⟨1, "raw", some 16, 0, false⟩ hpending
    (Or.inr ⟨16, rfl, by decide⟩) (by decide)
  exact ⟨hsettled, hsettled', hpending, rfl, rfl, rfl, hgone.2.1⟩

end Life

end Client

end Callwire
