import Callwire.Proofs.Lifetime.Invariant
import Callwire.Proofs.Session.Hearing

/-!
# Calls that are handed over

A call waits for room and is then handed over to the connection, in its queue. The connection
refuses only calls that it was never handed, and one that was handed over is not refused.
-/

set_option autoImplicit false

namespace Callwire

def Refused (r : CallResult) : Prop := r = .error .alreadyClosed ∨ ∃ e, r = .error (.frame e)

theorem Calls.not_refused_result (r : Response) : ¬Refused (Calls.result r) := by
  unfold Refused Calls.result
  split_ifs
  · simp
  · split <;> simp

/-- A call with a name that can be framed is sent, or it is dropped when it was handed over. -/
theorem Calls.not_refused_outbound {ε : Type} {c : Calls} {handed : List Call}
    (hnum : c.Numbered handed) (now : Instant) {call : Call}
    (hname : Frame.checkName call.method = .ok ()) {x : Nat × CallResult}
    (hx : x ∈ finished (c.outbound (ε := ε) now call).2.2) : ¬Refused x.2 := by
  have hdropped : ∀ e, x ∈ finished (reply (ε := ε) call.caller call.abandoned (.error e)) →
      x.2 = .error e := by
    intro e hx
    rw [finished_reply] at hx
    split_ifs at hx
    · cases hx
    · rw [List.mem_singleton.mp hx]
  rcases outbound_cases (ε := ε) c hnum now call with ⟨-, heq⟩ | ⟨-, e, he, -⟩ |
    ⟨-, -, f, -, heq⟩ | ⟨-, -, heq⟩
  · rw [heq] at hx
    simp [Refused, hdropped _ hx]
  · rw [hname] at he
    cases he
  · rw [heq] at hx
    cases hx
  · rw [heq] at hx
    simp [Refused, hdropped _ hx]

namespace Client

variable {H S ε : Type}

/-- Only the first of the calls that wait for room is ever looked at. -/
theorem blocked_of_change {t : Terminal S} {deliver : H → Push → Delivery H ε} {now : Instant}
    {c c' : Client H} {l l' : S} {a : Action} {effects : List (Effect ε)}
    (hc : Change t deliver now c l a c' l' effects) (ha : a ≠ .enqueue) :
    c'.blocked = c.blocked ∧ c'.queue.Sublist c.queue := by
  cases hc with
  | queued hb hp hlt => exact absurd rfl ha
  | refused hb hp => exact absurd rfl ha
  | @received _ frame hp hr =>
    obtain ⟨hqueue, hblocked, -⟩ := inbound_queue deliver c frame
    exact ⟨hblocked, by rw [hqueue]⟩
  | declined hp hq ho => exact ⟨rfl, by rw [hq]; exact List.sublist_cons_self _ _⟩
  | sent hp hq ho hs => exact ⟨rfl, by rw [hq]; exact List.sublist_cons_self _ _⟩
  | unsent hp hq ho hs => exact ⟨rfl, by rw [hq]; exact List.sublist_cons_self _ _⟩
  | panicked hp hq ho => exact ⟨rfl, by rw [hq]; exact List.sublist_cons_self _ _⟩
  | left hp => exact ⟨rfl, List.nil_sublist _⟩
  | exhausted | broken | swept | configured | told => exact ⟨rfl, .refl _⟩

namespace Life

variable {u : Setting S H ε} {s s' : Life S H}

structure Apart (k : Nat) (s : Life S H) : Prop where
  taken : ∀ x ∈ s.taken, x.call.caller ≠ k
  queue : ∀ q ∈ s.client.queue, q.caller ≠ k
  waiting : (∃ q ∈ s.client.blocked, q.caller = k) ∨ s.asked.length ≤ k →
    ∀ x ∈ s.results, x.caller ≠ k

structure Handed (k : Nat) (s : Life S H) : Prop where
  asked : k < s.asked.length
  blocked : ∀ q ∈ s.client.blocked, q.caller ≠ k
  results : ∀ x ∈ s.results, x.caller = k → ¬Refused x.result

theorem apart_start (k : Nat) (now : Instant) (link : S) (hub : H) (timeout : Option Nat) :
    Apart k (start now link hub timeout) := by
  constructor <;> simp [start, Client.start]

/-- Only a call that waits for room is refused by the connection. -/
theorem refused_of_change (hsound : Sound s) {c : Client H} {a : Action} {p : S × List Bytes}
    {effects : List (Effect ε)}
    (hc : Change u.transport.recording u.deliver s.now s.client (s.link, s.sent) a c p effects)
    {x : Nat × CallResult} (hx : x ∈ finished effects) (hr : Refused x.2) :
    ∃ q ∈ s.client.blocked, q.caller = x.1 := by
  have houtbound : ∀ {call : Call} {rest : List Call} {calls : Calls} {outgoing : Outgoing}
      {es : List (Effect ε)}, s.client.queue = call :: rest →
      s.client.calls.outbound s.now call = (calls, outgoing, es) → x ∉ finished es := by
    intro call rest calls outgoing es hq ho hx
    have hnamed := hsound.holds.owned.named (identity call) (by simp [hq])
    rw [show es = (s.client.calls.outbound (ε := ε) s.now call).2.2 by rw [ho]] at hx
    exact Calls.not_refused_outbound hsound.holds.numbered s.now hnamed hx hr
  cases hc with
  | queued hb hp hlt => cases hx
  | @refused call rest e hb hp =>
    rw [finished_reply] at hx
    split_ifs at hx
    · cases hx
    · rw [List.mem_singleton.mp hx, hb]
      exact ⟨call, List.mem_cons_self, rfl⟩
  | @received _ frame hp hrec =>
    rw [finished_inbound u.quiet] at hx
    obtain ⟨response, p, -, -, -, hresult⟩ := Calls.finish_mem_inbound (mem_finished.mp hx)
    rw [hresult] at hr
    exact absurd hr (Calls.not_refused_result response)
  | exhausted hp hrec => cases hx
  | broken hp hrec => cases hx
  | declined hp hq ho => exact absurd hx (houtbound hq ho)
  | sent hp hq ho hs => exact absurd hx (houtbound hq ho)
  | unsent hp hq ho hs => exact absurd hx (houtbound hq ho)
  | panicked hp hq ho => exact absurd hx (houtbound hq ho)
  | swept hp hdue =>
    rw [Calls.finished_expire] at hx
    obtain ⟨q, -, rfl⟩ := List.mem_map.mp hx
    simp [Refused] at hr
  | configured hp hcfg => cases hx
  | told hp hcl => cases hx
  | left hp =>
    rw [finished_leave] at hx
    obtain ⟨q, -, rfl⟩ := List.mem_map.mp hx
    simp [Refused] at hr

theorem Sound.rest_ne (h : Sound s) {call : Call} {rest : List Call}
    (hb : s.client.blocked = call :: rest) {q : Call} (hq : q ∈ rest) :
    q.caller ≠ call.caller := by
  have hnodup := h.nodup_callers.of_append_right
  rw [List.map_append, hb, List.map_cons] at hnodup
  have hnot := (List.nodup_cons.mp hnodup.of_append_right).1
  exact fun heq => hnot (heq ▸ List.mem_map_of_mem hq)

theorem mem_takes {a : Action} {x : Taken} (hx : x ∈ s.takes a) : x.call ∈ s.client.queue := by
  unfold takes at hx
  split_ifs at hx
  · obtain ⟨q, hq, rfl⟩ := List.mem_map.mp hx
    exact List.mem_of_mem_head? (by simpa using hq)
  · cases hx

theorem mem_results_become {a : Action} {c : Client H} {p : S × List Bytes}
    {effects : List (Effect ε)} {x : Result} (hx : x ∈ (s.become a c p effects).results) :
    x ∈ s.results ∨ (x.caller, x.result) ∈ finished effects := by
  rcases List.mem_append.mp hx with hx | hx
  · exact .inl hx
  · obtain ⟨r, hr, rfl⟩ := List.mem_map.mp hx
    exact .inr hr

theorem Apart.pending {k : Nat} (h : Apart k s) (hsound : Sound s) {p : PendingCall}
    (hp : p ∈ s.client.calls.pending) : p.caller ≠ k := by
  obtain ⟨-, -, call, hcall, hcaller⟩ := hsound.holds.numbered.pending p hp
  obtain ⟨x, hx, rfl⟩ := List.mem_map.mp (List.mem_of_getElem? hcall)
  exact hcaller ▸ h.taken x hx

/-- A caller whose call is not in the connection and is not the next one gets no result. -/
theorem Apart.not_served {k : Nat} (h : Apart k s) (hsound : Sound s) {c : Client H} {a : Action}
    {p : S × List Bytes} {effects : List (Effect ε)}
    (hfirst : a = .enqueue → ∀ call, s.client.blocked.head? = some call → call.caller ≠ k)
    (hc : Change u.transport.recording u.deliver s.now s.client (s.link, s.sent) a c p effects) :
    k ∉ served effects := by
  by_cases ha : a = .enqueue
  · subst ha
    cases hc with
    | queued hb hp hlt => exact List.not_mem_nil
    | @refused call rest e hb hp =>
      rw [served_reply]
      intro hk
      obtain ⟨q, hq, hcaller⟩ := List.mem_map.mp hk
      rw [List.mem_singleton.mp (List.mem_filter.mp hq).1] at hcaller
      exact hfirst rfl call (by rw [hb]; rfl) hcaller
  · obtain ⟨hblocked, hqueue⟩ := blocked_of_change hc ha
    have hcount := hc.count_waiting u.quiet hsound.distinct k
    have hpending : s.client.calls.waiting.count k = 0 := by
      apply List.count_eq_zero.mpr
      intro hk
      obtain ⟨q, hq, hcaller⟩ := List.mem_map.mp hk
      exact h.pending hsound (List.mem_filter.mp hq).1 hcaller
    have hqueued : (awaited s.client.queue).count k = 0 := by
      apply List.count_eq_zero.mpr
      intro hk
      obtain ⟨q, hq, hcaller⟩ := List.mem_map.mp hk
      exact h.queue q (List.mem_filter.mp hq).1 hcaller
    rw [Client.count_waiting, Client.count_waiting, hblocked, hpending, hqueued] at hcount
    exact List.count_eq_zero.mp (by omega)

theorem Apart.act {k : Nat} (h : Apart k s) (hsound : Sound s) {a : Action}
    (hs : s.act u a = some s') : Apart k s' ∨ Handed k s' := by
  obtain ⟨c, p, effects, hc, rfl⟩ := change_of_act hs
  by_cases ha : a = .enqueue
  · subst ha
    cases hc with
    | @queued call rest hb hp hlt =>
      have hcall : call ∈ s.client.blocked := by rw [hb]; exact List.mem_cons_self
      by_cases hk : call.caller = k
      · right
        refine ⟨hk ▸ hsound.caller_lt (List.mem_append_right _ hcall),
          fun q hq => hk ▸ hsound.rest_ne hb hq, ?_⟩
        intro x hx hcaller
        rcases mem_results_become hx with hx | hx
        · exact absurd hcaller (h.waiting (.inl ⟨call, hcall, hk⟩) x hx)
        · cases hx
      · left
        constructor
        · simpa [become, takes] using h.taken
        · intro q hq
          rcases List.mem_append.mp hq with hq | hq
          · exact h.queue q hq
          · rw [List.mem_singleton.mp hq]
            exact hk
        · intro hw x hx
          rcases mem_results_become hx with hx | hx
          · refine h.waiting (hw.imp_left ?_) x hx
            rintro ⟨q, hq, hcaller⟩
            exact ⟨q, by rw [hb]; exact List.mem_cons_of_mem _ hq, hcaller⟩
          · cases hx
    | @refused call rest e hb hp =>
      left
      have hcall : call ∈ s.client.blocked := by rw [hb]; exact List.mem_cons_self
      refine ⟨by simpa [become, takes] using h.taken, h.queue, fun hw x hx => ?_⟩
      rcases mem_results_become hx with hx | hx
      · refine h.waiting (hw.imp_left ?_) x hx
        rintro ⟨q, hq, hcaller⟩
        exact ⟨q, by rw [hb]; exact List.mem_cons_of_mem _ hq, hcaller⟩
      · rw [finished_reply] at hx
        split_ifs at hx
        · cases hx
        · rw [List.mem_singleton, Prod.mk.injEq] at hx
          rw [hx.1]
          rcases hw with ⟨q, hq, rfl⟩ | hle
          · exact (hsound.rest_ne hb hq).symm
          · exact ((hsound.caller_lt (List.mem_append_right _ hcall)).trans_le hle).ne
  · left
    obtain ⟨hblocked, hqueue⟩ := blocked_of_change hc ha
    refine ⟨fun x hx => ?_, fun q hq => h.queue q (hqueue.subset hq), fun hw x hx => ?_⟩
    · rcases List.mem_append.mp hx with hx | hx
      · exact h.taken x hx
      · exact h.queue x.call (mem_takes hx)
    · rcases mem_results_become hx with hx | hx
      · refine h.waiting (hw.imp_left ?_) x hx
        change (∃ q ∈ c.blocked, q.caller = k) → _
        rw [hblocked]
        exact id
      · rintro rfl
        exact h.not_served hsound (absurd · ha) hc (List.mem_map_of_mem (f := Prod.fst) hx)

theorem Apart.step {k : Nat} (h : Apart k s) (hsound : Sound s) {move : Move S H}
    (hs : s.step u move = some s') : Apart k s' ∨ Handed k s' := by
  cases move with
  | call name payload =>
    cases hs
    left
    cases hn : Frame.checkName name with
    | error e =>
      rw [call_of_error s hn]
      refine ⟨h.taken, h.queue, fun hw x hx => ?_⟩
      simp only [List.length_append, List.length_singleton] at hw
      rcases List.mem_append.mp hx with hx | hx
      · exact h.waiting (hw.imp_right Nat.le_of_succ_le) x hx
      · rw [List.mem_singleton.mp hx]
        rcases hw with ⟨q, hq, rfl⟩ | hle
        · exact (hsound.caller_lt (List.mem_append_right _ hq)).ne'
        · exact Nat.ne_of_lt hle
    | ok _ =>
      rw [call_of_ok s hn]
      refine ⟨h.taken, h.queue, fun hw => h.waiting ?_⟩
      simp only [List.length_append, List.length_singleton] at hw
      rcases hw with ⟨q, hq, hcaller⟩ | hle
      · rcases List.mem_append.mp hq with hq | hq
        · exact .inl ⟨q, hq, hcaller⟩
        · rw [List.mem_singleton.mp hq] at hcaller
          exact .inr hcaller.le
      · exact .inr (Nat.le_of_succ_le hle)
  | giveUp caller =>
    simp only [Life.step] at hs
    split_ifs at hs
    cases hs
    left
    refine ⟨h.taken, fun q hq => ?_, fun hw => h.waiting (hw.imp_left ?_)⟩
    · obtain ⟨p, hp, rfl⟩ := List.mem_map.mp hq
      split_ifs
      · exact h.queue p hp
      · exact h.queue p hp
    · rintro ⟨q, hq, hcaller⟩
      exact ⟨q, (List.mem_filter.mp hq).1, hcaller⟩
  | act a => exact h.act hsound hs
  | listen f | configure timeout | close | pass time | peer f =>
    cases hs
    exact .inl ⟨h.taken, h.queue, h.waiting⟩

theorem Handed.step {k : Nat} (h : Handed k s) (hsound : Sound s) {move : Move S H}
    (hs : s.step u move = some s') : Handed k s' := by
  have hnew := h.asked.ne'
  cases move with
  | call name payload =>
    cases hs
    cases hn : Frame.checkName name with
    | error e =>
      rw [call_of_error s hn]
      refine ⟨by simpa using h.asked.trans (Nat.lt_succ_self _), h.blocked, fun x hx hk => ?_⟩
      rcases List.mem_append.mp hx with hx | hx
      · exact h.results x hx hk
      · rw [List.mem_singleton.mp hx] at hk
        exact absurd hk hnew
    | ok _ =>
      rw [call_of_ok s hn]
      refine ⟨by simpa using h.asked.trans (Nat.lt_succ_self _), fun q hq => ?_, h.results⟩
      rcases List.mem_append.mp hq with hq | hq
      · exact h.blocked q hq
      · rw [List.mem_singleton.mp hq]
        exact hnew
  | giveUp caller =>
    simp only [Life.step] at hs
    split_ifs at hs
    cases hs
    exact ⟨h.asked, fun q hq => h.blocked q (List.mem_filter.mp hq).1, h.results⟩
  | act a =>
    obtain ⟨c, p, effects, hc, rfl⟩ := change_of_act hs
    refine ⟨h.asked, fun q hq => h.blocked q ?_, fun x hx hk hr => ?_⟩
    · by_cases ha : a = .enqueue
      · subst ha
        cases hc with
        | queued hb hp hlt => rw [hb]; exact List.mem_cons_of_mem _ hq
        | refused hb hp => rw [hb]; exact List.mem_cons_of_mem _ hq
      · rwa [← (blocked_of_change hc ha).1]
    · rcases mem_results_become hx with hx | hx
      · exact h.results x hx hk hr
      · obtain ⟨q, hq, hcaller⟩ := refused_of_change hsound hc hx hr
        exact h.blocked q hq (hcaller.trans hk)
  | listen f | configure timeout | close | pass time | peer f =>
    cases hs
    exact ⟨h.asked, h.blocked, h.results⟩

/-- A call that was handed over is not refused any more. -/
theorem Handed.run {k : Nat} (h : Handed k s) (hsound : Sound s) (moves : List (Move S H)) :
    Handed k (s.run u moves) :=
  (hsound.run_keeps (fun _ _ _ hsound h hs => Handed.step h hsound hs) moves h).2

end Life

end Client

end Callwire
