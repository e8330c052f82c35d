import Callwire.Proofs.Lifetime.Handing
import Callwire.Proofs.Lifetime.Renaming

/-!
# Calls that leave no trace

Without a call that was never handed over the same moves lead to the same life, in which all
later callers have the number before theirs.
-/

set_option autoImplicit false

namespace Callwire

def closeUp (k j : Nat) : Nat := if k < j then j - 1 else j

theorem closeUp_inj {k i j : Nat} (hi : i ≠ k) (hj : j ≠ k) :
    closeUp k i = closeUp k j ↔ i = j := by
  unfold closeUp
  split_ifs <;> omega

namespace Client

variable {H S ε : Type}

def without (k : Nat) (c : Client H) : Client H :=
  c.renamed (closeUp k) ((c.blocked.filter (·.caller != k)).map (·.rename (closeUp k)))

variable {deliver : H → Push → Delivery H ε} {k : Nat} {c : Client H} {a : Action}

theorem enqueue_without (h : ∀ call, c.blocked.head? = some call → call.caller ≠ k) :
    (c.without k).enqueue (ε := ε) =
      c.enqueue.map fun r => (r.1.without k, r.2.map (.rename (closeUp k))) := by
  cases hb : c.blocked with
  | nil => simp [enqueue, without, renamed, hb]
  | cons call rest =>
    have hne := h call (by rw [hb]; rfl)
    cases hp : c.phase with
    | ended e =>
      simp [enqueue, without, renamed, hb, hp, hne, reply_rename, Call.rename]
    | running | leaving e =>
      by_cases hlt : c.queue.length < capacity
      · simp [enqueue, without, renamed, hb, hp, hne, hlt]
      · simp [enqueue, without, renamed, hb, hp, hne, hlt]

/-- A call that is left out has no part in what is done for the others. -/
theorem act_without
    (quiet : ∀ hub p caller r, Effect.finish caller r ∉ (deliver hub p).effects)
    (t : Terminal S) (now : Instant) (l : S)
    (h : a = .enqueue → ∀ call, c.blocked.head? = some call → call.caller ≠ k) :
    (c.without k).act t deliver now a l = (c.act t deliver now a l).map fun r =>
      (r.1.without k, r.2.1, r.2.2.map (.rename (closeUp k))) := by
  by_cases ha : a = .enqueue
  · subst ha
    simp only [act, enqueue_without (h rfl), Option.map_map]
    rfl
  · rw [without, act_renamed _ _ _ quiet now ha]
    refine Option.map_congr fun r hr => ?_
    rw [without, (blocked_of_change (change_of_act hr) ha).1]

namespace Life

variable {u : Setting S H ε} {s s' : Life S H}

def without (k : Nat) (s : Life S H) : Life S H :=
  { s with
    client := s.client.without k
    asked := s.asked.eraseIdx k
    cancelled := (s.cancelled.filter (· != k)).map (closeUp k)
    taken := s.taken.map fun x => { x with call := x.call.rename (closeUp k) }
    results := (s.results.filter (·.caller != k)).map fun x =>
      { x with caller := closeUp k x.caller } }

def concerns (k : Nat) (s : Life S H) : Move S H → Bool
  | .call _ _ => s.asked.length == k
  | .giveUp caller => caller == k
  | .act .enqueue => s.client.blocked.head?.any (·.caller == k)
  | _ => false

def Move.closeUp (k : Nat) : Move S H → Move S H
  | .giveUp caller => .giveUp (Callwire.closeUp k caller)
  | move => move

def omitting (u : Setting S H ε) (k : Nat) (s : Life S H) : List (Move S H) → List (Move S H)
  | [] => []
  | move :: moves =>
    if concerns k s move then ((s.step u move).getD s).omitting u k moves
    else move.closeUp k :: ((s.step u move).getD s).omitting u k moves

theorem results?_without {k : Nat} (now : Instant) {effects : List (Effect ε)}
    (h : k ∉ served effects) : ((results? now effects).filter (·.caller != k)).map (fun x =>
      { x with caller := closeUp k x.caller }) =
        results? now (effects.map (.rename (closeUp k))) := by
  rw [List.filter_eq_self.mpr]
  · rw [results?, results?, finished_rename, List.map_map, List.map_map]
    rfl
  · intro x hx
    obtain ⟨r, hr, rfl⟩ := List.mem_map.mp hx
    have hne : r.1 ≠ k := fun heq => h (heq ▸ List.mem_map_of_mem hr)
    simpa using hne

theorem takes_without (k : Nat) (s : Life S H) (a : Action) : (s.without k).takes a =
    (s.takes a).map fun x => { x with call := x.call.rename (closeUp k) } := by
  unfold takes
  split_ifs
  · simp only [without, Client.without, Client.renamed, List.head?_map, Calls.rename]
    cases s.client.queue.head? <;> rfl
  · rfl

theorem Apart.act_without {k : Nat} (h : Apart k s) (hsound : Sound s) {a : Action}
    (hfirst : a = .enqueue → ∀ call, s.client.blocked.head? = some call → call.caller ≠ k) :
    (s.without k).act u a = (s.act u a).map (without k) := by
  have hclient := Client.act_without u.quiet u.transport.recording s.now (s.link, s.sent) hfirst
  unfold Life.act
  rw [Option.map_map]
  change Option.map _ ((s.client.without k).act u.transport.recording u.deliver s.now a
    (s.link, s.sent)) = _
  rw [hclient, Option.map_map]
  refine Option.map_congr fun r hr => ?_
  have hresults := results?_without s.now
    (h.not_served hsound hfirst (Client.change_of_act hr))
  simp only [Function.comp, become, takes_without]
  simp only [without, List.map_append, List.filter_append, hresults]

theorem length_asked_without (k : Nat) (s : Life S H) :
    (s.without k).asked.length = closeUp k s.asked.length := by
  simp only [without, List.length_eraseIdx, closeUp]

theorem call_without {k : Nat} (h : s.asked.length ≠ k) (name : String) (payload : Bytes) :
    (s.without k).call name payload = (s.call name payload).without k := by
  have hasked : (s.asked ++ [(name, payload)]).eraseIdx k =
      s.asked.eraseIdx k ++ [(name, payload)] := by
    rcases Nat.lt_or_gt_of_ne h with hlt | hgt
    · rw [List.eraseIdx_of_length_le (by simpa using hlt), List.eraseIdx_of_length_le hlt.le]
    · exact List.eraseIdx_append_of_lt_length hgt _
  cases hn : Frame.checkName name with
  | error e =>
    rw [call_of_error _ hn, call_of_error _ hn, length_asked_without]
    simp [without, hasked, h]
  | ok _ =>
    rw [call_of_ok _ hn, call_of_ok _ hn, length_asked_without]
    simp [without, hasked, h, Client.without, Client.renamed, Call.rename]

theorem Apart.abandon_without {k caller : Nat} (h : Apart k s) (hsound : Sound s)
    (hne : caller ≠ k) : (s.client.without k).abandon (closeUp k caller) =
      (s.client.abandon caller).without k := by
  have hcalls := s.client.calls.abandon_rename (closeUp k) caller
    fun p hp => closeUp_inj (h.pending hsound hp) hne
  have hqueue : (s.client.queue.map (·.rename (closeUp k))).map (fun q =>
      if q.caller = closeUp k caller then { q with abandoned := true } else q) =
        (s.client.queue.map fun q => if q.caller = caller then { q with abandoned := true }
          else q).map (·.rename (closeUp k)) := by
    rw [List.map_map, List.map_map]
    apply List.map_congr_left
    intro q hq
    simp only [Function.comp, Call.rename, closeUp_inj (h.queue q hq) hne]
    split_ifs <;> rfl
  have hblocked : ((s.client.blocked.filter (·.caller != k)).map (·.rename (closeUp k))).filter
      (·.caller != closeUp k caller) =
        ((s.client.blocked.filter (·.caller != caller)).filter (·.caller != k)).map
          (·.rename (closeUp k)) := by
    rw [List.filter_map, List.filter_filter, List.filter_filter]
    congr 1
    apply List.filter_congr
    intro q _
    by_cases hk : q.caller = k
    · simp [hk]
    · have hkeep : (q.caller != k) = true := by simpa using hk
      have hsame : (closeUp k q.caller != closeUp k caller) = (q.caller != caller) := by
        rw [Bool.eq_iff_iff]
        simp [closeUp_inj hk hne]
      simp [Call.rename, hkeep, hsame]
  simp only [abandon, Client.without, Client.renamed, hcalls, hqueue, hblocked]

theorem Apart.abandon_own {k : Nat} (h : Apart k s) (hsound : Sound s) :
    (s.client.abandon k).without k = s.client.without k := by
  have hcalls : s.client.calls.abandon k = s.client.calls := by
    have hpending : s.client.calls.pending.map (fun p =>
        if p.caller = k then { p with abandoned := true } else p) = s.client.calls.pending :=
      (List.map_congr_left fun p hp => if_neg (h.pending hsound hp)).trans (List.map_id _)
    rw [Calls.abandon, hpending]
  have hqueue : s.client.queue.map (fun q =>
      if q.caller = k then { q with abandoned := true } else q) = s.client.queue :=
    (List.map_congr_left fun q hq => if_neg (h.queue q hq)).trans (List.map_id _)
  simp only [abandon, Client.without, Client.renamed, hcalls, hqueue, List.filter_filter,
    Bool.and_self]

/-- Every move of the others does the same without the caller. -/
theorem Apart.step_without {k : Nat} (h : Apart k s) (hsound : Sound s) {move : Move S H}
    (hother : concerns k s move = false) :
    (s.without k).step u (move.closeUp k) = (s.step u move).map (without k) := by
  cases move with
  | call name payload =>
    have hne : s.asked.length ≠ k := by simpa [concerns] using hother
    exact congrArg some (call_without hne name payload)
  | giveUp caller =>
    have hne : caller ≠ k := by simpa [concerns] using hother
    have hlt : closeUp k caller < (s.without k).asked.length ↔ caller < s.asked.length := by
      rw [length_asked_without]
      unfold closeUp
      split_ifs <;> omega
    simp only [Move.closeUp, Life.step, hlt]
    split_ifs
    · refine congrArg some ?_
      have hclient := h.abandon_without hsound hne
      simp only [without, hclient, List.filter_append, List.map_append]
      simp [hne]
    · rfl
  | act a =>
    refine h.act_without hsound ?_
    rintro rfl call hcall heq
    simp [concerns, hcall, heq] at hother
  | listen f | configure timeout | close | pass time | peer f => rfl

/-- Nothing is left of the moves of a caller whose call was not handed over. -/
theorem Apart.without_of_concerns {k : Nat} (h : Apart k s) (hsound : Sound s) {move : Move S H}
    (hown : concerns k s move = true) (hs : s.step u move = some s') (h' : Apart k s') :
    s'.without k = s.without k := by
  cases move with
  | call name payload =>
    cases hs
    have hk : s.asked.length = k := by simpa [concerns] using hown
    have hasked : (s.asked ++ [(name, payload)]).eraseIdx k = s.asked.eraseIdx k := by
      rw [List.eraseIdx_of_length_le hk.le, ← hk, List.eraseIdx_append_of_length_le le_rfl]
      simp
    cases hn : Frame.checkName name with
    | error e =>
      rw [call_of_error s hn]
      simp [without, hasked, hk]
    | ok _ =>
      rw [call_of_ok s hn]
      simp [without, hasked, hk, Client.without, Client.renamed]
  | giveUp caller =>
    have hk : caller = k := by simpa [concerns] using hown
    subst hk
    simp only [Life.step] at hs
    split_ifs at hs
    cases hs
    have hclient := h.abandon_own hsound
    simp only [without, hclient, List.filter_append]
    simp
  | act a =>
    cases a with
    | enqueue =>
      obtain ⟨c, p, effects, hc, rfl⟩ := change_of_act hs
      cases hc with
      | @queued call rest hb hp hlt =>
        have hk : call.caller = k := by simpa [concerns, hb] using hown
        exact absurd hk (h'.queue call (List.mem_append_right _ (List.mem_singleton.mpr rfl)))
      | @refused call rest e hb hp =>
        have hk : call.caller = k := by simpa [concerns, hb] using hown
        subst hk
        have hresults : ∀ x ∈ results? (ε := ε) s.now (reply call.caller call.abandoned
            (.error .alreadyClosed)), x.caller = call.caller := by
          intro x hx
          rw [results?, finished_reply] at hx
          split_ifs at hx
          · cases hx
          · rw [List.mem_singleton.mp hx]
        simpa [without, become, takes, Client.without, Client.renamed, hb] using hresults
    | receive | take | sweep | configure | close | leave => cases hown
  | listen f | configure timeout | close | pass time | peer f => cases hown

/-- Leaving a call out of a run leaves it out of the end of the run, if the connection never
gets it. -/
theorem Apart.run_without {k : Nat} (h : Apart k s) (hsound : Sound s) {moves : List (Move S H)}
    (hnot : ¬Handed k (s.run u moves)) : Apart k (s.run u moves) ∧
      (s.without k).run u (s.omitting u k moves) = (s.run u moves).without k := by
  induction moves generalizing s with
  | nil => exact ⟨h, rfl⟩
  | cons move moves ih =>
    rw [omitting, run]
    cases hs : s.step u move with
    | none =>
      rw [run, hs] at hnot
      have hrun := ih h hsound hnot
      split_ifs with hown
      · exact hrun
      · have hstep := h.step_without (u := u) hsound (Bool.not_eq_true _ ▸ hown)
        rw [run, hstep, hs]
        exact hrun
    | some s' =>
      rw [run, hs] at hnot
      have hsound' := hsound.step hs
      -- Had it been handed over in this move, it would be so at the end of the run.
      have h' : Apart k s' := (h.step hsound hs).resolve_right fun hhanded =>
        hnot (hhanded.run hsound' moves)
      have hrun := ih h' hsound' hnot
      split_ifs with hown
      · rw [← h.without_of_concerns hsound hown hs h']
        exact hrun
      · have hstep := h.step_without (u := u) hsound (Bool.not_eq_true _ ▸ hown)
        rw [run, hstep, hs]
        exact hrun

end Life

end Client

end Callwire
