import Callwire.Proofs.Lifetime.Life

/-!
# Waiting calls

The calls whose callers still wait for a result: those that wait for room in the
queue, those in it and those that are pending. A change of a client turns some of
them into results. It loses none, and no other call gets a result.
-/

set_option autoImplicit false

namespace Callwire

section
variable {ε : Type}

@[simp] theorem finished_nil : finished ([] : List (Effect ε)) = [] := rfl

@[simp] theorem finished_append (l m : List (Effect ε)) :
    finished (l ++ m) = finished l ++ finished m :=
  List.filterMap_append

@[simp] theorem finished_trace (t : Trace) (l : List (Effect ε)) :
    finished (.trace t :: l) = finished l := rfl

@[simp] theorem finished_reply (caller : Nat) (abandoned : Bool) (r : CallResult) :
    finished (reply (ε := ε) caller abandoned r) = if abandoned then [] else [(caller, r)] := by
  cases abandoned <;> rfl

theorem finished_eq_nil {l : List (Effect ε)} (h : ∀ caller r, .finish caller r ∉ l) :
    finished l = [] := by
  apply List.filterMap_eq_nil_iff.mpr
  intro e he
  cases e with
  | finish caller r => exact absurd he (h caller r)
  | trace t => rfl
  | event e => rfl

/-- The same result for many callers. -/
theorem finished_flatMap {α : Type} (l : List α) (caller : α → Nat) (abandoned : α → Bool)
    (r : CallResult) (f : α → List (Effect ε))
    (hf : ∀ a, finished (f a) = finished (reply (ε := ε) (caller a) (abandoned a) r)) :
    finished (l.flatMap f) = (l.filter fun a => !abandoned a).map fun a => (caller a, r) := by
  induction l with
  | nil => rfl
  | cons a l ih =>
    rw [List.flatMap_cons, finished_append, ih, hf, finished_reply]
    cases h : abandoned a <;> simp [h]

end

def awaited (l : List Call) : List Nat := (l.filter (!·.abandoned)).map (·.caller)

@[simp] theorem awaited_nil : awaited [] = [] := rfl

@[simp] theorem awaited_append (l m : List Call) : awaited (l ++ m) = awaited l ++ awaited m := by
  simp [awaited]

theorem awaited_cons (call : Call) (l : List Call) :
    awaited (call :: l) = awaited [call] ++ awaited l :=
  awaited_append [call] l

def served {ε : Type} (effects : List (Effect ε)) : List Nat := (finished effects).map (·.1)

section
variable {ε : Type}

@[simp] theorem served_nil : served ([] : List (Effect ε)) = [] := rfl

@[simp] theorem served_append (l m : List (Effect ε)) : served (l ++ m) = served l ++ served m := by
  simp [served]

@[simp] theorem served_trace (t : Trace) (l : List (Effect ε)) :
    served (.trace t :: l) = served l := rfl

theorem served_reply (call : Call) (r : CallResult) :
    served (reply (ε := ε) call.caller call.abandoned r) = awaited [call] := by
  cases h : call.abandoned <;> simp [served, awaited, h]

end

/-- A list with one key for every element, one of them at its front. -/
theorem perm_cons_filter_ne {α β : Type} [DecidableEq β] (key : α → β) {l : List α}
    (h : (l.map key).Nodup) {a : α} (ha : a ∈ l) :
    l.Perm (a :: l.filter fun x => key x != key a) := by
  induction l with
  | nil => cases ha
  | cons b l ih =>
    rw [List.map_cons, List.nodup_cons] at h
    by_cases hb : key b = key a
    · have hab : a = b := by
        rcases List.mem_cons.mp ha with hab | hmem
        · exact hab
        · exact absurd (hb ▸ List.mem_map_of_mem hmem) h.1
      have hrest : l.filter (fun x => key x != key a) = l := by
        apply List.filter_eq_self.mpr
        intro x hx
        have hne : key x ≠ key a := fun heq =>
          h.1 (hb ▸ heq ▸ List.mem_map_of_mem (f := key) hx)
        simpa using hne
      subst hab
      simp [hrest]
    · have hmem : a ∈ l := (List.mem_cons.mp ha).resolve_left fun hab => hb (hab ▸ rfl)
      have hkeep : (b :: l).filter (fun x => key x != key a) =
          b :: l.filter fun x => key x != key a := by simp [hb]
      rw [hkeep]
      exact ((ih h.2 hmem).cons b).trans (.swap a b _)

namespace Calls

variable {ε : Type}

def waiting (c : Calls) : List Nat := (c.pending.filter (!·.abandoned)).map (·.caller)

/-- A response serves no one but the caller of the call it answers. -/
theorem count_respond {c : Calls} (hn : (c.pending.map (·.id)).Nodup) (r : Response) (k : Nat) :
    c.waiting.count k =
      (c.respond (ε := ε) r).1.waiting.count k + (served (c.respond (ε := ε) r).2).count k := by
  cases hf : c.find? r.requestId.toInt.toNat with
  | none =>
    rw [respond_of_none hf]
    simp
  | some p =>
    rw [respond_of_some hf]
    have htrace : served (failureTrace (ε := ε) p.method (result r)) = [] := by
      cases result r <;> rfl
    have hperm := perm_cons_filter_ne (·.id) hn (List.mem_of_find?_eq_some hf)
    have hcount : c.waiting.count k =
        (((p :: (c.without p.id).pending).filter (!·.abandoned)).map (·.caller)).count k :=
      ((hperm.filter _).map _).count_eq k
    have hreply : served (p.reply (ε := ε) (result r)) =
        ([p].filter (!·.abandoned)).map (·.caller) := by
      cases h : p.abandoned <;> simp [served, PendingCall.reply, h]
    rw [hcount, served_append, htrace, hreply, List.nil_append, ← List.singleton_append,
      List.filter_append, List.map_append, List.count_append, Nat.add_comm]
    rfl

theorem count_inbound {c : Calls} (hn : (c.pending.map (·.id)).Nodup) (frame : Bytes) (k : Nat) :
    c.waiting.count k = (c.inbound (ε := ε) frame).1.waiting.count k +
      (served (c.inbound (ε := ε) frame).2.1).count k := by
  by_cases hr : ∃ r, Frame.decode .client frame = .ok (.response r)
  · obtain ⟨r, hr⟩ := hr
    rw [inbound_of_response hr]
    exact count_respond hn r k
  · obtain ⟨hsame, htraces⟩ := inbound_of_other (ε := ε) (fun r hd => hr ⟨r, hd⟩) c
    have hnone : finished (c.inbound (ε := ε) frame).2.1 = [] := by
      apply finished_eq_nil
      intro caller r hmem
      obtain ⟨t, ht⟩ := htraces _ hmem
      cases ht
    simp [hsame, served, hnone]

theorem finished_expire (c : Calls) (t : Instant) :
    finished (c.expire (ε := ε) t).2 = ((c.pending.filter (!·.abandoned)).filter (·.isDue t)).map
      fun p => (p.caller, .error .timeout) := by
  have hall := finished_flatMap ((c.pending.filter (!·.abandoned)).filter (·.isDue t))
    (·.caller) (·.abandoned) (.error .timeout) (timedOut (ε := ε)) fun p => rfl
  have hkept : (((c.pending.filter (!·.abandoned)).filter (·.isDue t)).filter
      fun p => !p.abandoned) = (c.pending.filter (!·.abandoned)).filter (·.isDue t) := by
    apply List.filter_eq_self.mpr
    intro p hp
    exact (List.mem_filter.mp (List.mem_filter.mp hp).1).2
  rw [hkept] at hall
  exact hall

theorem count_expire (c : Calls) (t : Instant) (k : Nat) :
    c.waiting.count k =
      (c.expire (ε := ε) t).1.waiting.count k + (served (c.expire (ε := ε) t).2).count k := by
  have hkept : (c.expire (ε := ε) t).1.waiting =
      ((c.pending.filter (!·.abandoned)).filter (!·.isDue t)).map (·.caller) := by
    show (((c.pending.filter (!·.abandoned)).filter (!·.isDue t)).filter (!·.abandoned)).map _ = _
    rw [List.filter_eq_self.mpr]
    intro p hp
    exact (List.mem_filter.mp (List.mem_filter.mp hp).1).2
  have hsplit := (List.filter_append_perm (·.isDue t) (c.pending.filter (!·.abandoned))).map
    (·.caller)
  have hserved : served (c.expire (ε := ε) t).2 =
      ((c.pending.filter (!·.abandoned)).filter (·.isDue t)).map (·.caller) := by
    rw [served, finished_expire, List.map_map]
    rfl
  rw [hkept, hserved, waiting, ← hsplit.count_eq k, List.map_append, List.count_append,
    Nat.add_comm]

theorem finished_close (c : Calls) : finished (c.close (ε := ε)).2 =
    (c.pending.filter (!·.abandoned)).map fun p => (p.caller, .error .closed) :=
  finished_flatMap c.pending (·.caller) (·.abandoned) (.error .closed) _ fun _ => rfl

/-- A call that is taken off the queue is pending, or has its result. -/
theorem count_outbound (c : Calls) (now : Instant) (call : Call) (k : Nat) :
    c.waiting.count k + (awaited [call]).count k =
      (c.outbound (ε := ε) now call).1.waiting.count k +
        (served (c.outbound (ε := ε) now call).2.2).count k := by
  unfold outbound
  cases hn : c.nextId with
  | none => simp only [served_reply]
  | some id =>
    cases he : Request.encode ⟨call.method, Int32.ofNat id, call.payload⟩ with
    | error e =>
      simp only [he, served_reply]
      rfl
    | ok frame =>
      simp only [he]
      split_ifs
      · simp only [served_nil, List.count_nil, Nat.add_zero]
        have hmore : ∀ deadline, ([⟨id, call.method, deadline, call.caller,
            call.abandoned⟩].filter fun p : PendingCall => !p.abandoned).map (·.caller) =
              awaited [call] := by
          intro deadline
          cases h : call.abandoned <;> simp [awaited, h]
        rw [← hmore, ← List.count_append, waiting, waiting, ← List.map_append,
          ← List.filter_append]
        rfl
      · simp only [served_reply]
        rfl

end Calls

namespace Client

variable {H S ε : Type}

def waiting (c : Client H) : List Nat :=
  c.calls.waiting ++ awaited c.queue ++ awaited c.blocked

theorem count_waiting (c : Client H) (k : Nat) : c.waiting.count k =
    c.calls.waiting.count k + (awaited c.queue).count k + (awaited c.blocked).count k := by
  rw [waiting, List.count_append, List.count_append]

/-- Listeners give no results to anybody. -/
theorem finished_inbound {deliver : H → Push → Delivery H ε}
    (quiet : ∀ hub p caller r, Effect.finish caller r ∉ (deliver hub p).effects)
    (c : Client H) (frame : Bytes) :
    finished (c.inbound deliver frame).2 = finished (c.calls.inbound (ε := ε) frame).2.1 := by
  unfold inbound
  rcases c.calls.inbound (ε := ε) frame with ⟨calls, effects, _ | push⟩
  · rfl
  · simp only [finished_append, finished_eq_nil (quiet c.hub push), List.append_nil]

theorem finished_endTrace (e : TaskEnd) : finished (endTrace (ε := ε) e) = [] := by
  cases e <;> rfl

/-- Every call that the task still has is rejected when it ends. -/
theorem finished_leave (t : Terminal S) (e : TaskEnd) (c : Client H) (l : S) :
    finished (c.leave (ε := ε) t e l).2.2 =
      (c.calls.waiting ++ awaited c.queue).map fun k => (k, .error .closed) := by
  have hqueue : finished (c.queue.flatMap fun q => reply (ε := ε) q.caller q.abandoned
      (.error .closed)) = (awaited c.queue).map fun k => (k, .error .closed) := by
    rw [finished_flatMap c.queue (·.caller) (·.abandoned) (.error .closed) _ fun _ => rfl, awaited,
      List.map_map]
    rfl
  show finished ((c.calls.close (ε := ε)).2 ++ _ ++ endTrace e) = _
  rw [finished_append, finished_append, Calls.finished_close, hqueue, finished_endTrace,
    List.append_nil, List.map_append, Calls.waiting, List.map_map]
  rfl

/-- A change serves callers that wait, each of them once, and the others go on
waiting. -/
theorem Change.count_waiting {t : Terminal S} {deliver : H → Push → Delivery H ε} {now : Instant}
    {c c' : Client H} {l l' : S} {a : Action} {effects : List (Effect ε)}
    (quiet : ∀ hub p caller r, Effect.finish caller r ∉ (deliver hub p).effects)
    (hn : (c.calls.pending.map (·.id)).Nodup) (hc : Change t deliver now c l a c' l' effects)
    (k : Nat) : c.waiting.count k = c'.waiting.count k + (served effects).count k := by
  have htake : ∀ {call : Call} {rest : List Call} {calls : Calls} {outgoing : Outgoing}
      {es : List (Effect ε)}, c.queue = call :: rest →
      c.calls.outbound now call = (calls, outgoing, es) → c.waiting.count k =
        calls.waiting.count k + (awaited rest).count k + (awaited c.blocked).count k +
          (served es).count k := by
    intro call rest calls outgoing es hq ho
    have hcount := Calls.count_outbound (ε := ε) c.calls now call k
    simp only [ho] at hcount
    rw [Client.count_waiting, hq, awaited_cons call rest, List.count_append]
    omega
  cases hc with
  | @queued call rest hb hp hlt =>
    simp only [Client.count_waiting, hb, awaited_cons call rest, awaited_append, List.count_append,
      served_nil, List.count_nil]
    omega
  | @refused call rest e hb hp =>
    simp only [Client.count_waiting, hb, awaited_cons call rest, List.count_append, served_reply]
    omega
  | @received l' frame hp hr =>
    obtain ⟨hqueue, hblocked, hcalls⟩ := inbound_queue deliver c frame
    have hcount := Calls.count_inbound (ε := ε) hn frame k
    rw [Client.count_waiting, Client.count_waiting, hqueue, hblocked, hcalls, served,
      finished_inbound quiet c frame, ← served]
    omega
  | exhausted hp hr => rfl
  | broken hp hr => rfl
  | declined hp hq ho =>
    rw [htake hq ho, Client.count_waiting]
  | sent hp hq ho hs =>
    rw [htake hq ho, Client.count_waiting]
  | unsent hp hq ho hs =>
    rw [htake hq ho, Client.count_waiting]
  | panicked hp hq ho =>
    rw [htake hq ho, Client.count_waiting]
  | swept hp hdue =>
    have hcount := Calls.count_expire (ε := ε) c.calls c.sweep.due k
    simp only [Client.count_waiting]
    omega
  | configured hp hcfg => rfl
  | told hp hcl => rfl
  | @left e hp =>
    have hserved : served (c.leave (ε := ε) t e l).2.2 = c.calls.waiting ++ awaited c.queue := by
      rw [served, finished_leave, List.map_map]
      exact List.map_id _
    rw [hserved, Client.count_waiting, Client.count_waiting, List.count_append]
    show _ = ([] : List Nat).count k + ([] : List Nat).count k + (awaited c.blocked).count k + _
    simp only [List.count_nil]
    omega

/-- A caller that gives up does not wait any more. -/
theorem waiting_abandon (c : Client H) (caller : Nat) :
    (c.abandon caller).waiting = c.waiting.filter (· != caller) := by
  have hpending : (c.calls.abandon caller).waiting = c.calls.waiting.filter (· != caller) := by
    unfold Calls.waiting Calls.abandon
    induction c.calls.pending with
    | nil => rfl
    | cons p l ih =>
      by_cases hp : p.caller = caller <;> cases ha : p.abandoned <;> simp_all
  have hqueue : awaited (c.abandon caller).queue = (awaited c.queue).filter (· != caller) := by
    unfold awaited abandon
    induction c.queue with
    | nil => rfl
    | cons q l ih =>
      by_cases hq : q.caller = caller <;> cases ha : q.abandoned <;> simp_all
  have hblocked : awaited (c.abandon caller).blocked =
      (awaited c.blocked).filter (· != caller) := by
    simp only [awaited, abandon, List.filter_map, List.filter_filter]
    congr 1
    apply List.filter_congr
    intro q _
    exact Bool.and_comm _ _
  simp only [waiting, List.filter_append, ← hqueue, ← hblocked, ← hpending]
  rfl

end Client

end Callwire
