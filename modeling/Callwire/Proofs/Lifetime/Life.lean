import Callwire.Proofs.Session.Asking

/-!
# The life of a client connection

A client connection from its start on. Callers come and give up, the task works,
the clock moves, and the other end does to the link whatever it likes, all in any
order. Histories record when calls were taken off the queue and when results came;
nothing depends on them.
-/

set_option autoImplicit false

namespace Callwire.Client

structure Setting (S H ε : Type) where
  transport : Terminal S
  deliver : H → Push → Delivery H ε
  quiet : ∀ hub p caller r, .finish caller r ∉ (deliver hub p).effects

structure Taken where
  call : Call
  time : Instant
  timeout : Option Nat
  deriving DecidableEq

def Taken.deadline (x : Taken) : Option Instant :=
  x.timeout.map fun t => x.time + Instant.ofMillis t

structure Result where
  caller : Nat
  result : CallResult
  time : Instant
  deriving DecidableEq

structure Life (S H : Type) where
  now : Instant
  link : S
  client : Client H
  asked : List (String × Bytes)
  cancelled : List Nat
  taken : List Taken
  sent : List Bytes
  results : List Result

namespace Life

inductive Move (S H : Type)
  | call (name : String) (payload : Bytes)
  | giveUp (caller : Nat)
  | listen (f : H → H)
  | configure (timeout : Option Nat)
  | close
  | act (a : Action)
  | pass (time : Nat)
  | peer (f : S → S)

variable {S H ε : Type}

def start (now : Instant) (link : S) (hub : H) (timeout : Option Nat) : Life S H :=
  ⟨now, link, .start hub now timeout, [], [], [], [], []⟩

def results? (now : Instant) (effects : List (Effect ε)) : List Result :=
  (finished effects).map fun r => ⟨r.1, r.2, now⟩

def takes (s : Life S H) (a : Action) : List Taken :=
  if a = .take then s.client.queue.head?.toList.map fun q => ⟨q, s.now, s.client.calls.timeout⟩
  else []

def call (s : Life S H) (name : String) (payload : Bytes) : Life S H :=
  let r := s.client.submit (ε := Empty) ⟨s.asked.length, name, payload, false⟩
  { s with
    client := r.1
    asked := s.asked ++ [(name, payload)]
    results := s.results ++ results? s.now r.2 }

def become (s : Life S H) (a : Action) (c : Client H) (p : S × List Bytes)
    (effects : List (Effect ε)) : Life S H :=
  { s with
    client := c
    link := p.1
    sent := p.2
    taken := s.taken ++ s.takes a
    results := s.results ++ results? s.now effects }

def act (u : Setting S H ε) (s : Life S H) (a : Action) : Option (Life S H) :=
  (s.client.act u.transport.recording u.deliver s.now a (s.link, s.sent)).map fun r =>
    s.become a r.1 r.2.1 r.2.2

def step (u : Setting S H ε) (s : Life S H) : Move S H → Option (Life S H)
  | .call name payload => some (s.call name payload)
  | .giveUp caller =>
    if caller < s.asked.length then
      some { s with client := s.client.abandon caller, cancelled := s.cancelled ++ [caller] }
    else none
  | .listen f => some { s with client := { s.client with hub := f s.client.hub } }
  | .configure timeout => some { s with client := s.client.configure timeout }
  | .close => some { s with client := s.client.requestClose }
  | .act a => s.act u a
  | .pass time => some { s with now := s.now + time }
  | .peer f => some { s with link := f s.link }

/-- A move that is not possible changes nothing. -/
def run (u : Setting S H ε) (s : Life S H) : List (Move S H) → Life S H
  | [] => s
  | move :: moves => run u ((s.step u move).getD s) moves

def Settled (u : Setting S H ε) (s : Life S H) : Prop := ∀ a, s.act u a = none

def resultsOf (s : Life S H) (caller : Nat) : List CallResult :=
  (s.results.filter (·.caller = caller)).map (·.result)

variable {u : Setting S H ε} {s s' : Life S H}

theorem length_resultsOf (s : Life S H) (k : Nat) :
    (s.resultsOf k).length = (s.results.map (·.caller)).count k := by
  rw [resultsOf, List.length_map, List.count, List.countP_map, List.countP_eq_length_filter]
  rfl

theorem mem_resultsOf {k : Nat} {r : CallResult} :
    r ∈ s.resultsOf k ↔ ∃ x ∈ s.results, x.caller = k ∧ x.result = r := by
  simp [resultsOf, and_assoc]

theorem run_append (moves rest : List (Move S H)) (s : Life S H) :
    s.run u (moves ++ rest) = (s.run u moves).run u rest := by
  induction moves generalizing s with
  | nil => rfl
  | cons move moves ih => exact ih _

/-- What every move keeps is kept by every run. -/
theorem run_keeps {P : Life S H → Prop}
    (hstep : ∀ s s' move, P s → s.step u move = some s' → P s') (moves : List (Move S H))
    (h : P s) : P (s.run u moves) := by
  induction moves generalizing s with
  | nil => exact h
  | cons move moves ih =>
    apply ih
    cases hs : s.step u move with
    | none => exact h
    | some t => exact hstep s t move h hs

/-- A call with a name that cannot be framed has its result at once. -/
theorem call_of_error (s : Life S H) {name : String} {e : FrameError}
    (h : Frame.checkName name = .error e) (payload : Bytes) : s.call name payload =
      { s with
        asked := s.asked ++ [(name, payload)]
        results := s.results ++ [⟨s.asked.length, .error (.frame e), s.now⟩] } := by
  simp only [call, submit, h]
  rfl

/-- Every other call waits for room in the queue. -/
theorem call_of_ok (s : Life S H) {name : String} (h : Frame.checkName name = .ok ())
    (payload : Bytes) : s.call name payload =
      { s with
        client := { s.client with
          blocked := s.client.blocked ++ [⟨s.asked.length, name, payload, false⟩] }
        asked := s.asked ++ [(name, payload)] } := by
  simp only [call, submit, h, results?, finished, List.filterMap_nil, List.map_nil, List.append_nil]

/-- An action is one of the changes of the client. -/
theorem change_of_act {a : Action} (h : s.act u a = some s') :
    ∃ c p effects, Change u.transport.recording u.deliver s.now s.client (s.link, s.sent) a c p
      effects ∧ s' = s.become a c p effects := by
  obtain ⟨⟨c, p, effects⟩, hact, rfl⟩ := Option.map_eq_some_iff.mp h
  exact ⟨c, p, effects, Client.change_of_act hact, rfl⟩

structure Aside (s s' : Life S H) : Prop where
  phase : s'.client.phase = s.client.phase
  sweep : s'.client.sweep = s.client.sweep
  timeout : s'.client.calls.timeout = s.client.calls.timeout
  taken : s'.taken = s.taken
  sent : s'.sent = s.sent
  pending : ∀ q ∈ s'.client.calls.pending, ∃ p ∈ s.client.calls.pending, p.id = q.id ∧
    p.caller = q.caller ∧ p.deadline = q.deadline ∧ (p.abandoned = true → q.abandoned = true)
  results : s'.results = s.results ∨ ∃ name payload e, Frame.checkName name = .error e ∧
    s'.asked = s.asked ++ [(name, payload)] ∧
    s'.results = s.results ++ [⟨s.asked.length, .error (.frame e), s.now⟩]

/-- A move is an action, or one of the moves of all the others. -/
theorem act_or_aside {move : Move S H} (hs : s.step u move = some s') :
    (∃ a, move = .act a) ∨ Aside s s' := by
  have hpending : ∀ q ∈ s.client.calls.pending, ∃ p ∈ s.client.calls.pending, p.id = q.id ∧
      p.caller = q.caller ∧ p.deadline = q.deadline ∧ (p.abandoned = true → q.abandoned = true) :=
    fun q hq => ⟨q, hq, rfl, rfl, rfl, id⟩
  cases move with
  | call name payload =>
    cases hs
    cases hn : Frame.checkName name with
    | ok _ =>
      rw [call_of_ok s hn]
      exact Or.inr ⟨rfl, rfl, rfl, rfl, rfl, hpending, Or.inl rfl⟩
    | error e =>
      rw [call_of_error s hn]
      exact Or.inr ⟨rfl, rfl, rfl, rfl, rfl, hpending, Or.inr ⟨name, payload, e, hn, rfl, rfl⟩⟩
  | giveUp caller =>
    simp only [step] at hs
    split_ifs at hs
    cases hs
    refine Or.inr ⟨rfl, rfl, rfl, rfl, rfl, ?_, Or.inl rfl⟩
    intro q hq
    obtain ⟨p, hp, rfl⟩ := List.mem_map.mp hq
    refine ⟨p, hp, ?_⟩
    split_ifs
    · exact ⟨rfl, rfl, rfl, fun _ => rfl⟩
    · exact ⟨rfl, rfl, rfl, id⟩
  | act a => exact Or.inl ⟨a, rfl⟩
  | listen f | configure timeout | close | pass time | peer f =>
    cases hs
    exact Or.inr ⟨rfl, rfl, rfl, rfl, rfl, hpending, Or.inl rfl⟩

structure Grows (s s' : Life S H) : Prop where
  now : s.now ≤ s'.now
  asked : s.asked <+: s'.asked
  cancelled : s.cancelled <+: s'.cancelled
  taken : s.taken <+: s'.taken
  results : s.results <+: s'.results

theorem Grows.refl (s : Life S H) : Grows s s :=
  ⟨Nat.le_refl _, List.prefix_rfl, List.prefix_rfl, List.prefix_rfl, List.prefix_rfl⟩

theorem Grows.trans {t : Life S H} (h : Grows s s') (h' : Grows s' t) : Grows s t :=
  ⟨Nat.le_trans h.now h'.now, h.asked.trans h'.asked, h.cancelled.trans h'.cancelled,
    h.taken.trans h'.taken, h.results.trans h'.results⟩

theorem grows_of_step {move : Move S H} (hs : s.step u move = some s') : Grows s s' := by
  have hsame := Grows.refl s
  cases move with
  | call name payload =>
    cases hs
    exact { hsame with asked := List.prefix_append _ _, results := List.prefix_append _ _ }
  | giveUp caller =>
    simp only [step] at hs
    split_ifs at hs
    cases hs
    exact { hsame with cancelled := List.prefix_append _ _ }
  | act a =>
    obtain ⟨c, p, effects, -, rfl⟩ := change_of_act hs
    exact { hsame with taken := List.prefix_append _ _, results := List.prefix_append _ _ }
  | pass time =>
    cases hs
    exact { hsame with now := Nat.le_add_right _ _ }
  | listen f | configure timeout | close | peer f =>
    cases hs
    exact ⟨hsame.now, hsame.asked, hsame.cancelled, hsame.taken, hsame.results⟩

theorem grows_run (moves : List (Move S H)) (s : Life S H) : Grows s (s.run u moves) :=
  run_keeps (fun _ _ _ h hs => h.trans (grows_of_step hs)) moves (Grows.refl s)

end Life

end Callwire.Client
