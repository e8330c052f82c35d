import Callwire.Client.Subscribers
import Callwire.Payload.Basic
import Mathlib.Tactic

/-!
# Subscriptions

A registry only grows, and only at its end: it holds the subscriptions that were made, in
their order. The callbacks that a payload is for are those that have subscribed before it
is published, however many subscribe while they run.
-/

set_option autoImplicit false

namespace Callwire

namespace Happening

variable {κ α : Type}

def subscription? : Happening κ α → Option κ
  | subscribed c => some c
  | decoded _ | called _ _ | reported _ => none

def call? : Happening κ α → Option (κ × α)
  | called c a => some (c, a)
  | subscribed _ | decoded _ | reported _ => none

def subscriptions (log : List (Happening κ α)) : List κ := log.filterMap subscription?

def calls (log : List (Happening κ α)) : List (κ × α) := log.filterMap call?

@[simp] theorem subscriptions_append (log more : List (Happening κ α)) :
    subscriptions (log ++ more) = subscriptions log ++ subscriptions more :=
  List.filterMap_append

@[simp] theorem calls_append (log more : List (Happening κ α)) :
    calls (log ++ more) = calls log ++ calls more :=
  List.filterMap_append

@[simp] theorem subscriptions_nil : subscriptions ([] : List (Happening κ α)) = [] := rfl

@[simp] theorem subscriptions_called (c : κ) (a : α) (log : List (Happening κ α)) :
    subscriptions (.called c a :: log) = subscriptions log := rfl

@[simp] theorem subscriptions_subscribed (cs : List κ) :
    subscriptions (cs.map (subscribed (α := α))) = cs := by
  induction cs with
  | nil => rfl
  | cons c cs ih => exact congrArg _ ih

def Followed {σ : Type} (behave : Behaviour κ α σ) (log : List (Happening κ α)) : Prop :=
  ∀ before c a after, log = before ++ .called c a :: after →
    ∃ (r : Registry κ) (world : σ), r.callbacks = subscriptions before ∧
      (behave c a r world).1.map .subscribed <+: after

end Happening

open Happening

namespace Fanout

variable {κ α σ : Type}

structure Heard (cs : List κ) (a : α) (s t : Fanout κ α σ) (more : List (Happening κ α)) :
    Prop where
  log : t.log = s.log ++ more
  calls : calls more = cs.map (·, a)
  registry : t.registry = ⟨s.registry.event, s.registry.callbacks ++ subscriptions more⟩
  quiet : ∀ x ∈ more, x.subscription?.isSome ∨ x.call?.isSome

theorem Heard.trans {cs ds : List κ} {a : α} {s t u : Fanout κ α σ}
    {more rest : List (Happening κ α)} (h : Heard cs a s t more) (h' : Heard ds a t u rest) :
    Heard (cs ++ ds) a s u (more ++ rest) := by
  constructor
  · rw [h'.log, h.log, List.append_assoc]
  · rw [calls_append, h.calls, h'.calls, List.map_append]
  · rw [h'.registry, h.registry, subscriptions_append, List.append_assoc]
  · intro x hx
    rcases List.mem_append.mp hx with hx | hx
    · exact h.quiet x hx
    · exact h'.quiet x hx

theorem heard_subscribeAll (s : Fanout κ α σ) (a : α) (cs : List κ) :
    Heard [] a s (cs.foldl subscribe s) (cs.map .subscribed) := by
  induction cs generalizing s with
  | nil => exact ⟨by simp, rfl, by simp, by simp⟩
  | cons c cs ih =>
    have hfirst : Heard [] a s (s.subscribe c) [.subscribed c] := by
      refine ⟨rfl, rfl, rfl, ?_⟩
      intro x hx
      cases List.mem_singleton.mp hx
      exact .inl rfl
    exact hfirst.trans (ih _)

theorem heard_call (behave : Behaviour κ α σ) (a : α) (s : Fanout κ α σ) (c : κ) :
    Heard [c] a s (s.call behave a c)
      (.called c a :: (behave c a s.registry s.world).1.map .subscribed) := by
  let called := { s with world := (behave c a s.registry s.world).2 }.note (.called c a)
  have hcalled : Heard [c] a s called [.called c a] := by
    refine ⟨rfl, rfl, by simp [called, note], ?_⟩
    intro x hx
    cases List.mem_singleton.mp hx
    exact .inr rfl
  exact hcalled.trans (heard_subscribeAll called a _)

theorem heard_callAll (behave : Behaviour κ α σ) (a : α) (cs : List κ) (s : Fanout κ α σ) :
    ∃ more, Heard cs a s (cs.foldl (call behave a) s) more := by
  induction cs generalizing s with
  | nil => exact ⟨[], by simp, rfl, by simp, by simp⟩
  | cons c cs ih =>
    obtain ⟨rest, hrest⟩ := ih (s.call behave a c)
    exact ⟨_, (heard_call behave a s c).trans hrest⟩

structure Kept (behave : Behaviour κ α σ) (s : Fanout κ α σ) : Prop where
  callbacks : s.registry.callbacks = subscriptions s.log
  followed : Followed behave s.log

variable {behave : Behaviour κ α σ}

theorem kept_fresh (event : String) (world : σ) : (fresh event world).Kept behave := by
  constructor
  · rfl
  · intro before c a after h
    simp [fresh] at h

theorem Kept.extend {s t : Fanout κ α σ} (h : s.Kept behave) {more : List (Happening κ α)}
    (hlog : t.log = s.log ++ more)
    (hcallbacks : t.registry.callbacks = s.registry.callbacks ++ subscriptions more)
    (hmore : ∀ before c a after, more = before ++ .called c a :: after →
      ∃ (r : Registry κ) (world : σ), r.callbacks = subscriptions (s.log ++ before) ∧
        (behave c a r world).1.map .subscribed <+: after) : t.Kept behave := by
  constructor
  · rw [hcallbacks, hlog, h.callbacks, subscriptions_append]
  · intro before c a after heq
    rw [hlog, List.append_eq_append_iff] at heq
    rcases heq with ⟨rest, rfl, hrest⟩ | ⟨rest, hold, hrest⟩
    · exact hmore rest c a after hrest
    · cases rest with
      | nil =>
        obtain ⟨r, world, hr, hfollow⟩ := hmore [] c a after hrest.symm
        refine ⟨r, world, ?_, hfollow⟩
        rw [hr, hold, List.append_nil, List.append_nil]
      | cons x rest =>
        obtain ⟨rfl, rfl⟩ := List.cons_eq_cons.mp hrest
        obtain ⟨r, world, hr, hfollow⟩ := h.followed before c a rest hold
        exact ⟨r, world, hr, hfollow.trans (List.prefix_append _ _)⟩

/-- Beside calls there is nothing that others follow. -/
theorem Kept.step {s t : Fanout κ α σ} (h : s.Kept behave) {x : Happening κ α}
    (hx : x.call? = none) (hlog : t.log = s.log ++ [x])
    (hcallbacks : t.registry.callbacks = s.registry.callbacks ++ subscriptions [x]) :
    t.Kept behave := by
  apply h.extend hlog hcallbacks
  intro before c a after heq
  have hmem : Happening.called c a ∈ [x] := by simp [heq]
  rw [← List.mem_singleton.mp hmem] at hx
  cases hx

theorem Kept.note {s : Fanout κ α σ} (h : s.Kept behave) {x : Happening κ α}
    (hcall : x.call? = none) (hsub : x.subscription? = none) : (s.note x).Kept behave :=
  h.step hcall rfl (by simp [Fanout.note, subscriptions, hsub])

theorem Kept.subscribe {s : Fanout κ α σ} (h : s.Kept behave) (c : κ) :
    (s.subscribe c).Kept behave :=
  h.step (x := .subscribed c) rfl rfl rfl

theorem Kept.call {s : Fanout κ α σ} (h : s.Kept behave) (a : α) (c : κ) :
    (s.call behave a c).Kept behave := by
  have hheard := heard_call behave a s c
  apply h.extend hheard.log (congrArg Registry.callbacks hheard.registry)
  intro before d b after heq
  cases before with
  | nil =>
    obtain ⟨hcalled, rfl⟩ := List.cons_eq_cons.mp heq
    cases hcalled
    refine ⟨s.registry, s.world, ?_, List.prefix_rfl⟩
    rw [List.append_nil, h.callbacks]
  | cons x before =>
    have hmem : Happening.called d b ∈
        (behave c a s.registry s.world).1.map (Happening.subscribed (α := α)) := by
      simp [(List.cons_eq_cons.mp heq).2]
    obtain ⟨e, -, he⟩ := List.mem_map.mp hmem
    cases he

theorem Kept.callAll {s : Fanout κ α σ} (h : s.Kept behave) (a : α) (cs : List κ) :
    (cs.foldl (Fanout.call behave a) s).Kept behave := by
  induction cs generalizing s with
  | nil => exact h
  | cons c cs ih => exact ih (h.call a c)

theorem Kept.publish [Payload α] {s : Fanout κ α σ} (h : s.Kept behave) (payload : Bytes) :
    (s.publish behave payload).Kept behave := by
  have hdecoded : (s.note (.decoded payload)).Kept behave := h.note rfl rfl
  unfold Fanout.publish
  dsimp only
  split_ifs
  · exact h.note rfl rfl
  · cases (Payload.decode payload : Except CodecError α) with
    | error e => exact hdecoded.note rfl rfl
    | ok a => exact hdecoded.callAll a _

structure Published [Payload α] (payload : Bytes) (s t : Fanout κ α σ) : Prop where
  unheard : subscriptions s.log = [] →
    t = { s with log := s.log ++
      [.reported ⟨.warn, "No listener for: " ++ s.registry.event⟩] }
  malformed : subscriptions s.log ≠ [] → ∀ e : CodecError,
    (Payload.decode payload : Except CodecError α) = .error e →
      t = { s with log := s.log ++ [.decoded payload, .reported
        ⟨.error, "failed to decode " ++ s.registry.event ++ ": " ++ e.message⟩] }
  heard : subscriptions s.log ≠ [] → ∀ a : α, Payload.decode payload = .ok a →
    ∃ more, Heard (subscriptions s.log) a (s.note (.decoded payload)) t more

theorem published_publish [Payload α] {s : Fanout κ α σ} (h : s.Kept behave)
    (payload : Bytes) :
    Published payload s (s.publish behave payload) := by
  constructor
  · intro hnone
    rw [← h.callbacks] at hnone
    simp [publish, hnone, note]
  · intro hsome e he
    rw [← h.callbacks] at hsome
    simp [publish, hsome, he, note]
  · intro hsome a ha
    obtain ⟨more, hmore⟩ := heard_callAll behave a s.registry.callbacks (s.note (.decoded payload))
    refine ⟨more, ?_⟩
    rw [← h.callbacks] at hsome ⊢
    simpa [publish, hsome, ha] using hmore

end Fanout

inductive Operation (κ : Type)
  | subscribe (c : κ)
  | publish (payload : Bytes)
  | handle (payload : Bytes)

namespace Fanout

variable {κ α σ : Type} [Payload α]

def perform (behave : Behaviour κ α σ) (s : Fanout κ α σ) : Operation κ → Fanout κ α σ
  | .subscribe c => s.subscribe c
  | .publish payload => s.publish behave payload
  | .handle payload => handler behave payload s

def run (behave : Behaviour κ α σ) (event : String) (world : σ) (ops : List (Operation κ)) :
    Fanout κ α σ :=
  ops.foldl (perform behave) (fresh event world)

def Performed (s t : Fanout κ α σ) : Operation κ → Prop
  | .subscribe c =>
    t = ⟨⟨s.registry.event, s.registry.callbacks ++ [c]⟩, s.world, s.log ++ [.subscribed c]⟩
  | .publish payload | .handle payload => Published payload s t

theorem Kept.perform {behave : Behaviour κ α σ} {s : Fanout κ α σ} (h : s.Kept behave)
    (op : Operation κ) : (s.perform behave op).Kept behave := by
  cases op with
  | subscribe c => exact h.subscribe c
  | publish payload => exact h.publish payload
  | handle payload => exact h.publish payload

theorem kept_run (behave : Behaviour κ α σ) (event : String) (world : σ)
    (ops : List (Operation κ)) : (run behave event world ops).Kept behave := by
  induction ops using List.reverseRecOn with
  | nil => exact kept_fresh event world
  | append_singleton ops op ih =>
    rw [run, List.foldl_concat]
    exact ih.perform op

/-- However subscriptions and payloads follow each other, and whatever callbacks subscribe:
the registry holds all that have subscribed so far, in their order and with their number,
and a payload is for those that have subscribed before it. -/
theorem registry_run (behave : Behaviour κ α σ) (event : String) (world : σ)
    (ops : List (Operation κ)) (op : Operation κ) :
    let s := run behave event world ops
    s.registry.callbacks = subscriptions s.log ∧
      s.registry.size = (subscriptions s.log).length ∧
      Followed behave s.log ∧
      Performed s (run behave event world (ops ++ [op])) op := by
  intro s
  have hkept : s.Kept behave := kept_run behave event world ops
  refine ⟨hkept.callbacks, congrArg List.length hkept.callbacks, hkept.followed, ?_⟩
  rw [run, List.foldl_concat]
  cases op with
  | subscribe c => rfl
  | publish payload => exact published_publish hkept payload
  | handle payload => exact published_publish hkept payload

-- The first callback subscribes another whenever it is called.
example :
    let s : Fanout (Callback Unit String) Unit Unit := run Callback.behave "tick" ()
      [.publish [], .subscribe (.mk "a" fun _ => [.plain "b"]), .publish [], .handle []]
    (calls s.log).map (·.1.tag) = ["a", "a", "b"] ∧ s.registry.size = 3 := by
  decide

end Fanout

/-! ## Callbacks without a world -/

namespace Subscribers
open Fanout

variable {α τ : Type}

theorem seen_eq (log : List (Happening (Callback α τ) α)) :
    log.filterMap seen? = (calls log).map fun x => (x.1.tag, x.2) := by
  rw [calls, List.map_filterMap]
  congr
  funext x
  cases x <;> rfl

theorem registry_callAll (a : α) (cs : List (Callback α τ))
    (s : Fanout (Callback α τ) α Unit) :
    (cs.foldl (call Callback.behave a) s).registry =
      ⟨s.registry.event, s.registry.callbacks ++ cs.flatMap (·.adds a)⟩ := by
  induction cs generalizing s with
  | nil => simp
  | cons c cs ih =>
    rw [List.foldl_cons, ih, call, (heard_subscribeAll _ a _).registry]
    simp [note, Callback.behave]

/-- Callbacks without a world subscribe the same others however many there are. -/
theorem publish_of_ok [Payload α] {s : Subscribers α τ} {payload : Bytes} {a : α}
    (hsome : s.callbacks ≠ []) (ha : Payload.decode payload = .ok a) :
    publish s payload =
      (⟨s.event, s.callbacks ++ s.callbacks.flatMap (·.adds a)⟩,
        s.callbacks.map fun c => (c.tag, a), []) := by
  obtain ⟨more, hmore⟩ := heard_callAll Callback.behave a s.callbacks
    ((Fanout.mk s () []).note (.decoded payload))
  have htraces : more.filterMap trace? = [] := by
    rw [List.filterMap_eq_nil_iff]
    intro x hx
    have hquiet := hmore.quiet x hx
    cases x <;> first | rfl | simp [subscription?, call?] at hquiet
  have hcalls : more.filterMap seen? = s.callbacks.map fun c => (c.tag, a) := by
    rw [seen_eq, hmore.calls, List.map_map]
    rfl
  have hlog := hmore.log
  have hregistry := registry_callAll a s.callbacks
    ((Fanout.mk s () []).note (.decoded payload))
  simp only [publish, Fanout.publish, List.isEmpty_iff, hsome, ha, if_false]
  rw [hlog, hregistry, List.filterMap_append, hcalls, List.filterMap_append, htraces]
  rfl

end Subscribers

end Callwire
