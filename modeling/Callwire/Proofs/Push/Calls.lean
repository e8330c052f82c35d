import Callwire.Proofs.Client.Events
import Callwire.Proofs.Push.Registrations
import Callwire.Proofs.Push.Subscriptions
import Callwire.Proofs.Session.Outcomes

/-!
# Calls of callbacks

Which callbacks a push calls, and with what, told from the registrations. Listeners run
in the order in which they were registered, and a subscriber runs its callbacks where it
was attached. Others may register while the listeners run: nobody is left out for that.
-/

set_option autoImplicit false

namespace Callwire

namespace Sample
open Ticker

variable {τ : Type}

def Ticker.Event.heard (e : Event) (payload : Bytes) (tags : List τ) : List (τ × Seen) :=
  match e.decode payload with
  | .ok v => tags.map (·, .value v)
  | .error _ => []

theorem Ticker.Event.heard_append (e : Event) (payload : Bytes) (tags more : List τ) :
    e.heard payload (tags ++ more) = e.heard payload tags ++ e.heard payload more := by
  unfold heard
  cases e.decode payload with
  | error f => rfl
  | ok v => exact List.map_append

theorem Ticker.Event.heard_nil (e : Event) (payload : Bytes) :
    e.heard payload ([] : List τ) = [] := by
  unfold heard
  cases e.decode payload <;> rfl

namespace Subscriber

theorem events_effects {α : Type} (wrap : α → Value) (seen : List (τ × α)) (traces : List Trace) :
    events (effects wrap seen traces) = seen.map fun x => (x.1, .value (wrap x.2)) := by
  have htraces : events (traces.map (Effect.trace (ε := τ × Seen))) = [] := by
    induction traces with
    | nil => rfl
    | cons t traces ih => exact ih
  rw [effects, events_append, htraces, List.append_nil]
  induction seen with
  | nil => rfl
  | cons x seen ih => exact congrArg _ ih

/-- Callbacks that subscribe no others stay as they are. -/
theorem publish_plain {α : Type} [Payload α] (wrap : α → Value) (event : String) (tags : List τ)
    (payload : Bytes) :
    let r := Subscribers.publish (⟨event, tags.map .plain⟩ : Subscribers α τ) payload
    r.1 = ⟨event, tags.map .plain⟩ ∧ events (effects wrap r.2.1 r.2.2) =
      match (Payload.decode payload).map wrap with
      | .ok v => tags.map (·, .value v)
      | .error _ => [] := by
  intro r
  cases tags with
  | nil =>
    refine ⟨rfl, ?_⟩
    rw [events_effects]
    cases (Payload.decode payload : Except CodecError α) <;> rfl
  | cons tag tags =>
    have hsome : (tag :: tags).map (Callback.plain (α := α)) ≠ [] := by simp
    rw [events_effects]
    cases hd : (Payload.decode payload : Except CodecError α) with
    | error e =>
      simp only [r, Subscribers.publish, Fanout.publish, List.isEmpty_iff, hsome, hd, if_false]
      exact ⟨rfl, rfl⟩
    | ok a =>
      have hadds : ((tag :: tags).map (Callback.plain (α := α))).flatMap (·.adds a) = [] := by
        simp [List.flatMap_map, Callback.plain, Callback.adds]
      have hr := Subscribers.publish_of_ok (s := ⟨event, (tag :: tags).map .plain⟩) hsome hd
      rw [hadds, List.append_nil] at hr
      simp only [r, hr, true_and]
      simp [Callback.plain, Callback.tag, Except.map]

theorem publish_ofTags (tags : Event → List τ) (e : Event) (payload : Bytes) :
    ((ofTags tags).publish e payload).1 = ofTags tags ∧
      events ((ofTags tags).publish e payload).2 = e.heard payload (tags e) := by
  cases e with
  | tick =>
    obtain ⟨hsame, hheard⟩ := publish_plain (fun _ : Unit => .tick) _ (tags .tick) payload
    exact ⟨congrArg (fun x => { ofTags tags with tick := x }) hsame, hheard⟩
  | price =>
    obtain ⟨hsame, hheard⟩ := publish_plain .price _ (tags .price) payload
    exact ⟨congrArg (fun x => { ofTags tags with price := x }) hsame, hheard⟩
  | blob =>
    obtain ⟨hsame, hheard⟩ := publish_plain .blob _ (tags .blob) payload
    exact ⟨congrArg (fun x => { ofTags tags with blob := x }) hsame, hheard⟩
  | alarm =>
    obtain ⟨hsame, hheard⟩ := publish_plain .alarm _ (tags .alarm) payload
    exact ⟨congrArg (fun x => { ofTags tags with alarm := x }) hsame, hheard⟩
  | picky =>
    obtain ⟨hsame, hheard⟩ := publish_plain .picky _ (tags .picky) payload
    exact ⟨congrArg (fun x => { ofTags tags with picky := x }) hsame, hheard⟩

end Subscriber

namespace Listener

def calls (rs : List (Registration τ)) (payload : Bytes) : Listener τ → List (τ × Seen)
  | plain tag _ => [(tag, .bytes payload)]
  | subscriber index e => e.heard payload (Registrations.tags rs index e)

def Calm : Listener τ → Prop
  | plain _ panics => panics = false
  | subscriber _ _ => True

theorem calls_sublist (rs more : List (Registration τ)) (payload : Bytes) (l : Listener τ) :
    (l.calls rs payload).Sublist (l.calls (rs ++ more) payload) := by
  cases l with
  | plain tag panics => exact List.Sublist.refl _
  | subscriber index e =>
    rw [calls, calls, Registrations.tags_append, Event.heard_append]
    exact List.sublist_append_left _ _

end Listener

namespace Registrations

theorem calm_listeners {rs : List (Registration τ)} {name : String} {l : Listener τ}
    (h : l ∈ listeners rs name) : l.Calm := by
  obtain ⟨r, -, hr⟩ := List.mem_flatMap.mp h
  cases r with
  | listen n tag =>
    simp only [Registration.listeners] at hr
    split_ifs at hr
    · rw [List.mem_singleton.mp hr]
      rfl
    · cases hr
  | attach index =>
    obtain ⟨e, -, rfl⟩ := List.mem_map.mp hr
    trivial
  | subscribe index e tag => cases hr

/-- A listener that does not panic leaves the hub as it was. -/
theorem run_listener {rs : List (Registration τ)} (h : orderly 0 rs = true) (payload : Bytes)
    {l : Listener τ} (hl : l.Calm) :
    (Hub.run payload [l] (hub rs)).hub = hub rs ∧
      (Hub.run payload [l] (hub rs)).panicked = false ∧
      events (Hub.run payload [l] (hub rs)).effects = l.calls rs payload := by
  cases l with
  | plain tag panics =>
    cases hl
    exact ⟨rfl, rfl, rfl⟩
  | subscriber index e =>
    simp only [Hub.run, Listener.calls]
    cases hs : (hub rs).subscribers[index]? with
    | none =>
      rw [List.getElem?_eq_none_iff, subscribers_hub h, List.length_map, List.length_range] at hs
      rw [tags_of_le h hs, Event.heard_nil]
      exact ⟨rfl, rfl, rfl⟩
    | some s =>
      obtain ⟨hlt, hget⟩ := List.getElem?_eq_some_iff.mp hs
      have hs' : s = .ofTags (tags rs index) := by
        rw [← hget]
        simp only [subscribers_hub h, List.getElem_map, List.getElem_range]
      obtain ⟨hsame, hheard⟩ := Subscriber.publish_ofTags (tags rs index) e payload
      have hset : (hub rs).subscribers.set index s = (hub rs).subscribers := by
        rw [← hget]
        exact List.set_getElem_self _
      rw [hs'] at hset ⊢
      simp only [hsame, hset, List.append_nil]
      exact ⟨trivial, trivial, hheard⟩

end Registrations

/-! ## Callbacks and registrations -/

namespace Registration

def isWith (index : Nat) : Registration τ → Bool
  | subscribe i _ _ => i == index
  | listen _ _ | attach _ => false

def due (p : Push) : Registration τ → List (τ × Seen)
  | listen name tag => if name = p.name then [(tag, .bytes p.payload)] else []
  | attach _ => []
  | subscribe _ e tag => if e.name = p.name then e.heard p.payload [tag] else []

def calls (rs : List (Registration τ)) (p : Push) : Registration τ → List (τ × Seen)
  | listen name tag => due p (.listen name tag)
  | attach index => (rs.filter (isWith index)).flatMap (due p)
  | subscribe _ _ _ => []

end Registration

namespace Registrations
open Registration

def called (rs : List (Registration τ)) (p : Push) : List (τ × Seen) := rs.flatMap (calls rs p)

theorem heard_tags (rs : List (Registration τ)) (index : Nat) {e : Event} {p : Push}
    (he : e.name = p.name) :
    e.heard p.payload (tags rs index e) = (rs.filter (isWith index)).flatMap (due p) := by
  induction rs with
  | nil => exact e.heard_nil p.payload
  | cons r rs ih =>
    have hsplit : tags (r :: rs) index e = (r.tag? index e).toList ++ tags rs index e := by
      cases h : r.tag? index e <;> simp [tags, h]
    rw [hsplit, Event.heard_append, ih]
    cases r with
    | listen name tag => simp [Registration.tag?, isWith, Event.heard_nil]
    | attach i => simp [Registration.tag?, isWith, Event.heard_nil]
    | subscribe i f tag =>
      by_cases hi : i = index
      · have hname : f.name = p.name ↔ f = e := by
          rw [← he]
          exact ⟨fun h => Event.name_injective h, fun h => by rw [h]⟩
        by_cases hf : f = e
        · simp [Registration.tag?, isWith, due, hi, hf, he]
        · simp [Registration.tag?, isWith, due, hi, hf, hname, Event.heard_nil]
      · simp [Registration.tag?, isWith, hi, Event.heard_nil]

theorem calls_listeners (rs : List (Registration τ)) (p : Push) (r : Registration τ) :
    (r.listeners p.name).flatMap (Listener.calls rs p.payload) = r.calls rs p := by
  cases r with
  | listen name tag =>
    simp only [Registration.listeners, calls, due]
    split_ifs <;> rfl
  | attach index =>
    simp only [Registration.listeners, calls]
    by_cases hname : ∃ e : Event, e.name = p.name
    · obtain ⟨e, he⟩ := hname
      rw [← he, Event.filter_name, List.map_singleton, List.flatMap_singleton]
      exact heard_tags rs index he
    · rw [Event.filter_other fun e he => hname ⟨e, he⟩]
      symm
      rw [List.map_nil, List.flatMap_nil, List.flatMap_eq_nil_iff]
      intro x hx
      cases x with
      | listen name tag => simp [isWith] at hx
      | attach i => rfl
      | subscribe i e tag => exact if_neg fun he => hname ⟨e, he⟩
  | subscribe index e tag => rfl

/-- The listeners of an event make the calls of a push. -/
theorem called_eq (rs more : List (Registration τ)) (p : Push) :
    (listeners rs p.name).flatMap (Listener.calls more p.payload) = rs.flatMap (calls more p) := by
  rw [listeners, List.flatMap_assoc]
  exact List.flatMap_congr fun r _ => calls_listeners more p r

def added (p : Push) (r : Registration τ) : Registration τ → List (τ × Seen)
  | .attach index => calls [r] p (.attach index)
  | .listen _ _ | .subscribe _ _ _ => []

theorem calls_concat (rs : List (Registration τ)) (p : Push) (r x : Registration τ) :
    calls (rs ++ [r]) p x = calls rs p x ++ added p r x := by
  cases x with
  | listen name tag => exact (List.append_nil _).symm
  | attach index => simp only [calls, added, List.filter_append, List.flatMap_append]
  | subscribe index e tag => rfl

/-- A subscriber that is there was attached once. -/
theorem flatMap_added {rs : List (Registration τ)} (h : orderly 0 rs = true) (p : Push)
    (index : Nat) (e : Event) (tag : τ) :
    rs.flatMap (added p (.subscribe index e tag)) =
      if index < attached rs then due p (.subscribe index e tag) else [] := by
  induction rs using List.reverseRecOn with
  | nil => rfl
  | append_singleton rs r ih =>
    obtain ⟨hrs, hr⟩ := orderly_concat h
    rw [List.flatMap_append, List.flatMap_singleton, ih hrs, attached_concat]
    cases r with
    | listen name tag => simp [isAttach, added]
    | attach i =>
      have hi : i = attached rs := by simpa [fits] using hr
      rcases Nat.lt_trichotomy index (attached rs) with hlt | heq | hgt
      · simp [isAttach, added, calls, isWith, hi, hlt, Nat.ne_of_lt hlt, Nat.lt_succ_of_lt hlt]
      · simp [isAttach, added, calls, isWith, hi, heq]
      · have hle : ¬ index < attached rs + 1 := by omega
        simp [isAttach, added, calls, isWith, hi, Nat.lt_asymm hgt, Nat.ne_of_gt hgt, hle]
    | subscribe i e tag => simp [isAttach, added]

theorem calls_of_le {rs : List (Registration τ)} (h : orderly 0 rs = true) {index : Nat}
    (hle : attached rs ≤ index) (p : Push) : calls rs p (.attach index) = [] := by
  induction rs using List.reverseRecOn with
  | nil => rfl
  | append_singleton rs r ih =>
    obtain ⟨hrs, hr⟩ := orderly_concat h
    rw [attached_concat] at hle
    rw [calls_concat, ih hrs (by omega)]
    cases r with
    | listen name tag => rfl
    | attach i => rfl
    | subscribe i e tag =>
      have hne : i ≠ index := by
        simp only [fits, decide_eq_true_eq] at hr
        omega
      simp [added, calls, isWith, hne]

/-- A new callback is called where it stands, or where its subscriber was attached. -/
theorem added_once {rs : List (Registration τ)} {r : Registration τ}
    (h : orderly 0 (rs ++ [r]) = true) (p : Push) :
    rs.flatMap (added p r) ++ calls (rs ++ [r]) p r = due p r := by
  obtain ⟨hrs, hr⟩ := orderly_concat h
  have hnone (hr : ∀ index, calls [r] p (.attach index) = []) : rs.flatMap (added p r) = [] := by
    rw [List.flatMap_eq_nil_iff]
    intro x _
    cases x with
    | attach index => exact hr index
    | listen name tag => rfl
    | subscribe index e tag => rfl
  cases r with
  | listen name tag =>
    rw [hnone fun _ => rfl]
    rfl
  | attach i =>
    have hi : i = attached rs := by simpa [fits] using hr
    rw [hnone fun _ => rfl, calls_concat, hi, calls_of_le hrs le_rfl]
    rfl
  | subscribe i e tag =>
    have hi : i < attached rs := by simpa [fits] using hr
    rw [flatMap_added hrs, if_pos hi]
    exact List.append_nil _

open scoped List in
/-- Every callback is called once, whatever the order. -/
theorem called_perm {rs : List (Registration τ)} (h : orderly 0 rs = true) (p : Push) :
    (called rs p).Perm (rs.flatMap (due p)) := by
  induction rs using List.reverseRecOn with
  | nil => exact List.Perm.refl _
  | append_singleton rs r ih =>
    have hsplit : rs.flatMap (calls (rs ++ [r]) p) ~ called rs p ++ rs.flatMap (added p r) := by
      rw [funext (calls_concat rs p r)]
      exact (List.flatMap_append_perm rs _ _).symm
    rw [called, List.flatMap_append, List.flatMap_append, List.flatMap_singleton,
      List.flatMap_singleton]
    calc rs.flatMap (calls (rs ++ [r]) p) ++ calls (rs ++ [r]) p r
      _ ~ called rs p ++ rs.flatMap (added p r) ++ calls (rs ++ [r]) p r := hsplit.append_right _
      _ = called rs p ++ due p r := by rw [List.append_assoc, added_once h]
      _ ~ rs.flatMap (due p) ++ due p r := (ih (orderly_concat h).1).append_right _

theorem called_sublist (rs more : List (Registration τ)) (p : Push) :
    (rs.flatMap (calls (rs ++ more) p)).Sublist (called (rs ++ more) p) := by
  rw [called, List.flatMap_append]
  exact List.sublist_append_left _ _

end Registrations

end Sample

end Callwire
