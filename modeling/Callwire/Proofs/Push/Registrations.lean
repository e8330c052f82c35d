import Callwire.Sample.Hub
import Mathlib.Tactic

/-!
# Registrations

Callbacks are registered one after the other: for the bytes of an event, or with a
subscriber, whose own listeners were registered when it was attached. What a hub holds
is a function of its registrations.
-/

set_option autoImplicit false

namespace Callwire.Sample

namespace Ticker

def Value.event : Value → Event
  | tick => .tick
  | price _ => .price
  | blob _ => .blob
  | alarm _ => .alarm
  | picky _ => .picky

def Value.encode : Value → Except CodecError Bytes
  | tick => Payload.encode ()
  | price p => Payload.encode p
  | blob r => Payload.encode r
  | alarm f => Payload.encode f
  | picky p => Payload.encode p

def Event.decode (payload : Bytes) : Event → Except CodecError Value
  | tick => (Payload.decode (α := Unit) payload).map fun _ => .tick
  | price => (Payload.decode payload).map .price
  | blob => (Payload.decode payload).map .blob
  | alarm => (Payload.decode payload).map .alarm
  | picky => (Payload.decode payload).map .picky

theorem Event.name_injective : Function.Injective Event.name := by
  intro e f h
  cases e <;> cases f <;> first | rfl | exact absurd h (by decide)

theorem Event.filter_name (e : Event) : Event.all.filter (·.name == e.name) = [e] := by
  cases e <;> rfl

theorem Event.filter_other {name : String} (h : ∀ e : Event, e.name ≠ name) :
    Event.all.filter (·.name == name) = [] := by
  rw [List.filter_eq_nil_iff]
  intro e _
  simpa using h e

end Ticker

open Ticker

inductive Registration (τ : Type)
  | listen (name : String) (tag : τ)
  | attach (index : Nat)
  | subscribe (index : Nat) (event : Event) (tag : τ)
  deriving DecidableEq

namespace Registration

variable {τ : Type}

def apply (h : Hub τ) : Registration τ → Hub τ
  | listen name tag => h.listen name tag false
  | attach _ => h.attach
  | subscribe index e tag =>
    { h with subscribers := h.subscribers.modify index (·.subscribe e tag) }

def isAttach : Registration τ → Bool
  | attach _ => true
  | listen _ _ | subscribe _ _ _ => false

def fits (n : Nat) : Registration τ → Bool
  | listen _ _ => true
  | attach index => index == n
  | subscribe index _ _ => decide (index < n)

def tag? (index : Nat) (e : Event) : Registration τ → Option τ
  | subscribe i f tag => if i = index ∧ f = e then some tag else none
  | listen _ _ | attach _ => none

def listeners (name : String) : Registration τ → List (Listener τ)
  | listen n tag => if n = name then [.plain tag false] else []
  | attach index => (Event.all.filter (·.name == name)).map (.subscriber index)
  | subscribe _ _ _ => []

end Registration

def Hub.register {τ : Type} (h : Hub τ) (rs : List (Registration τ)) : Hub τ :=
  rs.foldl Registration.apply h

def Subscriber.ofTags {τ : Type} (tags : Event → List τ) : Subscriber τ :=
  ⟨⟨Event.tick.name, (tags .tick).map .plain⟩, ⟨Event.price.name, (tags .price).map .plain⟩,
    ⟨Event.blob.name, (tags .blob).map .plain⟩, ⟨Event.alarm.name, (tags .alarm).map .plain⟩,
    ⟨Event.picky.name, (tags .picky).map .plain⟩⟩

theorem Subscriber.subscribe_ofTags {τ : Type} (tags : Event → List τ) (e : Event) (tag : τ) :
    (ofTags tags).subscribe e tag =
      ofTags fun f => tags f ++ if e = f then [tag] else [] := by
  cases e <;>
    simp only [ofTags, subscribe, Registry.subscribe, List.map_append, List.map_singleton,
      if_true, reduceCtorEq, if_false, List.append_nil]

namespace Registrations

variable {τ : Type}

def hub (rs : List (Registration τ)) : Hub τ := Hub.empty.register rs

def attached (rs : List (Registration τ)) : Nat := rs.countP Registration.isAttach

def orderly (n : Nat) : List (Registration τ) → Bool
  | [] => true
  | r :: rs => r.fits n && orderly (n + if r.isAttach then 1 else 0) rs

def tags (rs : List (Registration τ)) (index : Nat) (e : Event) : List τ :=
  rs.filterMap (Registration.tag? index e)

def listeners (rs : List (Registration τ)) (name : String) : List (Listener τ) :=
  rs.flatMap (Registration.listeners name)

theorem orderly_append (n : Nat) (rs more : List (Registration τ)) :
    orderly n (rs ++ more) = (orderly n rs && orderly (n + attached rs) more) := by
  induction rs generalizing n with
  | nil => rfl
  | cons r rs ih =>
    have hcount : n + (if r.isAttach then 1 else 0) + attached rs = n + attached (r :: rs) := by
      simp only [attached, List.countP_cons]
      omega
    rw [List.cons_append, orderly, ih, hcount, orderly, Bool.and_assoc]

theorem orderly_concat {rs : List (Registration τ)} {r : Registration τ}
    (h : orderly 0 (rs ++ [r]) = true) : orderly 0 rs = true ∧ r.fits (attached rs) = true := by
  rw [orderly_append, Bool.and_eq_true, Nat.zero_add, orderly, Bool.and_eq_true] at h
  exact ⟨h.1, h.2.1⟩

theorem orderly_of_front {rs more : List (Registration τ)} (h : orderly 0 more = true)
    (hp : rs <+: more) : orderly 0 rs = true := by
  obtain ⟨rest, rfl⟩ := hp
  rw [orderly_append, Bool.and_eq_true] at h
  exact h.1

theorem hub_append (rs more : List (Registration τ)) :
    hub (rs ++ more) = (hub rs).register more :=
  List.foldl_append

theorem tags_append (rs more : List (Registration τ)) (index : Nat) (e : Event) :
    tags (rs ++ more) index e = tags rs index e ++ tags more index e :=
  List.filterMap_append

theorem tags_concat (rs : List (Registration τ)) (r : Registration τ) (index : Nat) (e : Event) :
    tags (rs ++ [r]) index e = tags rs index e ++ (r.tag? index e).toList := by
  rw [tags_append]
  cases h : r.tag? index e <;> simp [tags, h]

theorem tags_concat_of_none {rs : List (Registration τ)} {r : Registration τ}
    (h : ∀ index e, r.tag? index e = none) (index : Nat) :
    tags (rs ++ [r]) index = tags rs index := by
  funext e
  rw [tags_concat, h, Option.toList_none, List.append_nil]

theorem attached_concat (rs : List (Registration τ)) (r : Registration τ) :
    attached (rs ++ [r]) = attached rs + if r.isAttach then 1 else 0 := by
  rw [attached, List.countP_append, List.countP_singleton]
  rfl

/-- A subscriber that is not there yet has no callbacks. -/
theorem tags_of_le {rs : List (Registration τ)} (h : orderly 0 rs = true) {index : Nat}
    (hle : attached rs ≤ index) (e : Event) : tags rs index e = [] := by
  induction rs using List.reverseRecOn with
  | nil => rfl
  | append_singleton rs r ih =>
    obtain ⟨hrs, hr⟩ := orderly_concat h
    rw [attached_concat] at hle
    rw [tags_concat, ih hrs (by omega)]
    cases r with
    | listen name tag => rfl
    | attach i => rfl
    | subscribe i f tag =>
      have hne : i ≠ index := by
        simp only [Registration.fits, decide_eq_true_eq] at hr
        omega
      simp [Registration.tag?, hne]

theorem subscribers_hub {rs : List (Registration τ)} (h : orderly 0 rs = true) :
    (hub rs).subscribers = (List.range (attached rs)).map fun k => .ofTags (tags rs k) := by
  induction rs using List.reverseRecOn with
  | nil => rfl
  | append_singleton rs r ih =>
    obtain ⟨hrs, hr⟩ := orderly_concat h
    have hold := ih hrs
    rw [hub_append, attached_concat, Hub.register, List.foldl_cons, List.foldl_nil]
    cases r with
    | listen name tag =>
      simp only [tags_concat_of_none (r := .listen name tag) fun _ _ => rfl]
      exact hold
    | attach i =>
      have hfresh : tags rs (attached rs) = fun _ => [] := by
        funext e
        exact tags_of_le hrs le_rfl e
      show (hub rs).subscribers ++ [Subscriber.fresh] =
        (List.range (attached rs + 1)).map fun k => .ofTags (tags (rs ++ [.attach i]) k)
      simp only [tags_concat_of_none (r := .attach i) fun _ _ => rfl, List.range_succ,
        List.map_append, List.map_singleton, hfresh, hold]
      rfl
    | subscribe i f tag =>
      show (hub rs).subscribers.modify i (·.subscribe f tag) = _
      rw [hold]
      apply List.ext_getElem?
      intro k
      rw [List.getElem?_modify, List.getElem?_map, List.getElem?_map]
      show _ = ((List.range (attached rs))[k]?).map _
      cases hk : (List.range (attached rs))[k]? with
      | none => rfl
      | some j =>
        obtain ⟨-, rfl⟩ := List.getElem?_eq_some_iff.mp hk
        rw [List.getElem_range]
        rw [Option.map_some, Option.map_some]
        have htags : tags (rs ++ [.subscribe i f tag]) k =
            fun e => tags rs k e ++ if i = k ∧ f = e then [tag] else [] := by
          funext e
          rw [tags_concat]
          simp only [Registration.tag?]
          split_ifs <;> rfl
        rw [htags]
        by_cases hik : i = k
        · simp only [hik, true_and, if_true]
          exact congrArg some (Subscriber.subscribe_ofTags _ _ _)
        · simp [hik]

/-- To attach a subscriber registers a listener of its own for every event. -/
theorem of_attach (h : Hub τ) (name : String) :
    h.attach.listeners.of name = h.listeners.of name ++
      (Event.all.filter (·.name == name)).map (.subscriber h.subscribers.length) := by
  have hfold : ∀ (es : List Event) (l : Listeners (Listener τ)),
      (es.foldl (fun l e => l.register e.name (.subscriber h.subscribers.length e)) l).of name =
        l.of name ++ (es.filter (·.name == name)).map (.subscriber h.subscribers.length) := by
    intro es
    induction es with
    | nil => simp
    | cons e es ih =>
      intro l
      rw [List.foldl_cons, ih, Listeners.of_register]
      by_cases he : e.name = name <;> simp [he]
  exact hfold Event.all h.listeners

theorem of_hub {rs : List (Registration τ)} (h : orderly 0 rs = true) (name : String) :
    (hub rs).listeners.of name = listeners rs name := by
  induction rs using List.reverseRecOn with
  | nil => rfl
  | append_singleton rs r ih =>
    obtain ⟨hrs, hr⟩ := orderly_concat h
    have hold := ih hrs
    rw [hub_append, Hub.register, List.foldl_cons, List.foldl_nil, listeners,
      List.flatMap_append, List.flatMap_singleton]
    change _ = listeners rs name ++ _
    cases r with
    | listen n tag =>
      show ((hub rs).listeners.register n (.plain tag false)).of name = _
      rw [Listeners.of_register, hold]
      by_cases hn : n = name <;> simp [Registration.listeners, hn]
    | attach i =>
      have hi : i = attached rs := by simpa [Registration.fits] using hr
      show (hub rs).attach.listeners.of name = _
      rw [of_attach, hold, subscribers_hub hrs, List.length_map, List.length_range, hi]
      rfl
    | subscribe i f tag =>
      show (hub rs).listeners.of name = _
      rw [hold]
      exact (List.append_nil _).symm

end Registrations

end Callwire.Sample
