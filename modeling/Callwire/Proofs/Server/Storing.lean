import Callwire.Proofs.Keys
import Callwire.Server.Pointer
import Callwire.Simulation.World

/-!
# What is found in a store

A value is found under its key, and with its own type, from when it is set until another
is set under the key or it is taken. This holds whichever way the store is reached, and a
search with another type disturbs nothing.
-/

set_option autoImplicit false

namespace Callwire

variable {S T : Type} [Universe T]

/-! ## One use -/

namespace Values

def slot (v : Values T) (key : String) : Option (Stored T) := v.entries.lookup key

theorem lookup_without_self (key : String) (entries : List (String × Stored T)) :
    (without key entries).lookup key = none := by
  rw [List.lookup_eq_none_iff]
  intro e he
  simpa [bne_comm] using (List.mem_filter.mp he).2

theorem lookup_without_other {key other : String} (h : other ≠ key)
    (entries : List (String × Stored T)) :
    (without key entries).lookup other = entries.lookup other := by
  induction entries with
  | nil => rfl
  | cons e entries ih =>
    obtain ⟨k, s⟩ := e
    by_cases hk : k = key
    · subst hk
      have hother : (other == k) = false := beq_eq_false_iff_ne.mpr h
      rw [without, List.filter_cons_of_neg (by simp), List.lookup_cons, hother]
      exact ih
    · rw [without, List.filter_cons_of_pos (by simpa using hk), List.lookup_cons, List.lookup_cons]
      cases other == k with
      | true => rfl
      | false => exact ih

variable (v : Values T) (key : String) (code : T)

theorem slot_set_self (value : Universe.type code) :
    (v.set key code value).slot key = some ⟨code, value⟩ := by
  simp [slot, set, List.lookup_append, lookup_without_self]

theorem slot_set_other {other : String} (h : other ≠ key) (value : Universe.type code) :
    (v.set key code value).slot other = v.slot other := by
  have hother : (other == key) = false := beq_eq_false_iff_ne.mpr h
  simp [slot, set, List.lookup_append, lookup_without_other h, List.lookup_cons, hother]

variable [DecidableEq T]

theorem get_eq_some_iff {value : Universe.type code} :
    v.get key code = some value ↔ v.slot key = some ⟨code, value⟩ := by
  rw [get, slot]
  cases v.entries.lookup key with
  | none => simp
  | some s =>
    obtain ⟨c, x⟩ := s
    by_cases h : c = code
    · subst h
      simp
    · simp [h]

theorem take_of_some {value : Universe.type code} (h : v.get key code = some value) :
    v.take key code = (⟨without key v.entries⟩, some value) := by
  rw [take, h]

theorem take_of_none (h : v.get key code = none) : v.take key code = (v, none) := by
  rw [take, h]

theorem found_take : (v.take key code).2 = v.get key code := by
  cases h : v.get key code with
  | some value => rw [v.take_of_some key code h]
  | none => rw [v.take_of_none key code h]

end Values

/-! ## Ways to a store -/

/-- The values that are set are those that are there, and to set those that are there
changes nothing. -/
class LawfulCarrier (S : Type) {T : Type} [Universe T] [Carrier S T] : Prop where
  values_setValues : ∀ (s : S) (v : Values T), Carrier.values (Carrier.setValues s v) = v
  setValues_values : ∀ s : S, Carrier.setValues s (Carrier.values s) = s

open LawfulCarrier

instance : LawfulCarrier (Values T) := ⟨fun _ _ => rfl, fun _ => rfl⟩

instance : LawfulCarrier (Server T) := ⟨fun _ _ => rfl, fun _ => rfl⟩

instance : LawfulCarrier (RecordingSocket T) := ⟨fun _ _ => rfl, fun _ => rfl⟩

instance [Carrier S T] [LawfulCarrier S] : LawfulCarrier (Pointer S) :=
  ⟨fun p v => values_setValues p.target v, fun p => congrArg _ (setValues_values p.target)⟩

inductive Access
  | socket
  | store
  | pointer (a : Access)

namespace Access

def Handle (S T : Type) [Universe T] : Access → Type
  | socket => S
  | store => Values T
  | pointer a => Pointer (Handle S T a)

instance carrier [Carrier S T] : (a : Access) → Carrier (Handle S T a) T
  | socket => inferInstanceAs (Carrier S T)
  | store => inferInstanceAs (Carrier (Values T) T)
  | pointer a =>
    have := carrier a
    inferInstanceAs (Carrier (Pointer (Handle S T a)) T)

variable [Carrier S T]

def hold : (a : Access) → S → Handle S T a
  | socket, s => s
  | store, s => Carrier.values s
  | pointer a, s => ⟨a.hold s⟩

def release : (a : Access) → S → Handle S T a → S
  | socket, _, s => s
  | store, s, v => Carrier.setValues s v
  | pointer a, s, p => a.release s p.target

theorem values_hold (a : Access) (s : S) :
    Carrier.values (a.hold (T := T) s) = Carrier.values s := by
  induction a with
  | socket => rfl
  | store => rfl
  | pointer a ih => exact ih

theorem release_setValues (a : Access) (s : S) (v : Values T) :
    a.release s (Carrier.setValues (a.hold s) v) = Carrier.setValues s v := by
  induction a with
  | socket => rfl
  | store => rfl
  | pointer a ih => exact ih

variable (a : Access) (s : S) (key : String) (code : T)

def set (value : Universe.type code) : S :=
  a.release s (Carrier.set (a.hold s) key code value)

theorem set_eq (value : Universe.type code) :
    a.set s key code value = Carrier.set s key code value := by
  rw [set, Carrier.set, release_setValues, values_hold, Carrier.set]

variable [DecidableEq T]

def get : Option (Universe.type code) := Carrier.get (a.hold s) key code

def take : S × Option (Universe.type code) :=
  let (h, found) := Carrier.take (a.hold s) key code
  (a.release s h, found)

theorem get_eq : a.get s key code = Carrier.get s key code := by
  rw [get, Carrier.get, values_hold, Carrier.get]

theorem take_eq : a.take s key code = Carrier.take s key code := by
  simp only [take, Carrier.take, release_setValues, values_hold]

variable {a s key code}

theorem get_eq_some_iff {value : Universe.type code} : a.get s key code = some value ↔
    (Carrier.values s).slot key = some ⟨code, value⟩ := by
  rw [get_eq]
  exact (Carrier.values s).get_eq_some_iff key code

theorem take_of_some {value : Universe.type code} (h : a.get s key code = some value) :
    a.take s key code =
      (Carrier.setValues s ⟨Values.without key (Carrier.values s).entries⟩, some value) := by
  rw [get_eq] at h
  rw [take_eq, Carrier.take, Values.take_of_some _ key code h]

theorem take_of_none [LawfulCarrier S] (h : a.get s key code = none) :
    a.take s key code = (s, none) := by
  rw [get_eq] at h
  rw [take_eq, Carrier.take, Values.take_of_none _ key code h]
  exact congrArg (·, none) (setValues_values s)

theorem found_take : (a.take s key code).2 = a.get s key code := by
  rw [take_eq, get_eq]
  exact (Carrier.values s).found_take key code

end Access

/-! ## Runs -/

namespace Values

inductive Use (T : Type) [Universe T]
  | set (key : String) (code : T) (value : Universe.type code)
  | get (key : String) (code : T)
  | take (key : String) (code : T)

inductive Deed (T : Type) [Universe T]
  | set (key : String) (s : Stored T)
  | got (key : String) (code : T) (found : Option (Universe.type code))
  | took (key : String) (code : T) (found : Option (Universe.type code))

def Deed.Ends (key : String) : Deed T → Prop
  | set k _ => k = key
  | got _ _ _ => False
  | took k _ found => k = key ∧ found.isSome

def Stands (deeds : List (Deed T)) (key : String) (s : Stored T) : Prop :=
  Lasts (Deed.Ends key) (.set key s) deeds

theorem stands_concat_of_ends {deeds : List (Deed T)} {d : Deed T} {key : String}
    {s : Stored T} (h : d.Ends key) : Stands (deeds ++ [d]) key s ↔ d = .set key s :=
  lasts_concat_of_ends (Deed.Ends key) h

theorem stands_concat_of_not_ends {deeds : List (Deed T)} {d : Deed T} {key : String}
    {s : Stored T} (h : ¬ d.Ends key) : Stands (deeds ++ [d]) key s ↔ Stands deeds key s :=
  lasts_concat_of_not_ends (Deed.Ends key) (show Deed.Ends key (.set key s) from rfl) h

end Values

open Values

structure Usage (S T : Type) [Universe T] where
  socket : S
  deeds : List (Deed T)

namespace Usage

variable [Carrier S T]

def start (s : S) : Usage S T := ⟨s, []⟩

def Sound (x : Usage S T) : Prop :=
  ∀ key s, (Carrier.values x.socket).slot key = some s ↔ Stands x.deeds key s

theorem sound_start {s : S} (hs : Carrier.values s = .empty) : Sound (start s) := by
  intro key kept
  rw [start, hs]
  constructor
  · intro h
    cases h
  · exact fun h => absurd h (not_lasts_nil _)

variable [DecidableEq T]

def step (x : Usage S T) : Access × Use T → Usage S T
  | (a, .set key code value) =>
    ⟨a.set x.socket key code value, x.deeds ++ [.set key ⟨code, value⟩]⟩
  | (a, .get key code) => ⟨x.socket, x.deeds ++ [.got key code (a.get x.socket key code)]⟩
  | (a, .take key code) =>
    let (s, found) := a.take x.socket key code
    ⟨s, x.deeds ++ [.took key code found]⟩

def run (x : Usage S T) (uses : List (Access × Use T)) : Usage S T := uses.foldl step x

variable {x : Usage S T}

theorem Sound.get (h : Sound x) (a : Access) (key : String) (code : T) :
    Sound (x.step (a, .get key code)) := by
  intro k kept
  have hends : ¬ (Deed.got key code (a.get x.socket key code)).Ends k := not_false
  simp only [step]
  rw [stands_concat_of_not_ends hends]
  exact h k kept

variable [LawfulCarrier S]

theorem Sound.set (h : Sound x) (a : Access) (key : String) (code : T)
    (value : Universe.type code) : Sound (x.step (a, .set key code value)) := by
  intro k kept
  simp only [step, Access.set_eq, Carrier.set, values_setValues]
  have hends : (Deed.set key ⟨code, value⟩).Ends k ↔ key = k := .rfl
  by_cases hk : key = k
  · rw [stands_concat_of_ends (hends.mpr hk), ← hk, slot_set_self]
    simp
  · rw [stands_concat_of_not_ends (mt hends.mp hk), slot_set_other _ _ _ (Ne.symm hk)]
    exact h k kept

theorem Sound.take (h : Sound x) (a : Access) (key : String) (code : T) :
    Sound (x.step (a, .take key code)) := by
  intro k kept
  cases hfound : a.get x.socket key code with
  | none =>
    have hends : ¬ (Deed.took key code none).Ends k := by simp [Deed.Ends]
    simp only [step, Access.take_of_none hfound]
    rw [stands_concat_of_not_ends hends]
    exact h k kept
  | some value =>
    have hends : (Deed.took key code (some value)).Ends k ↔ key = k := by simp [Deed.Ends]
    simp only [step, Access.take_of_some hfound, values_setValues]
    by_cases hk : key = k
    · rw [stands_concat_of_ends (hends.mpr hk), ← hk, slot, lookup_without_self]
      simp
    · rw [stands_concat_of_not_ends (mt hends.mp hk), slot, lookup_without_other (Ne.symm hk)]
      exact h k kept

theorem Sound.step (h : Sound x) (u : Access × Use T) : Sound (x.step u) := by
  obtain ⟨a, u⟩ := u
  cases u with
  | set key code value => exact h.set a key code value
  | get key code => exact h.get a key code
  | take key code => exact h.take a key code

theorem Sound.run (h : Sound x) (uses : List (Access × Use T)) : Sound (x.run uses) := by
  induction uses generalizing x with
  | nil => exact h
  | cons u uses ih => exact ih (h.step u)

/-! ## Main result -/

structure Answers (x : Usage S T) : Prop where
  got : ∀ (a : Access) key code value,
    a.get x.socket key code = some value ↔ Stands x.deeds key ⟨code, value⟩
  took : ∀ (a : Access) key code value,
    (a.take x.socket key code).2 = some value ↔ Stands x.deeds key ⟨code, value⟩
  emptied : ∀ (a b : Access) key code value other, (a.take x.socket key code).2 = some value →
    b.get (a.take x.socket key code).1 key other = none
  others : ∀ (a b : Access) key code k c, k ≠ key →
    b.get (a.take x.socket key code).1 k c = b.get x.socket k c
  missed : ∀ (a : Access) key code, (∀ value, ¬ Stands x.deeds key ⟨code, value⟩) →
    a.get x.socket key code = none ∧ a.take x.socket key code = (x.socket, none)
  mismatched : ∀ (a b : Access) key code value other, Stands x.deeds key ⟨code, value⟩ →
    other ≠ code → a.get x.socket key other = none ∧
      a.take x.socket key other = (x.socket, none) ∧
      (b.take (a.take x.socket key other).1 key code).2 = some value

theorem Sound.answers (h : Sound x) : Answers x := by
  have got (a : Access) (key : String) (code : T) (value : Universe.type code) :
      a.get x.socket key code = some value ↔ Stands x.deeds key ⟨code, value⟩ := by
    rw [Access.get_eq_some_iff]
    exact h key ⟨code, value⟩
  have missed (a : Access) (key : String) (code : T)
      (hnone : ∀ value, ¬ Stands x.deeds key ⟨code, value⟩) :
      a.get x.socket key code = none ∧ a.take x.socket key code = (x.socket, none) := by
    have hget : a.get x.socket key code = none := by
      rw [Option.eq_none_iff_forall_ne_some]
      exact fun value hvalue => hnone value ((got a key code value).mp hvalue)
    exact ⟨hget, Access.take_of_none hget⟩
  constructor
  case got => exact got
  case took =>
    intro a key code value
    rw [Access.found_take]
    exact got a key code value
  case emptied =>
    intro a b key code value other htaken
    rw [Access.found_take] at htaken
    rw [Option.eq_none_iff_forall_ne_some]
    intro w hw
    rw [Access.take_of_some htaken, Access.get_eq_some_iff, values_setValues, slot,
      lookup_without_self] at hw
    cases hw
  case others =>
    intro a b key code k c hk
    cases hfound : a.get x.socket key code with
    | none => rw [Access.take_of_none hfound]
    | some value =>
      apply Option.ext
      intro w
      rw [Access.take_of_some hfound, Access.get_eq_some_iff, Access.get_eq_some_iff,
        values_setValues, slot, lookup_without_other hk, slot]
  case missed => exact missed
  case mismatched =>
    intro a b key code value other hstands hother
    have hnone (w : Universe.type other) : ¬ Stands x.deeds key ⟨other, w⟩ := by
      intro hw
      have hsame := ((h key _).mpr hw).symm.trans ((h key _).mpr hstands)
      exact hother (congrArg Stored.code (Option.some.inj hsame))
    obtain ⟨hget, htake⟩ := missed a key other hnone
    refine ⟨hget, htake, ?_⟩
    rw [htake, Access.found_take]
    exact (got b key code value).mpr hstands

/-- However a fresh store is used, and through whatever: a value is found with its own type
from when it is set until another is set or it is taken. -/
theorem last_set_is_found (s : S) (hs : Carrier.values s = .empty)
    (uses : List (Access × Use T)) : Answers ((start s).run uses) :=
  ((sound_start hs).run uses).answers

open Simulation in
/-- A user is named instead of numbered, and looked for by both. -/
def userUses : List (Access × Use ValueType) :=
  [(.socket, .set "user" .u32 (7 : UInt32)), (.pointer .socket, .set "user" .text "eve"),
    (.pointer (.pointer .store), .take "user" .u32), (.store, .get "user" .text)]

open Simulation in
theorem renamed_user_is_found :
    let fresh : RecordingSocket ValueType := ⟨[], .empty⟩
    let x := (start fresh).run userUses
    Carrier.values fresh = .empty ∧ Access.socket.get x.socket "user" .text = some "eve" ∧
      Access.store.take x.socket "user" .u32 = (x.socket, none) := by
  intro fresh x
  have h : Answers x := last_set_is_found fresh rfl userUses
  have hstands : Stands x.deeds "user" ⟨.text, "eve"⟩ :=
    ⟨[.set "user" ⟨.u32, (7 : UInt32)⟩],
      [.took "user" .u32 none, .got "user" .text (some "eve")], rfl, by simp [Deed.Ends]⟩
  exact ⟨rfl, (h.got _ _ _ _).mpr hstands, (h.mismatched _ .socket _ _ _ _ hstands (by decide)).2.1⟩

end Usage
end Callwire
