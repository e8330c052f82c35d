import Callwire.Server.MethodTable
import Callwire.Proofs.Keys

/-!
# Methods in tables

A table can be made of methods exactly if their names differ, and then it finds
each of them by its name and nothing by any other. Otherwise the first method
whose name has come before is named.
-/

set_option autoImplicit false

namespace Callwire.MethodTable

variable {M : Type} {name : M → String}

def entriesOf (name : M → String) (methods : List M) : List (String × M) :=
  methods.map fun m => (name m, m)

theorem keys_entriesOf (methods : List M) :
    (entriesOf name methods).map (·.1) = methods.map name := by
  simp [entriesOf, Function.comp_def]

theorem get?_eq_none_iff {t : MethodTable M} {n : String} :
    t.get? n = none ↔ n ∉ t.entries.map (·.1) := by
  rw [get?, List.lookup_eq_none_iff]
  constructor
  · intro h hn
    obtain ⟨p, hp, rfl⟩ := List.mem_map.mp hn
    simpa using h p hp
  · intro h p hp
    rw [bne_iff_ne]
    rintro rfl
    exact h (List.mem_map_of_mem hp)

/-- The first of methods whose names are all new is not in the table yet. -/
theorem get?_of_nodup {t : MethodTable M} {m : M} {methods : List M}
    (h : (t.entries.map (·.1) ++ (m :: methods).map name).Nodup) : t.get? (name m) = none := by
  rw [get?_eq_none_iff]
  intro hmem
  exact (List.nodup_append.mp h).2.2 (name m) hmem (name m) (by simp) rfl

theorem add_eq_ok {t : MethodTable M} {methods : List M}
    (h : (t.entries.map (·.1) ++ methods.map name).Nodup) :
    add name t methods = .ok ⟨t.entries ++ entriesOf name methods⟩ := by
  induction methods generalizing t with
  | nil => simp [add, entriesOf]
  | cons m methods ih =>
    rw [add, get?_of_nodup h, ih (by simpa using h)]
    simp [entriesOf]

theorem ofList_eq_ok {methods : List M} (h : (methods.map name).Nodup) :
    ofList name methods = .ok ⟨entriesOf name methods⟩ := by
  rw [ofList, add_eq_ok (by simpa using h)]
  rfl

theorem get?_of_mem {methods : List M} (h : (methods.map name).Nodup) {m : M}
    (hm : m ∈ methods) : (⟨entriesOf name methods⟩ : MethodTable M).get? (name m) = some m := by
  have hkeys : ((entriesOf name methods).map (·.1)).Nodup := by rwa [keys_entriesOf]
  have hmem : (name m, m) ∈ entriesOf name methods := List.mem_map_of_mem hm
  exact lookup_eq_some_of_nodup hkeys hmem

theorem get?_of_not_mem {methods : List M} {other : String} (h : other ∉ methods.map name) :
    (⟨entriesOf name methods⟩ : MethodTable M).get? other = none := by
  rwa [get?_eq_none_iff, keys_entriesOf]

/-! ## Repeated names -/

def FirstRepeated (name : M → String) (methods : List M) (m : M) : Prop :=
  ∃ front rest, methods = front ++ m :: rest ∧ (front.map name).Nodup ∧ name m ∈ front.map name

theorem shares_name_iff {methods : List M} :
    (∃ i j : Fin methods.length, i < j ∧ name methods[i] = name methods[j]) ↔
      ¬ (methods.map name).Nodup := by
  rw [List.Nodup, List.pairwise_map, List.pairwise_iff_getElem]
  constructor
  · rintro ⟨i, j, hij, heq⟩ h
    exact h i j i.2 j.2 hij heq
  · intro h
    by_contra hnone
    apply h
    intro i j hi hj hij heq
    exact hnone ⟨⟨i, hi⟩, ⟨j, hj⟩, hij, heq⟩

theorem add_eq_error {t : MethodTable M} {front rest : List M} {m : M}
    (h : (t.entries.map (·.1) ++ front.map name).Nodup)
    (hm : name m ∈ t.entries.map (·.1) ++ front.map name) :
    add name t (front ++ m :: rest) = .error ⟨name m⟩ := by
  induction front generalizing t with
  | nil =>
    have hold : t.get? (name m) ≠ none := by
      rw [Ne, get?_eq_none_iff, not_not]
      simpa using hm
    rw [List.nil_append, add, if_pos (Option.isSome_iff_ne_none.mpr hold)]
  | cons x front ih =>
    rw [List.cons_append, add, get?_of_nodup h]
    exact ih (by simpa using h) (by simpa using hm)

theorem ofList_eq_error {methods : List M} {m : M} (h : FirstRepeated name methods m) :
    ofList name methods = .error ⟨name m⟩ := by
  obtain ⟨front, rest, rfl, hfront, hm⟩ := h
  exact add_eq_error (by simpa using hfront) (by simpa using hm)

theorem exists_firstRepeated {methods : List M} (h : ¬ (methods.map name).Nodup) :
    ∃ m, FirstRepeated name methods m := by
  induction methods using List.reverseRecOn with
  | nil => exact absurd List.nodup_nil h
  | append_singleton methods m ih =>
    by_cases hmethods : (methods.map name).Nodup
    · refine ⟨m, methods, [], rfl, hmethods, ?_⟩
      by_contra hm
      apply h
      rw [List.map_append, List.map_singleton, ← List.concat_eq_append]
      exact hmethods.concat hm
    · obtain ⟨x, front, rest, rfl, hx⟩ := ih hmethods
      exact ⟨x, front, rest ++ [m], by simp, hx⟩

theorem isOk_ofList_iff {methods : List M} :
    (∃ t, ofList name methods = .ok t) ↔ (methods.map name).Nodup := by
  constructor
  · rintro ⟨t, ht⟩
    by_contra h
    obtain ⟨m, hm⟩ := exists_firstRepeated h
    rw [ofList_eq_error hm] at ht
    cases ht
  · exact fun h => ⟨_, ofList_eq_ok h⟩

/-! ## Outcomes -/

structure Inverse (name : M → String) (methods : List M) (t : MethodTable M) : Prop where
  size : t.size = methods.length
  found : ∀ n m, t.get? n = some m ↔ m ∈ methods ∧ name m = n
  absent : ∀ n, t.get? n = none ↔ ∀ m ∈ methods, name m ≠ n

def Tells (name : M → String) (methods : List M) : Except DuplicateMethod (MethodTable M) → Prop
  | .ok t => Inverse name methods t
  | .error d => ∃ m, FirstRepeated name methods m ∧ d.message = "duplicate method " ++ name m

theorem inverse_entriesOf {methods : List M} (h : (methods.map name).Nodup) :
    Inverse name methods ⟨entriesOf name methods⟩ where
  size := by simp [size, entriesOf]
  found n m := by
    constructor
    · intro hget
      have hn : n ∈ methods.map name := by
        by_contra hn
        rw [get?_of_not_mem hn] at hget
        cases hget
      obtain ⟨x, hx, rfl⟩ := List.mem_map.mp hn
      rw [get?_of_mem h hx] at hget
      cases hget
      exact ⟨hx, rfl⟩
    · rintro ⟨hm, rfl⟩
      exact get?_of_mem h hm
  absent n := by
    rw [get?_eq_none_iff, keys_entriesOf]
    simp

/-- Methods make a table exactly if no two of them share a name. It then inverts the names,
and else the first method whose name has come before is named. -/
theorem tables_invert_names (name : M → String) (methods : List M) :
    ((∃ d, ofList name methods = .error d) ↔
      ∃ i j : Fin methods.length, i < j ∧ name methods[i] = name methods[j]) ∧
    Tells name methods (ofList name methods) := by
  constructor
  · rw [shares_name_iff, ← isOk_ofList_iff]
    cases ofList name methods <;> simp
  · by_cases h : (methods.map name).Nodup
    · rw [ofList_eq_ok h]
      exact inverse_entriesOf h
    · obtain ⟨m, hm⟩ := exists_firstRepeated h
      rw [ofList_eq_error hm]
      exact ⟨m, hm, rfl⟩

/-- The name that comes again first is named, not the one that came first. -/
example : ofList id ["say", "count", "count", "say"] = .error ⟨"count"⟩ := rfl

end Callwire.MethodTable
