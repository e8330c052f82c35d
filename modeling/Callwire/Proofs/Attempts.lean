import Mathlib.Tactic

/-!
# Computations that may fail

A chain of computations succeeds if each of them does, and a computation made
for every element of a list succeeds if it does for each.
-/

set_option autoImplicit false

namespace Callwire

variable {ε α β : Type}

theorem bind_eq_ok_iff {x : Except ε α} {f : α → Except ε β} {b : β} :
    x >>= f = .ok b ↔ ∃ a, x = .ok a ∧ f a = .ok b := by
  cases x <;> simp [bind, Except.bind]

theorem exists_of_isOk {x : Except ε α} (h : x.isOk = true) : ∃ a, x = .ok a := by
  cases x with
  | error e => cases h
  | ok a => exact ⟨a, rfl⟩

theorem mapM_eq_ok_iff {f : α → Except ε β} {as : List α} {bs : List β} :
    as.mapM f = .ok bs ↔ List.Forall₂ (fun a b => f a = .ok b) as bs := by
  induction as generalizing bs with
  | nil => simp [pure, Except.pure, eq_comm]
  | cons a as ih =>
    rw [List.mapM_cons, bind_eq_ok_iff]
    constructor
    · rintro ⟨b, hb, h⟩
      obtain ⟨rest, hrest, h⟩ := bind_eq_ok_iff.mp h
      obtain rfl := Except.ok.inj h
      exact .cons hb (ih.mp hrest)
    · rintro (_ | ⟨hb, hrest⟩)
      exact ⟨_, hb, bind_eq_ok_iff.mpr ⟨_, ih.mpr hrest, rfl⟩⟩

/-- What each result says of its element, the results say of the list. -/
theorem map_eq_of_mapM {γ : Type} {f : α → Except ε β} {as : List α} {bs : List β} {g : β → γ}
    {k : α → γ} (h : as.mapM f = .ok bs) (hresult : ∀ a b, f a = .ok b → g b = k a) :
    bs.map g = as.map k := by
  rw [mapM_eq_ok_iff] at h
  induction h with
  | nil => rfl
  | cons hb _ ih => rw [List.map_cons, List.map_cons, hresult _ _ hb, ih]

theorem mem_iff_of_mapM {f : α → Except ε β} {as : List α} {bs : List β} {b : β}
    (h : as.mapM f = .ok bs) : b ∈ bs ↔ ∃ a ∈ as, f a = .ok b := by
  rw [mapM_eq_ok_iff] at h
  induction h with
  | nil => simp
  | cons hb _ ih => simp [ih, hb, eq_comm]

theorem exists_of_mapM {f : α → Except ε β} {as : List α} {bs : List β} {a : α}
    (h : as.mapM f = .ok bs) (ha : a ∈ as) : ∃ b, f a = .ok b := by
  rw [mapM_eq_ok_iff] at h
  induction h with
  | nil => cases ha
  | cons hb _ ih =>
    rcases List.mem_cons.mp ha with rfl | ha
    · exact ⟨_, hb⟩
    · exact ih ha

/-- Each result stands in the place of its element. -/
theorem getElem?_of_mapM {f : α → Except ε β} {as : List α} {bs : List β} {i : Nat} {a : α}
    (h : as.mapM f = .ok bs) (ha : as[i]? = some a) : ∃ b, bs[i]? = some b ∧ f a = .ok b := by
  rw [mapM_eq_ok_iff, List.forall₂_iff_get] at h
  obtain ⟨hi, rfl⟩ := List.getElem?_eq_some_iff.mp ha
  have hi' : i < bs.length := h.1 ▸ hi
  exact ⟨bs[i], List.getElem?_eq_getElem hi', h.2 i hi hi'⟩

end Callwire
