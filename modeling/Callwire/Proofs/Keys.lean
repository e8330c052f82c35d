import Mathlib.Tactic

/-!
# Keys

A row of pairs with distinct keys has one value for each key. Where keys come again in a
row that grows, it is the last entry that counts.
-/

set_option autoImplicit false

namespace Callwire

variable {α β : Type} [BEq α] [LawfulBEq α]

theorem lookup_eq_some_of_nodup {row : List (α × β)} (h : (row.map (·.1)).Nodup) {p : α × β}
    (hp : p ∈ row) : row.lookup p.1 = some p.2 := by
  induction row with
  | nil => simp at hp
  | cons q row ih =>
    obtain ⟨hq, hrow⟩ := List.nodup_cons.mp h
    rcases List.mem_cons.mp hp with rfl | hp
    · exact List.lookup_cons_self
    · have hne : (p.1 == q.1) = false := by
        rw [beq_eq_false_iff_ne]
        intro he
        exact hq (List.mem_map.mpr ⟨p, hp, he⟩)
      rw [List.lookup_cons, hne]
      exact ih hrow hp

/-- No pair in front has the key of the pair in the middle. -/
theorem lookup_eq_none_of_nodup {front rest : List (α × β)} {p : α × β}
    (h : ((front ++ [p] ++ rest).map (·.1)).Nodup) : front.lookup p.1 = none := by
  rw [List.lookup_eq_none_iff]
  intro q hq
  rw [List.map_append, List.map_append, List.append_assoc] at h
  have hne := (List.nodup_append.mp h).2.2 q.1 (List.mem_map_of_mem hq) p.1 (by simp)
  simpa [bne_iff_ne] using fun he => hne he.symm

section
variable {α : Type} (ends : α → Prop) {row : List α} {x y : α}

def Lasts (x : α) (row : List α) : Prop :=
  ∃ before after, row = before ++ x :: after ∧ ∀ y ∈ after, ¬ ends y

theorem not_lasts_nil : ¬ Lasts ends x [] := by
  rintro ⟨before, after, heq, -⟩
  simp at heq

theorem lasts_concat : Lasts ends x (row ++ [y]) ↔ y = x ∨ (¬ ends y ∧ Lasts ends x row) := by
  constructor
  · rintro ⟨before, after, heq, hafter⟩
    rcases List.eq_nil_or_concat after with rfl | ⟨more, last, rfl⟩
    · exact .inl (List.append_singleton_inj.mp heq).2
    · rw [List.concat_eq_append, ← List.cons_append, ← List.append_assoc] at heq
      obtain ⟨hrow, rfl⟩ := List.append_singleton_inj.mp heq
      refine .inr ⟨hafter y (by simp), before, more, hrow, ?_⟩
      exact fun z hz => hafter z (by simp [hz])
  · rintro (rfl | ⟨hy, before, after, rfl, hafter⟩)
    · exact ⟨row, [], rfl, by simp⟩
    · refine ⟨before, after ++ [y], by simp, ?_⟩
      intro z hz
      rcases List.mem_append.mp hz with hz | hz
      · exact hafter z hz
      · rwa [List.mem_singleton.mp hz]

theorem lasts_concat_of_ends (hy : ends y) : Lasts ends x (row ++ [y]) ↔ y = x := by
  rw [lasts_concat ends, or_iff_left]
  exact fun h => h.1 hy

theorem lasts_concat_of_not_ends (hx : ends x) (hy : ¬ ends y) :
    Lasts ends x (row ++ [y]) ↔ Lasts ends x row := by
  have hne : y ≠ x := fun heq => hy (heq ▸ hx)
  rw [lasts_concat ends, or_iff_right hne, and_iff_right hy]

end

end Callwire
