import Callwire.Frame
import Callwire.Proofs.Text.Utf8

/-!
# Names in frames

The frames that a client takes for pushes are those with a name: bytes other
than a stop, and then a stop. A name that can be framed has neither stop in it,
and what stands before the first stop is a name that can be framed.
-/

set_option autoImplicit false

namespace Callwire.Frame

def Stop (x : UInt8) : Prop := x = terminator ∨ x = failureLead

instance (x : UInt8) : Decidable (Stop x) := inferInstanceAs (Decidable (_ ∨ _))

def Named (b front back : Bytes) : Prop :=
  front ≠ [] ∧ (∀ y ∈ front, ¬ Stop y) ∧ ∃ x, Stop x ∧ b = front ++ x :: back

theorem stop_iff (x : UInt8) : (x == terminator || x == failureLead) = true ↔ Stop x := by
  simp [Stop]

theorem stop_eq_false_iff (x : UInt8) :
    (x == terminator || x == failureLead) = false ↔ ¬ Stop x := by
  rw [← stop_iff, Bool.not_eq_true]

theorem named_eq_some_iff (b front back : Bytes) :
    named b = some (front, back) ↔ Named b front back := by
  constructor
  · intro h
    obtain ⟨hcut, hne⟩ := Option.filter_eq_some_iff.mp h
    obtain ⟨x, hx, rfl, hfront⟩ := eq_of_cut hcut
    refine ⟨by simpa using hne, ?_, x, (stop_iff x).mp hx, rfl⟩
    intro y hy
    exact (stop_eq_false_iff y).mp (hfront y hy)
  · rintro ⟨hne, hfront, x, hx, rfl⟩
    unfold named
    rw [cut_append (fun y hy => (stop_eq_false_iff y).mpr (hfront y hy)) ((stop_iff x).mpr hx)]
    simp [hne]

theorem named_eq_none_iff (b : Bytes) :
    named b = none ↔ ¬ ∃ front back, Named b front back := by
  constructor
  · rintro h ⟨front, back, hn⟩
    rw [(named_eq_some_iff b front back).mpr hn] at h
    exact absurd h (by simp)
  · intro h
    cases hb : named b with
    | none => rfl
    | some p => exact absurd ⟨p.1, p.2, (named_eq_some_iff b p.1 p.2).mp hb⟩ h

/-- A frame has no name if it starts with a stop or has none. -/
theorem named_cons_eq_none_iff (a : UInt8) (rest : Bytes) :
    named (a :: rest) = none ↔ Stop a ∨ ∀ x ∈ a :: rest, ¬ Stop x := by
  rw [named_eq_none_iff]
  constructor
  · intro h
    by_contra hc
    rw [not_or] at hc
    obtain ⟨ha, hx⟩ := hc
    have hcut : cut (fun x => x == terminator || x == failureLead) (a :: rest) ≠ none := by
      intro hnone
      apply hx
      intro x hmem
      exact (stop_eq_false_iff x).mp ((cut_eq_none_iff _ _).mp hnone x hmem)
    obtain ⟨⟨front, back⟩, hsome⟩ := Option.ne_none_iff_exists'.mp hcut
    obtain ⟨x, hstop, hb, hfront⟩ := eq_of_cut hsome
    refine h ⟨front, back, ?_, fun y hy => (stop_eq_false_iff y).mp (hfront y hy), x,
      (stop_iff x).mp hstop, hb⟩
    rintro rfl
    rw [List.nil_append, List.cons.injEq] at hb
    exact ha (hb.1 ▸ (stop_iff x).mp hstop)
  · rintro h ⟨front, back, hne, hfront, x, hx, hb⟩
    obtain ⟨y, front, rfl⟩ := List.exists_cons_of_ne_nil hne
    rw [List.cons_append, List.cons.injEq] at hb
    obtain ⟨rfl, rfl⟩ := hb
    rcases h with ha | hall
    · exact hfront a (by simp) ha
    · exact hall x (by simp) hx

theorem checkName_eq_ok_iff (name : String) :
    checkName name = .ok () ↔ name ≠ "" ∧ terminator ∉ Bytes.ofString name := by
  unfold checkName
  split_ifs with h0 h1
  · simp [h0]
  · simpa [h0] using h1
  · simpa [h0] using h1

theorem not_stop_of_mem_name {name : String} (h : checkName name = .ok ()) {y : UInt8}
    (hy : y ∈ Bytes.ofString name) : ¬ Stop y := by
  rintro (rfl | rfl)
  · exact ((checkName_eq_ok_iff name).mp h).2 hy
  · have hlt := Bytes.text_byte_lt name _ hy
    exact absurd hlt (by decide)

theorem name_ne_nil {name : String} (h : checkName name = .ok ()) :
    Bytes.ofString name ≠ [] := by
  intro hnil
  exact ((checkName_eq_ok_iff name).mp h).1 ((Bytes.ofString_eq_nil_iff name).mp hnil)

theorem checkName_of_front {name : String} (hne : Bytes.ofString name ≠ [])
    (h : ∀ y ∈ Bytes.ofString name, ¬ Stop y) : checkName name = .ok () := by
  apply (checkName_eq_ok_iff name).mpr
  constructor
  · rintro rfl
    exact hne rfl
  · intro ht
    exact h terminator ht (Or.inl rfl)

theorem encode_push {name : String} (h : checkName name = .ok ()) (payload : Bytes) :
    Push.encode ⟨name, payload⟩ = .ok (Bytes.ofString name ++ terminator :: payload) := by
  simp only [Push.encode, h]
  rfl

theorem named_of_checkName {name : String} (h : checkName name = .ok ()) (payload : Bytes) :
    Named (Bytes.ofString name ++ terminator :: payload) (Bytes.ofString name) payload :=
  ⟨name_ne_nil h, fun _ hy => not_stop_of_mem_name h hy, terminator, Or.inl rfl, rfl⟩

end Callwire.Frame
