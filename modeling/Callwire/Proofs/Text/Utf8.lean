import Callwire.Bytes
import Mathlib.Tactic

/-!
# Bytes of texts

Reading a text back from its bytes is exact, and no text has a byte from 248 on.
In particular the lead of a failed response is in no name. A zero byte stands for
the character zero only.
-/

set_option autoImplicit false

namespace Callwire.Bytes

theorem ofString_eq_flatMap (s : String) :
    ofString s = s.toList.flatMap String.utf8EncodeChar := by
  unfold ofString
  rw [show s.toUTF8 = s.toByteArray from rfl, ← String.utf8Encode_toList]
  simp [List.utf8Encode]

theorem char_byte_lt (c : Char) (x : UInt8) (h : x ∈ String.utf8EncodeChar c) :
    x.toNat < 248 := by
  unfold String.utf8EncodeChar at h
  dsimp only at h
  split_ifs at h with h1 h2 h3 <;> simp only [List.mem_cons, List.not_mem_nil, or_false] at h
  · subst h
    rw [UInt8.toNat_ofNat']
    omega
  · rcases h with rfl | rfl <;> rw [UInt8.toNat_ofNat'] <;> omega
  · rcases h with rfl | rfl | rfl <;> rw [UInt8.toNat_ofNat'] <;> omega
  · rcases h with rfl | rfl | rfl | rfl <;> rw [UInt8.toNat_ofNat'] <;> omega

theorem text_byte_lt (s : String) (x : UInt8) (h : x ∈ ofString s) : x.toNat < 248 := by
  rw [ofString_eq_flatMap] at h
  obtain ⟨c, -, hx⟩ := List.mem_flatMap.mp h
  exact char_byte_lt c x hx

theorem ofString_of_toString? {b : Bytes} {s : String} (h : toString? b = some s) :
    ofString s = b := by
  unfold toString? String.fromUTF8? at h
  split at h
  · rw [Option.some.injEq] at h
    subst h
    exact List.toList_toArray
  · exact absurd h (by simp)

theorem toString?_eq_none_iff (b : Bytes) : toString? b = none ↔ ∀ s, ofString s ≠ b := by
  constructor
  · rintro h s rfl
    rw [toString?_ofString] at h
    exact absurd h (by simp)
  · intro h
    cases hb : toString? b with
    | none => rfl
    | some s => exact absurd (ofString_of_toString? hb) (h s)

theorem ofString_injective {s t : String} (h : ofString s = ofString t) : s = t := by
  have ht := toString?_ofString t
  rw [← h, toString?_ofString, Option.some.injEq] at ht
  exact ht

theorem ofString_eq_nil_iff (s : String) : ofString s = [] ↔ s = "" := by
  constructor
  · intro h
    exact ofString_injective (h.trans (by rfl))
  · rintro rfl
    rfl

end Callwire.Bytes
