/-!
# Bytes

Byte strings as lists, numbers of four bytes in big endian order and text as
UTF-8.
-/

set_option autoImplicit false

namespace Callwire

abbrev Bytes := List UInt8

namespace Bytes

def ofWord (w : UInt32) : Bytes :=
  [UInt8.ofNat (w.toNat / 16777216), UInt8.ofNat (w.toNat / 65536),
    UInt8.ofNat (w.toNat / 256), UInt8.ofNat w.toNat]

def word? : Bytes → Option (UInt32 × Bytes)
  | a :: b :: c :: d :: rest =>
    some (UInt32.ofNat (((a.toNat * 256 + b.toNat) * 256 + c.toNat) * 256 + d.toNat), rest)
  | _ => none

def ofString (s : String) : Bytes := s.toUTF8.data.toList

def toString? (b : Bytes) : Option String := String.fromUTF8? ⟨b.toArray⟩

@[simp] theorem length_ofWord (w : UInt32) : (ofWord w).length = 4 := rfl

theorem word?_ofWord (w : UInt32) (rest : Bytes) : word? (ofWord w ++ rest) = some (w, rest) := by
  have hw := w.toNat_lt
  simp only [ofWord, List.cons_append, List.nil_append, word?, Option.some.injEq, Prod.mk.injEq,
    and_true]
  apply UInt32.toNat_inj.mp
  simp only [UInt32.toNat_ofNat', UInt8.toNat_ofNat']
  omega

theorem ofWord_of_word? {b rest : Bytes} {w : UInt32} (h : word? b = some (w, rest)) :
    b = ofWord w ++ rest := by
  match b with
  | x :: y :: z :: u :: tail =>
    simp only [word?, Option.some.injEq, Prod.mk.injEq] at h
    obtain ⟨rfl, rfl⟩ := h
    have hx := x.toNat_lt
    have hy := y.toNat_lt
    have hz := z.toNat_lt
    have hu := u.toNat_lt
    simp only [ofWord, List.cons_append, List.nil_append, List.cons.injEq, and_true]
    refine ⟨?_, ?_, ?_, ?_⟩ <;> apply UInt8.toNat_inj.mp <;>
      simp only [UInt32.toNat_ofNat', UInt8.toNat_ofNat'] <;> omega
  | [] | [_] | [_, _] | [_, _, _] => simp [word?] at h

theorem word?_eq_none_iff (b : Bytes) : word? b = none ↔ b.length < 4 := by
  match b with
  | x :: y :: z :: u :: tail => simp [word?]
  | [] | [_] | [_, _] | [_, _, _] => simp [word?]

@[simp] theorem toString?_ofString (s : String) : toString? (ofString s) = some s := by
  have h : (⟨(ofString s).toArray⟩ : ByteArray) = s.toByteArray := by
    simp [ofString]
  unfold toString? String.fromUTF8?
  rw [h, dif_pos s.isValidUTF8]
  rfl

end Bytes

end Callwire
