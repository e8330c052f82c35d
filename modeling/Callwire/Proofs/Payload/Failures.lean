import Callwire.Payload.Basic
import Callwire.Proofs.Protobuf.Reading

/-!
# Messages of failed calls

What a failed call is answered with is read back as the same message, as long as
the length of a text can be written at all.
-/

set_option autoImplicit false

namespace Callwire.Failure

def bytes (f : Failure) : Bytes := f.fields.flatMap Protobuf.Field.write

theorem decode_bytes {f : Failure} (h : (Bytes.ofString f.error).length < UInt64.size) :
    Payload.decode f.bytes = .ok f := by
  have hfits : ∀ x ∈ f.fields, x.Fits := by
    intro x hx
    rw [fields] at hx
    split_ifs at hx with he
    · exact absurd hx (by simp)
    · rw [List.mem_singleton] at hx
      subst hx
      exact ⟨show 1 * 8 + 2 < UInt64.size by decide, h⟩
  have hfold : f.fields.foldlM step ⟨""⟩ = .ok f := by
    rw [fields]
    split_ifs with he
    · cases f
      subst he
      rfl
    · show (step ⟨""⟩ ⟨1, .bytes (Bytes.ofString f.error)⟩ >>= fun g => .ok g) = .ok f
      simp only [step, Protobuf.Value.toText, Bytes.toString?_ofString]
      rfl
  simp only [Payload.decode, bytes, Protobuf.message_writes step hfits, hfold]

end Callwire.Failure
