import Callwire.Proofs.Frame.Sides

/-!
# Which request a response answers

A response answers the request whose id it has, or has the negation of. The one
id without a positive counterpart answers none.
-/

set_option autoImplicit false

namespace Callwire.Response

theorem toInt_abs {id : Int32} (h : id ≠ Int32.minValue) : id.abs.toInt = id.toInt.natAbs := by
  have hne : id.toBitVec ≠ BitVec.intMin 32 := by
    intro hb
    apply h
    apply Int32.toBitVec_inj.mp
    rw [hb]
    rfl
  show id.toBitVec.abs.toInt = id.toBitVec.toInt.natAbs
  exact BitVec.toInt_abs_eq_natAbs_of_ne_intMin hne

theorem requestId_toInt (r : Response) :
    r.requestId.toInt = if r.id = Int32.minValue then 0 else (r.id.toInt.natAbs : Int) := by
  unfold requestId
  split_ifs with h
  · rfl
  · exact toInt_abs h

theorem requestId_eq_iff (r : Response) {n : Nat} (h1 : 0 < n) (hn : n ≤ Frame.maxId) :
    r.requestId.toInt.toNat = n ↔ r.id.toInt = n ∨ r.id.toInt = -n := by
  rw [requestId_toInt]
  rw [show Frame.maxId = 16777215 from rfl] at hn
  split_ifs with h
  · rw [h, Int32.toInt_minValue]
    omega
  · omega

theorem isSuccess_iff (r : Response) : r.isSuccess = true ↔ 0 < r.id.toInt := by
  simp [isSuccess, Int32.lt_iff_toInt_lt]

end Callwire.Response
