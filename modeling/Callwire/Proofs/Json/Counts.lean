import Callwire.Json.Writer
import Callwire.Proofs.Json.Texts

/-!
# Counts in JSON are read back

The decimal digits of a number stand for that number, and the first of them is
no zero unless it is the only one. Digits are gathered while the number has 64
bits, so a number of 64 bits is read to its end.
-/

set_option autoImplicit false

namespace Callwire.Json

/-! ## Digits -/

def valueFrom (n : Nat) (ds : Bytes) : Nat := ds.foldl (fun s b => s * 10 + digitOf b) n

theorem valueFrom_append (n : Nat) (a b : Bytes) :
    valueFrom n (a ++ b) = valueFrom (valueFrom n a) b := List.foldl_append

theorem le_valueFrom (n : Nat) (ds : Bytes) : n ≤ valueFrom n ds := by
  induction ds generalizing n with
  | nil => exact le_rfl
  | cons d ds ih =>
    have hd := ih (n * 10 + digitOf d)
    show n ≤ valueFrom (n * 10 + digitOf d) ds
    omega

theorem gather_eq {n : Nat} {ds : Bytes} (h : valueFrom n ds < UInt64.size) :
    gather n ds = (valueFrom n ds, ds.length) := by
  induction ds generalizing n with
  | nil => rfl
  | cons d ds ih =>
    have hrest : valueFrom (n * 10 + digitOf d) ds < UInt64.size := h
    have hle := le_valueFrom (n * 10 + digitOf d) ds
    rw [gather, if_pos (by omega), ih hrest]
    rfl

def digitByte (n : Nat) : UInt8 := UInt8.ofNat (48 + n)

theorem ofNat_digitChar : ∀ n < 10, UInt8.ofNat n.digitChar.toNat = digitByte n := by decide

theorem digitOf_digitByte : ∀ n < 10, digitOf (digitByte n) = n := by decide

theorem isDigit_digitByte : ∀ n < 10, isDigit (digitByte n) = true := by decide

theorem writeCount_of_lt {n : Nat} (h : n < 10) : writeCount n = [digitByte n] := by
  rw [writeCount, Nat.toDigits_of_lt_base h, List.map_singleton, ofNat_digitChar n h]

theorem writeCount_of_le {n : Nat} (h : 10 ≤ n) :
    writeCount n = writeCount (n / 10) ++ [digitByte (n % 10)] := by
  rw [writeCount, Nat.toDigits_of_base_le (by decide) h, List.map_append, List.map_singleton,
    ofNat_digitChar _ (Nat.mod_lt n (by decide))]
  rfl

structure Decimal (n : Nat) (d : UInt8) (ds : Bytes) : Prop where
  first : isDigit d = true
  others : ∀ b ∈ ds, isDigit b = true
  value : valueFrom (digitOf d) ds = n
  zero : d = 48 → ds = []

theorem decimal_writeCount (n : Nat) : ∃ d ds, writeCount n = d :: ds ∧ Decimal n d ds := by
  induction n using Nat.strong_induction_on with
  | _ n ih =>
    by_cases h : n < 10
    · exact ⟨digitByte n, [], writeCount_of_lt h, isDigit_digitByte n h, by simp,
        digitOf_digitByte n h, fun _ => rfl⟩
    · obtain ⟨d, ds, hw, hd⟩ := ih (n / 10) (by omega)
      have hlt : n % 10 < 10 := Nat.mod_lt n (by decide)
      refine ⟨d, ds ++ [digitByte (n % 10)], ?_, hd.first, ?_, ?_, ?_⟩
      · rw [writeCount_of_le (by omega), hw, List.cons_append]
      · intro b hb
        rcases List.mem_append.mp hb with hb | hb
        · exact hd.others b hb
        · rw [List.mem_singleton.mp hb]
          exact isDigit_digitByte _ hlt
      · rw [valueFrom_append, hd.value]
        show n / 10 * 10 + digitOf (digitByte (n % 10)) = n
        rw [digitOf_digitByte _ hlt]
        omega
      · rintro rfl
        have hzero : n / 10 = 0 := by
          rw [← hd.value, hd.zero rfl]
          rfl
        omega

/-! ## Numbers -/

def EndsNumber (b : UInt8) : Prop := isDigit b = false ∧ b ≠ point ∧ b ≠ 101 ∧ b ≠ 69

theorem rest_of_end (s : Nat) (e : Int) (atEnd : Reader Numeral) {b : UInt8} (h : EndsNumber b)
    (tail : Bytes) : number.rest true s e atEnd (b :: tail) = atEnd (b :: tail) := by
  have hmark : isExponentMark (some b) = false := by
    simp [isExponentMark, h.2.2.1, h.2.2.2]
  rw [number.rest, bind_read (show peek (b :: tail) = .ok (some b, b :: tail) from rfl),
    if_neg (by simpa using h.2.1), hmark]
  rfl

theorem digits_append {ds : Bytes} (hd : ∀ b ∈ ds, isDigit b = true) {b : UInt8}
    (hb : isDigit b = false) (tail : Bytes) :
    digits (ds ++ b :: tail) = .ok (ds, b :: tail) := by
  unfold digits
  rw [List.takeWhile_append_of_pos hd, List.dropWhile_append_of_pos hd]
  simp [hb]

/-- A number is read back if what follows ends it. -/
theorem number_writeCount {n : Nat} (hn : n < UInt64.size) {b : UInt8} (hb : EndsNumber b)
    (tail : Bytes) : number true (writeCount n ++ b :: tail) = .ok (.whole n, b :: tail) := by
  obtain ⟨d, ds, hw, hd⟩ := decimal_writeCount n
  rw [hw, List.cons_append, number,
    bind_read (show next (d :: (ds ++ b :: tail)) = .ok (some d, ds ++ b :: tail) from rfl)]
  by_cases hzero : d = 48
  · obtain rfl := hd.zero hzero
    have hn0 : n = 0 := by
      rw [← hd.value, hzero]
      rfl
    simp only [if_pos hzero, List.nil_append]
    rw [bind_read (show peek (b :: tail) = .ok (some b, b :: tail) from rfl)]
    simp only [Option.map_some, Option.getD_some, hb.1, Bool.false_eq_true, if_false]
    rw [rest_of_end 0 0 _ hb, hn0]
    rfl
  · simp only [if_neg hzero, if_pos hd.first]
    rw [bind_read (digits_append hd.others hb.1 tail)]
    have hg : gather (digitOf d) ds = (n, ds.length) := by
      rw [gather_eq (by rw [hd.value]; exact hn), hd.value]
    simp only [hg, lt_self_iff_false, if_false]
    rw [rest_of_end n 0 _ hb]
    rfl

end Callwire.Json
