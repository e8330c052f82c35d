import Callwire.Protobuf.Field
import Callwire.Proofs.Attempts
import Mathlib.Tactic

/-!
# Reading what was written

A varint, a field and a sequence of fields are read back as they were written,
with whatever follows them left over; so are numbers packed into one field. What
every field of a message keeps, the message keeps.
-/

set_option autoImplicit false

namespace Callwire.Protobuf

theorem writeVarint_ne_nil (n : Nat) : writeVarint n ≠ [] := by
  rw [writeVarint]
  split_ifs <;> simp

theorem groups_writeVarint (limit n : Nat) (h : n < 128 ^ (limit + 1)) (rest : Bytes) :
    groups (limit + 1) (writeVarint n ++ rest) = some (n, rest) := by
  induction limit generalizing n with
  | zero =>
    have hn : n < 128 := by simpa using h
    have hb : (UInt8.ofNat n).toNat = n := by
      rw [UInt8.toNat_ofNat']
      omega
    rw [writeVarint, if_pos hn, List.singleton_append, groups,
      if_pos (UInt8.lt_iff_toNat_lt.mpr (by rw [hb]; exact hn)), hb]
  | succ limit ih =>
    rw [writeVarint]
    split_ifs with hn
    · have hb : (UInt8.ofNat n).toNat = n := by
        rw [UInt8.toNat_ofNat']
        omega
      rw [List.singleton_append, groups,
        if_pos (UInt8.lt_iff_toNat_lt.mpr (by rw [hb]; exact hn)), hb]
    · have hb : (UInt8.ofNat (n % 128 + 128)).toNat = n % 128 + 128 := by
        rw [UInt8.toNat_ofNat']
        omega
      have hnot : ¬ UInt8.ofNat (n % 128 + 128) < 128 := by
        rw [UInt8.lt_iff_toNat_lt, hb, show (128 : UInt8).toNat = 128 from rfl]
        omega
      have hdiv : n / 128 < 128 ^ (limit + 1) := by
        rw [Nat.div_lt_iff_lt_mul (by decide), ← Nat.pow_succ]
        exact h
      rw [List.cons_append, groups, if_neg hnot, ih (n / 128) hdiv, hb, Option.map_some,
        Option.some.injEq, Prod.mk.injEq]
      exact ⟨by omega, rfl⟩

theorem readNumber_writeVarint {n : Nat} (h : n < UInt64.size) (rest : Bytes) :
    readNumber (writeVarint n ++ rest) = .ok (n, rest) := by
  have hpow : n < 128 ^ (9 + 1) := h.trans (by decide)
  rw [readNumber, readVarint, show maxVarint = 9 + 1 from rfl, groups_writeVarint 9 n hpow]
  show Except.ok (n % UInt64.size, rest) = _
  rw [Nat.mod_eq_of_lt h]

theorem takeBytes_append (front rest : Bytes) :
    takeBytes front.length (front ++ rest) = .ok (front, rest) := by
  rw [takeBytes, if_pos (by simp), List.take_left, List.drop_left]

def Value.Fits : Value → Prop
  | .varint n => n < UInt64.size
  | .fixed64 b => b.length = 8
  | .bytes b => b.length < UInt64.size
  | .fixed32 b => b.length = 4

def Field.Fits (f : Field) : Prop :=
  f.number * 8 + f.value.wireType < UInt64.size ∧ f.value.Fits

theorem Value.wireType_lt (v : Value) : v.wireType < 8 := by
  cases v <;> simp [wireType]

theorem Value.read_write {v : Value} (h : v.Fits) (rest : Bytes) :
    Value.read v.wireType (v.write ++ rest) = .ok (v, rest) := by
  cases v with
  | varint n =>
    show (readNumber (writeVarint n ++ rest) >>= fun r => .ok (Value.varint r.1, r.2)) = _
    rw [readNumber_writeVarint h]
    rfl
  | fixed64 b =>
    have hb : takeBytes 8 (b ++ rest) = .ok (b, rest) := by
      rw [← show b.length = 8 from h, takeBytes_append]
    show (takeBytes 8 (b ++ rest) >>= fun r => .ok (Value.fixed64 r.1, r.2)) = _
    rw [hb]
    rfl
  | bytes b =>
    show (readNumber (writeVarint b.length ++ b ++ rest) >>= fun r =>
      takeBytes r.1 r.2 >>= fun q => .ok (Value.bytes q.1, q.2)) = _
    rw [List.append_assoc, readNumber_writeVarint h]
    show (takeBytes b.length (b ++ rest) >>= fun q => .ok (Value.bytes q.1, q.2)) = _
    rw [takeBytes_append]
    rfl
  | fixed32 b =>
    have hb : takeBytes 4 (b ++ rest) = .ok (b, rest) := by
      rw [← show b.length = 4 from h, takeBytes_append]
    show (takeBytes 4 (b ++ rest) >>= fun r => .ok (Value.fixed32 r.1, r.2)) = _
    rw [hb]
    rfl

theorem Field.read_write {f : Field} (h : f.Fits) (rest : Bytes) :
    Field.read (f.write ++ rest) = .ok (f, rest) := by
  have hlt := f.value.wireType_lt
  have hmod : (f.number * 8 + f.value.wireType) % 8 = f.value.wireType := by omega
  have hdiv : (f.number * 8 + f.value.wireType) / 8 = f.number := by omega
  rw [Field.read, Field.write, List.append_assoc, readNumber_writeVarint h.1]
  show (Value.read ((f.number * 8 + f.value.wireType) % 8) (f.value.write ++ rest) >>= fun r =>
    .ok ((⟨(f.number * 8 + f.value.wireType) / 8, r.1⟩ : Field), r.2)) = _
  rw [hmod, hdiv, Value.read_write h.2]
  rfl

theorem Field.write_ne_nil (f : Field) : f.write ≠ [] := by
  rw [Field.write]
  exact List.append_ne_nil_of_left_ne_nil (writeVarint_ne_nil _) _

theorem fold_writes {σ : Type} (step : σ → Field → Except Fault σ) {fs : List Field}
    (h : ∀ f ∈ fs, f.Fits) (s : σ) (fuel : Nat)
    (hfuel : (fs.flatMap Field.write).length ≤ fuel) :
    fold step fuel s (fs.flatMap Field.write) = fs.foldlM step s := by
  induction fs generalizing s fuel with
  | nil => cases fuel <;> rfl
  | cons f fs ih =>
    rw [List.flatMap_cons, List.length_append] at hfuel
    have hpos := List.length_pos_of_ne_nil f.write_ne_nil
    obtain ⟨fuel, rfl⟩ : ∃ k, fuel = k + 1 := ⟨fuel - 1, by omega⟩
    have hread := Field.read_write (h f (by simp)) (fs.flatMap Field.write)
    have hne : f.write ++ fs.flatMap Field.write ≠ [] :=
      List.append_ne_nil_of_left_ne_nil f.write_ne_nil _
    rw [List.flatMap_cons, List.foldlM_cons]
    obtain ⟨b, bs, hb⟩ := List.exists_cons_of_ne_nil hne
    rw [hb] at hread ⊢
    show (Field.read (b :: bs) >>= fun r => step s r.1 >>= fun t => fold step fuel t r.2) = _
    rw [hread]
    show (step s f >>= fun t => fold step fuel t (fs.flatMap Field.write)) = _
    congr 1
    funext t
    exact ih (fun g hg => h g (List.mem_cons_of_mem _ hg)) t fuel (by omega)

/-- A message does to a value what its fields do one after the other. -/
theorem message_writes {σ : Type} (step : σ → Field → Except Fault σ) {fs : List Field}
    (h : ∀ f ∈ fs, f.Fits) (s : σ) :
    message step s (fs.flatMap Field.write) = fs.foldlM step s :=
  fold_writes step h s _ le_rfl

/-! ## Packed numbers -/

theorem length_writeVarint_le (limit n : Nat) (h : n < 128 ^ (limit + 1)) :
    (writeVarint n).length ≤ limit + 1 := by
  induction limit generalizing n with
  | zero =>
    rw [writeVarint, if_pos (by simpa using h)]
    simp
  | succ limit ih =>
    rw [writeVarint]
    by_cases hn : n < 128
    · simp [hn]
    · have hdiv : n / 128 < 128 ^ (limit + 1) := by
        rw [Nat.div_lt_iff_lt_mul (by decide), ← Nat.pow_succ]
        exact h
      have hrest := ih (n / 128) hdiv
      rw [if_neg hn, List.length_cons]
      omega

theorem packed_writes {ns : List Nat} (h : ∀ n ∈ ns, n < UInt64.size) (fuel : Nat)
    (hfuel : (ns.flatMap writeVarint).length ≤ fuel) :
    packed fuel (ns.flatMap writeVarint) = .ok ns := by
  induction ns generalizing fuel with
  | nil => cases fuel <;> rfl
  | cons n ns ih =>
    rw [List.flatMap_cons, List.length_append] at hfuel
    have hpos := List.length_pos_of_ne_nil (writeVarint_ne_nil n)
    obtain ⟨fuel, rfl⟩ : ∃ k, fuel = k + 1 := ⟨fuel - 1, by omega⟩
    have hread := readNumber_writeVarint (h n (by simp)) (ns.flatMap writeVarint)
    have hrest := ih (fun m hm => h m (by simp [hm])) fuel (by omega)
    have hne : writeVarint n ++ ns.flatMap writeVarint ≠ [] :=
      List.append_ne_nil_of_left_ne_nil (writeVarint_ne_nil n) _
    rw [List.flatMap_cons]
    obtain ⟨b, bs, hb⟩ := List.exists_cons_of_ne_nil hne
    rw [hb] at hread ⊢
    show (readNumber (b :: bs) >>= fun r => packed fuel r.2 >>= fun ms => .ok (r.1 :: ms)) = _
    rw [hread]
    show (packed fuel (ns.flatMap writeVarint) >>= fun ms => .ok (n :: ms)) = _
    rw [hrest]
    rfl

/-! ## What reading gives -/

theorem lt_of_readNumber {b rest : Bytes} {n : Nat} (h : readNumber b = .ok (n, rest)) :
    n < UInt64.size := by
  simp only [readNumber, readVarint] at h
  cases hg : groups maxVarint b with
  | none => simp [hg] at h
  | some p =>
    simp only [hg, Option.map_some, Except.ok.injEq, Prod.mk.injEq] at h
    rw [← h.1]
    exact Nat.mod_lt _ (by decide)

theorem length_of_takeBytes {n : Nat} {b front rest : Bytes}
    (h : takeBytes n b = .ok (front, rest)) : front.length = n := by
  rw [takeBytes] at h
  split_ifs at h with hn
  simp only [Except.ok.injEq, Prod.mk.injEq] at h
  rw [← h.1, List.length_take_of_le hn]

/-- A value that was read is one that its form can hold. -/
theorem Value.fits_of_read {wireType : Nat} {b rest : Bytes} {v : Value}
    (h : Value.read wireType b = .ok (v, rest)) : v.Fits := by
  unfold Value.read at h
  split at h
  · obtain ⟨p, hn, h⟩ := bind_eq_ok_iff.mp h
    obtain ⟨rfl, -⟩ := Prod.mk.inj (Except.ok.inj h)
    exact lt_of_readNumber hn
  · obtain ⟨p, hf, h⟩ := bind_eq_ok_iff.mp h
    obtain ⟨rfl, -⟩ := Prod.mk.inj (Except.ok.inj h)
    exact length_of_takeBytes hf
  · obtain ⟨p, hn, h⟩ := bind_eq_ok_iff.mp h
    obtain ⟨q, hf, h⟩ := bind_eq_ok_iff.mp h
    obtain ⟨rfl, -⟩ := Prod.mk.inj (Except.ok.inj h)
    show q.1.length < UInt64.size
    rw [length_of_takeBytes hf]
    exact lt_of_readNumber hn
  · obtain ⟨p, hf, h⟩ := bind_eq_ok_iff.mp h
    obtain ⟨rfl, -⟩ := Prod.mk.inj (Except.ok.inj h)
    exact length_of_takeBytes hf
  · simp at h

theorem Field.fits_of_read {b rest : Bytes} {f : Field} (h : Field.read b = .ok (f, rest)) :
    f.value.Fits := by
  obtain ⟨p, -, h⟩ := bind_eq_ok_iff.mp h
  obtain ⟨q, hv, h⟩ := bind_eq_ok_iff.mp h
  obtain ⟨rfl, -⟩ := Prod.mk.inj (Except.ok.inj h)
  exact Value.fits_of_read hv

/-- What every field keeps, a message keeps. -/
theorem fold_keeps {σ : Type} {step : σ → Field → Except Fault σ} {P : σ → Prop}
    (hstep : ∀ s f t, P s → f.value.Fits → step s f = .ok t → P t) (fuel : Nat) {s t : σ}
    {b : Bytes} (hs : P s) (h : fold step fuel s b = .ok t) : P t := by
  induction fuel generalizing s b with
  | zero =>
    cases b with
    | nil =>
      simp only [fold, Except.ok.injEq] at h
      exact h ▸ hs
    | cons x b => simp [fold] at h
  | succ fuel ih =>
    cases b with
    | nil =>
      simp only [fold, Except.ok.injEq] at h
      exact h ▸ hs
    | cons x b =>
      obtain ⟨p, hf, h⟩ := bind_eq_ok_iff.mp (show (Field.read (x :: b) >>= fun p =>
        step s p.1 >>= fun u => fold step fuel u p.2) = .ok t from h)
      obtain ⟨u, hu, h⟩ := bind_eq_ok_iff.mp h
      exact ih (hstep s p.1 u hs (Field.fits_of_read hf) hu) h

end Callwire.Protobuf
