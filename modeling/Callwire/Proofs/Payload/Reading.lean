import Callwire.Proofs.Json.Records
import Callwire.Proofs.Payload.Failures
import Callwire.Proofs.Text.Utf8
import Callwire.Sample.Payloads

/-!
# Payloads are read back

Whatever is written for a value of a payload type is read back as that value.
Two bounds come from what memory can hold: the length of a text or of a list of
numbers is written as a number of 64 bits, and no object in memory is longer
than the largest signed one.
-/

set_option autoImplicit false

namespace Callwire

def ReadsBack {α : Type} [Payload α] (a : α) : Prop :=
  ∃ b, Payload.encode a = .ok b ∧ Payload.decode b = .ok a

def maxHeld : Nat := 2 ^ 63 - 1

def Failure.IsHeld (f : Failure) : Prop := (Bytes.ofString f.error).length ≤ maxHeld

namespace Failure

theorem readsBack_of_lt {f : Failure} (h : (Bytes.ofString f.error).length < UInt64.size) :
    ReadsBack f :=
  ⟨f.bytes, rfl, decode_bytes h⟩

theorem readsBack {f : Failure} (h : f.IsHeld) : ReadsBack f :=
  readsBack_of_lt (lt_of_le_of_lt h (by decide))

theorem step_fits {f g : Failure} {x : Protobuf.Field}
    (hf : (Bytes.ofString f.error).length < UInt64.size) (hx : x.value.Fits)
    (h : step f x = .ok g) : (Bytes.ofString g.error).length < UInt64.size := by
  unfold step at h
  split_ifs at h
  · obtain ⟨s, hs, h⟩ := bind_eq_ok_iff.mp h
    obtain rfl := Except.ok.inj h
    cases hv : x.value with
    | bytes b =>
      rw [hv] at hs hx
      simp only [Protobuf.Value.toText] at hs
      cases hb : Bytes.toString? b with
      | none => simp [hb] at hs
      | some t =>
        simp only [hb, Except.ok.injEq] at hs
        subst hs
        show (Bytes.ofString t).length < UInt64.size
        rw [Bytes.ofString_of_toString? hb]
        exact hx
    | varint n => simp [hv, Protobuf.Value.toText] at hs
    | fixed64 b => simp [hv, Protobuf.Value.toText] at hs
    | fixed32 b => simp [hv, Protobuf.Value.toText] at hs
  · obtain rfl := Except.ok.inj h
    exact hf

/-- No bound is needed for a message that was read: its length was read as a
number of 64 bits. -/
theorem readsBack_of_decode {b : Bytes} {f : Failure} (h : Payload.decode b = .ok f) :
    ReadsBack f := by
  have hmessage : Protobuf.message step ⟨""⟩ b = .ok f := by
    simp only [Payload.decode] at h
    cases hm : Protobuf.message step ⟨""⟩ b with
    | error e => simp [hm] at h
    | ok g => simpa [hm] using h
  exact readsBack_of_lt (Protobuf.fold_keeps (P := fun f : Failure =>
    (Bytes.ofString f.error).length < UInt64.size) (fun _ _ _ => step_fits) b.length
    (show (Bytes.ofString "").length < UInt64.size by decide) hmessage)

end Failure

namespace Sample

theorem Msg.readsBack (m : Msg) : ReadsBack m := by
  refine ⟨shape.encode [.text m.text], rfl, ?_⟩
  have h : shape.decode (shape.encode [.text m.text]) = .ok [.text m.text] :=
    Json.Shape.decode_encode rfl (by decide)
  simp only [Payload.decode, h, ofScalars?]

theorem Price.readsBack (p : Price) : ReadsBack p := by
  refine ⟨shape.encode [.text p.symbol, .count p.cents], rfl, ?_⟩
  have h : shape.decode (shape.encode [.text p.symbol, .count p.cents]) =
      .ok [.text p.symbol, .count p.cents] :=
    Json.Shape.decode_encode rfl (by decide)
  simp only [Payload.decode, h, ofScalars?]

theorem Total.readsBack (t : Total) : ReadsBack t := by
  refine ⟨t.fields.flatMap Protobuf.Field.write, rfl, ?_⟩
  have hfits : ∀ x ∈ t.fields, x.Fits := by
    intro x hx
    by_cases ht : t.total = 0
    · simp [fields, ht] at hx
    · simp only [fields, ht, if_false, List.mem_singleton] at hx
      subst hx
      exact ⟨show 1 * 8 + 0 < UInt64.size by decide, t.total.toNat_lt⟩
  have hfold : t.fields.foldlM step ⟨0⟩ = .ok t := by
    by_cases ht : t.total = 0
    · cases t
      subst ht
      rfl
    · simp only [fields, ht, if_false]
      show Except.ok (⟨UInt64.ofNat t.total.toNat⟩ : Total) = .ok t
      rw [UInt64.ofNat_toNat]
  simp only [Payload.decode, Protobuf.message_writes step hfits, hfold]

namespace Sum

def IsHeld (s : Sum) : Prop := 4 * s.values.length ≤ maxHeld

def packed (s : Sum) : Bytes := s.values.flatMap fun v => Protobuf.writeVarint v.toNat

theorem length_packed_le (s : Sum) : s.packed.length ≤ 5 * s.values.length := by
  unfold packed
  induction s.values with
  | nil => simp
  | cons v vs ih =>
    have hv : v.toNat < 128 ^ (4 + 1) := v.toNat_lt.trans (by decide)
    have hlength := Protobuf.length_writeVarint_le 4 v.toNat hv
    simp only [List.flatMap_cons, List.length_append, List.length_cons]
    omega

theorem length_packed_lt {s : Sum} (h : s.IsHeld) : s.packed.length < UInt64.size := by
  have hle := s.length_packed_le
  have hheld : 4 * s.values.length ≤ 9223372036854775807 := h
  show s.packed.length < 18446744073709551616
  omega

theorem toNumbers_packed (s : Sum) :
    (Protobuf.Value.bytes s.packed).toNumbers = .ok (s.values.map (·.toNat)) := by
  have hlt : ∀ n ∈ s.values.map (·.toNat), n < UInt64.size := by
    intro n hn
    obtain ⟨v, -, rfl⟩ := List.mem_map.mp hn
    exact v.toNat_lt.trans (by decide)
  have hpacked : s.packed = (s.values.map (·.toNat)).flatMap Protobuf.writeVarint := by
    rw [packed, List.flatMap_map]
  show Protobuf.packed s.packed.length s.packed = _
  rw [hpacked]
  exact Protobuf.packed_writes hlt _ le_rfl

theorem map_ofNat_toNat (vs : List UInt32) : (vs.map (·.toNat)).map UInt32.ofNat = vs := by
  induction vs with
  | nil => rfl
  | cons v vs ih => simp only [List.map_cons, ih, UInt32.ofNat_toNat]

theorem fields_cases (s : Sum) :
    s.values = [] ∧ s.fields = [] ∨ (∃ v, s.values = [v] ∧ s.fields = [⟨1, .varint v.toNat⟩]) ∨
      s.fields = [⟨1, .bytes s.packed⟩] := by
  obtain ⟨values⟩ := s
  match values with
  | [] => exact .inl ⟨rfl, rfl⟩
  | [v] => exact .inr (.inl ⟨v, rfl, rfl⟩)
  | v :: w :: rest => exact .inr (.inr rfl)

theorem readsBack {s : Sum} (h : s.IsHeld) : ReadsBack s := by
  refine ⟨s.fields.flatMap Protobuf.Field.write, rfl, ?_⟩
  have hfits : ∀ x ∈ s.fields, x.Fits := by
    intro x hx
    rcases s.fields_cases with ⟨-, hf⟩ | ⟨v, -, hf⟩ | hf <;> rw [hf] at hx
    · simp at hx
    · obtain rfl := List.mem_singleton.mp hx
      exact ⟨show 1 * 8 + 0 < UInt64.size by decide, v.toNat_lt.trans (by decide)⟩
    · obtain rfl := List.mem_singleton.mp hx
      exact ⟨show 1 * 8 + 2 < UInt64.size by decide, length_packed_lt h⟩
  have hfold : s.fields.foldlM step ⟨[]⟩ = .ok s := by
    rcases s.fields_cases with ⟨hv, hf⟩ | ⟨v, hv, hf⟩ | hf <;> rw [hf]
    · cases s
      subst hv
      rfl
    · cases s
      subst hv
      show Except.ok (⟨[UInt32.ofNat v.toNat]⟩ : Sum) = _
      rw [UInt32.ofNat_toNat]
    · show (step ⟨[]⟩ ⟨1, .bytes s.packed⟩ >>= fun t => .ok t) = .ok s
      simp only [step, toNumbers_packed]
      show Except.ok (⟨(s.values.map (·.toNat)).map UInt32.ofNat⟩ : Sum) = .ok s
      rw [map_ofNat_toNat]
  simp only [Payload.decode, Protobuf.message_writes step hfits, hfold]

end Sum

/-- Every value of a payload type is written and read back. So is every value
that was read, whatever bytes it was read from. -/
theorem payloads_are_read_back :
    ((∀ m : Msg, ReadsBack m) ∧ (∀ p : Price, ReadsBack p) ∧ (∀ t : Total, ReadsBack t) ∧
      (∀ r : Raw, ReadsBack r) ∧ (∀ u : Unit, ReadsBack u) ∧
      (∀ f : Failure, f.IsHeld → ReadsBack f) ∧ ∀ s : Sum, s.IsHeld → ReadsBack s) ∧
    ∀ b : Bytes,
      (∀ m : Msg, Payload.decode b = .ok m → ReadsBack m) ∧
      (∀ p : Price, Payload.decode b = .ok p → ReadsBack p) ∧
      (∀ t : Total, Payload.decode b = .ok t → ReadsBack t) ∧
      (∀ r : Raw, Payload.decode b = .ok r → ReadsBack r) ∧
      (∀ u : Unit, Payload.decode b = .ok u → ReadsBack u) ∧
      (∀ f : Failure, Payload.decode b = .ok f → ReadsBack f) ∧
      ∀ s : Sum, Payload.decode b = .ok s → s.IsHeld → ReadsBack s := by
  have hraw : ∀ r : Raw, ReadsBack r := fun r => ⟨r.bytes, rfl, rfl⟩
  have hunit : ∀ u : Unit, ReadsBack u := fun _ => ⟨[], rfl, rfl⟩
  refine ⟨⟨Msg.readsBack, Price.readsBack, Total.readsBack, hraw, hunit,
    fun _ => Failure.readsBack, fun _ => Sum.readsBack⟩, fun b => ?_⟩
  exact ⟨fun m _ => m.readsBack, fun p _ => p.readsBack, fun t _ => t.readsBack,
    fun r _ => hraw r, fun u _ => hunit u, fun _ => Failure.readsBack_of_decode,
    fun _ _ => Sum.readsBack⟩

/-- The widest numbers side by side, and two fields that are joined when they
are written again. -/
theorem widest_numbers_are_read_back :
    (⟨[4294967295, 0, 128]⟩ : Sum).IsHeld ∧ ReadsBack (⟨[4294967295, 0, 128]⟩ : Sum) ∧
    (⟨"n\u0000"⟩ : Failure).IsHeld ∧ ReadsBack (⟨"n\u0000"⟩ : Failure) ∧
    Payload.decode [8, 255, 1, 10, 1, 7] = .ok (⟨[255, 7]⟩ : Sum) ∧ (⟨[255, 7]⟩ : Sum).IsHeld ∧
    ReadsBack (⟨[255, 7]⟩ : Sum) := by
  have hwide : (⟨[4294967295, 0, 128]⟩ : Sum).IsHeld := by
    show 4 * 3 ≤ maxHeld
    decide
  have htext : (⟨"n\u0000"⟩ : Failure).IsHeld := by
    show (Bytes.ofString "n\u0000").length ≤ maxHeld
    decide
  have hread : Payload.decode [8, 255, 1, 10, 1, 7] = .ok (⟨[255, 7]⟩ : Sum) := by rfl
  have hheld : (⟨[255, 7]⟩ : Sum).IsHeld := by
    show 4 * 2 ≤ maxHeld
    decide
  obtain ⟨-, -, -, -, -, hfailure, hsum⟩ := payloads_are_read_back.1
  obtain ⟨-, -, -, -, -, -, hagain⟩ := payloads_are_read_back.2 [8, 255, 1, 10, 1, 7]
  exact ⟨hwide, hsum _ hwide, htext, hfailure _ htext, hread, hheld, hagain _ hread hheld⟩

end Sample

end Callwire
