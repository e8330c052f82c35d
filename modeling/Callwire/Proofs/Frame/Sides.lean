import Callwire.Proofs.Frame.Named

/-!
# What a client makes of a frame

A client takes a frame with a name for a push and any other for a response. The
first byte of a response is a stop exactly for the ids of three bytes and their
negations, and no name starts with one. Reading is therefore exact in both
directions.
-/

set_option autoImplicit false

namespace Callwire.Frame

def lead (id : Int32) : UInt8 := UInt8.ofNat (id.toUInt32.toNat / 16777216)

theorem id_toInt (id : Int32) :
    id.toInt = if id.toUInt32.toNat < 2 ^ 31 then (id.toUInt32.toNat : Int)
      else id.toUInt32.toNat - 2 ^ 32 := by
  have h : id.toInt = id.toBitVec.toInt := rfl
  rw [h, BitVec.toInt_eq_toNat_cond]
  have hn : id.toBitVec.toNat = id.toUInt32.toNat := rfl
  rw [hn]
  split_ifs <;> omega

theorem stop_lead_iff (id : Int32) :
    Stop (lead id) ↔ -(2 ^ 24) ≤ id.toInt ∧ id.toInt < 2 ^ 24 := by
  have hlt := id.toUInt32.toNat_lt
  have h0 : lead id = terminator ↔ id.toUInt32.toNat < 2 ^ 24 := by
    rw [← UInt8.toNat_inj, lead, UInt8.toNat_ofNat', show terminator.toNat = 0 from rfl]
    omega
  have h1 : lead id = failureLead ↔ 2 ^ 32 - 2 ^ 24 ≤ id.toUInt32.toNat := by
    rw [← UInt8.toNat_inj, lead, UInt8.toNat_ofNat', show failureLead.toNat = 255 from rfl]
    omega
  rw [Stop, h0, h1, id_toInt]
  split_ifs <;> omega

theorem encode_eq_lead_cons (r : Response) : ∃ rest, r.encode = lead r.id :: rest :=
  ⟨_, rfl⟩

theorem response_named_eq_none_iff (r : Response) :
    named r.encode = none ↔
      (-(2 ^ 24) ≤ r.id.toInt ∧ r.id.toInt < 2 ^ 24) ∨ ∀ x ∈ r.encode, ¬ Stop x := by
  obtain ⟨rest, hr⟩ := encode_eq_lead_cons r
  rw [hr, named_cons_eq_none_iff, stop_lead_iff]

theorem response_decode_eq_ok_iff (b : Bytes) (r : Response) :
    Response.decode b = .ok r ↔ r.encode = b := by
  constructor
  · intro h
    unfold Response.decode at h
    cases hw : Bytes.word? b with
    | none => rw [hw] at h; cases h
    | some p =>
      rw [hw] at h
      cases h
      rw [Bytes.ofWord_of_word? hw, Response.encode]
      simp
  · rintro rfl
    exact Response.decode_encode r

theorem response_decode_eq_error_iff (b : Bytes) (e : FrameError) :
    Response.decode b = .error e ↔ e = .truncated ∧ b.length < 4 := by
  rw [← Bytes.word?_eq_none_iff]
  unfold Response.decode
  cases hw : Bytes.word? b with
  | none => simp [eq_comm]
  | some p => simp

theorem client_of_named_none {b : Bytes} (h : named b = none) :
    decode .client b = .response <$> Response.decode b := by
  simp only [decode, h]

theorem client_of_named_some {b front back : Bytes} (h : named b = some (front, back)) :
    decode .client b = match Bytes.toString? front with
      | some name => .ok (.push ⟨name, back⟩)
      | none => .error .nameNotUtf8 := by
  simp only [decode, h, nameOf]
  cases Bytes.toString? front <;> rfl

theorem client_response_iff (b : Bytes) (r : Response) :
    decode .client b = .ok (.response r) ↔ named b = none ∧ r.encode = b := by
  cases hb : named b with
  | none =>
    rw [client_of_named_none hb, ← response_decode_eq_ok_iff]
    cases Response.decode b with
    | error e => simp [Functor.map, Except.map]
    | ok s => simp [Functor.map, Except.map]
  | some p =>
    rw [client_of_named_some hb]
    cases Bytes.toString? p.1 <;> simp

theorem client_push_iff (b : Bytes) (p : Push) :
    decode .client b = .ok (.push p) ↔ Named b (Bytes.ofString p.name) p.payload := by
  rw [← named_eq_some_iff]
  cases hb : named b with
  | none =>
    rw [client_of_named_none hb]
    cases Response.decode b <;> simp [Functor.map, Except.map]
  | some q =>
    obtain ⟨front, back⟩ := q
    rw [client_of_named_some hb]
    cases hf : Bytes.toString? front with
    | none =>
      have hno := (Bytes.toString?_eq_none_iff front).mp hf p.name
      simp [hno.symm]
    | some name =>
      have hname := Bytes.ofString_of_toString? hf
      subst hname
      constructor
      · intro h
        cases h
        rfl
      · intro h
        rw [Option.some.injEq, Prod.mk.injEq] at h
        rw [Bytes.ofString_injective h.1, h.2]

theorem client_of_push {p : Push} {b : Bytes} (h : p.encode = .ok b) :
    decode .client b = .ok (.push p) := by
  have hname : checkName p.name = .ok () := by
    cases hn : checkName p.name with
    | ok u => rfl
    | error e =>
      simp only [Push.encode, hn] at h
      cases h
  have hnamed := named_of_checkName hname p.payload
  rw [encode_push hname, Except.ok.injEq] at h
  exact (client_push_iff b p).mpr (h ▸ hnamed)

theorem client_response {r : Response} (h : -(2 ^ 24) ≤ r.id.toInt ∧ r.id.toInt < 2 ^ 24) :
    decode .client r.encode = .ok (.response r) :=
  (client_response_iff _ r).mpr ⟨(response_named_eq_none_iff r).mpr (Or.inl h), rfl⟩

theorem client_nameNotUtf8_iff (b : Bytes) :
    decode .client b = .error .nameNotUtf8 ↔
      ∃ front back, Named b front back ∧ ∀ name, Bytes.ofString name ≠ front := by
  cases hb : named b with
  | none =>
    have hno := (named_eq_none_iff b).mp hb
    have herr := response_decode_eq_error_iff b .nameNotUtf8
    rw [client_of_named_none hb]
    constructor
    · intro h
      cases hd : Response.decode b with
      | error e => rw [hd] at h; cases h; exact absurd (herr.mp hd).1 (by simp)
      | ok r => rw [hd] at h; cases h
    · rintro ⟨front, back, hn, -⟩
      exact absurd ⟨front, back, hn⟩ hno
  | some q =>
    obtain ⟨front, back⟩ := q
    rw [client_of_named_some hb]
    constructor
    · intro h
      cases hf : Bytes.toString? front with
      | none =>
        exact ⟨front, back, (named_eq_some_iff b front back).mp hb,
          (Bytes.toString?_eq_none_iff front).mp hf⟩
      | some name => rw [hf] at h; cases h
    · rintro ⟨front', back', hn, hno⟩
      have heq := (named_eq_some_iff b front' back').mpr hn
      rw [hb, Option.some.injEq, Prod.mk.injEq] at heq
      obtain ⟨rfl, rfl⟩ := heq
      rw [(Bytes.toString?_eq_none_iff front).mpr hno]

theorem client_truncated_iff (b : Bytes) :
    decode .client b = .error .truncated ↔
      (¬ ∃ front back, Named b front back) ∧ b.length < 4 := by
  cases hb : named b with
  | none =>
    have hno := (named_eq_none_iff b).mp hb
    have herr := response_decode_eq_error_iff b .truncated
    rw [client_of_named_none hb, and_iff_right hno]
    cases hd : Response.decode b with
    | error e =>
      rw [hd] at herr
      simpa [Functor.map, Except.map] using herr
    | ok r =>
      rw [hd] at herr
      simpa [Functor.map, Except.map] using herr
  | some q =>
    have hn := (named_eq_some_iff b q.1 q.2).mp hb
    rw [client_of_named_some hb]
    constructor
    · intro h
      cases hf : Bytes.toString? q.1 <;> rw [hf] at h <;> cases h
    · rintro ⟨hno, -⟩
      exact absurd ⟨q.1, q.2, hn⟩ hno

theorem toInt_neg_of_pos {id : Int32} (h : 1 ≤ id.toInt) : (-id).toInt = -id.toInt := by
  have hlt := id.toInt_lt
  rw [Int32.toInt_neg]
  exact Int.bmod_eq_of_le (by omega) (by omega)

/-- Reading on the client's side is exact: what was written for it is read as it
was meant, and what is read is what the bytes hold. -/
theorem client_reads_exactly :
    (∀ (id : Int32) (name : String) (payload : Bytes), 1 ≤ id.toInt → id.toInt ≤ maxId →
      checkName name = .ok () →
      decode .client (Response.success id payload).encode = .ok (.response ⟨id, payload⟩) ∧
      decode .client (Response.failure id payload).encode = .ok (.response ⟨-id, payload⟩) ∧
      ∃ b, Push.encode ⟨name, payload⟩ = .ok b ∧
        decode .client b = .ok (.push ⟨name, payload⟩)) ∧
    (∀ r : Response, decode .client r.encode = .ok (.response r) ↔
      (-(2 ^ 24) ≤ r.id.toInt ∧ r.id.toInt < 2 ^ 24) ∨ ∀ x ∈ r.encode, ¬ Stop x) ∧
    (∀ (b : Bytes) (r : Response), decode .client b = .ok (.response r) → r.encode = b) ∧
    (∀ (b : Bytes) (p : Push), decode .client b = .ok (.push p) → checkName p.name = .ok () ∧
      ∃ x, Stop x ∧ b = Bytes.ofString p.name ++ x :: p.payload) ∧
    (∀ b, decode .client b = .error .nameNotUtf8 ↔
      ∃ front back, Named b front back ∧ ∀ name, Bytes.ofString name ≠ front) ∧
    (∀ b, decode .client b = .error .truncated ↔
      (¬ ∃ front back, Named b front back) ∧ b.length < 4) := by
  have hresponse : ∀ r : Response, decode .client r.encode = .ok (.response r) ↔
      (-(2 ^ 24) ≤ r.id.toInt ∧ r.id.toInt < 2 ^ 24) ∨ ∀ x ∈ r.encode, ¬ Stop x := by
    intro r
    rw [client_response_iff, and_iff_left rfl, response_named_eq_none_iff]
  refine ⟨?_, hresponse, ?_, ?_, client_nameNotUtf8_iff, client_truncated_iff⟩
  · intro id name payload h1 hmax hname
    rw [show (maxId : Int) = 16777215 from rfl] at hmax
    have hneg := toInt_neg_of_pos h1
    refine ⟨client_response ⟨?_, ?_⟩, client_response ⟨?_, ?_⟩, _, encode_push hname payload, ?_⟩
    · show -(2 ^ 24) ≤ id.toInt
      omega
    · show id.toInt < 2 ^ 24
      omega
    · show -(2 ^ 24) ≤ (-id).toInt
      omega
    · show (-id).toInt < 2 ^ 24
      omega
    · exact (client_push_iff _ ⟨name, payload⟩).mpr (named_of_checkName hname payload)
  · intro b r h
    exact ((client_response_iff b r).mp h).2
  · intro b p h
    obtain ⟨hne, hfront, hstop⟩ := (client_push_iff b p).mp h
    exact ⟨checkName_of_front hne hfront, hstop⟩

/-- The highest id, with a payload and a name that hold the other stop. -/
theorem client_reads_highest_id :
    (1 ≤ (16777215 : Int32).toInt ∧ (16777215 : Int32).toInt ≤ maxId ∧
      checkName "tick" = .ok ()) ∧
    decode .client (Response.failure 16777215 [255, 0]).encode =
      .ok (.response ⟨-16777215, [255, 0]⟩) ∧
    decode .client [116, 105, 99, 107, 0, 255] = .ok (.push ⟨"tick", [255]⟩) := by
  have h := client_reads_exactly.1 16777215 "tick" [255, 0] (by decide) (by decide) rfl
  refine ⟨⟨by decide, by decide, rfl⟩, h.2.1, ?_⟩
  obtain ⟨b, hb, hd⟩ := (client_reads_exactly.1 1 "tick" [255] (by decide) (by decide) rfl).2.2
  have heq : b = [116, 105, 99, 107, 0, 255] := by
    rw [encode_push rfl, Except.ok.injEq] at hb
    rw [← hb]
    rfl
  rwa [heq] at hd

end Callwire.Frame
