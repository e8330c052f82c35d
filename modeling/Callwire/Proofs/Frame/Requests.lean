import Callwire.Proofs.Frame.Named

/-!
# What a server makes of a request

A server looks for the first terminator of a frame, reads what stands before it as a
name, and then the id. A request with a name that can be framed is read back as it was
written, and whatever is read is written in one way only.
-/

set_option autoImplicit false

namespace Callwire.Request
open Callwire.Frame

theorem encode_of_checkName {r : Request} (h : checkName r.name = .ok ()) :
    r.encode =
      .ok (Bytes.ofString r.name ++ terminator :: (Bytes.ofWord r.id.toUInt32 ++ r.payload)) := by
  simp only [encode, h]
  rfl

theorem checkName_of_encode {r : Request} {b : Bytes} (h : r.encode = .ok b) :
    checkName r.name = .ok () := by
  cases hc : checkName r.name with
  | ok u => rfl
  | error e =>
    simp only [encode, hc] at h
    cases h

theorem decode_of_encode {r : Request} {b : Bytes} (h : r.encode = .ok b) : decode b = .ok r := by
  have hc := checkName_of_encode h
  rw [encode_of_checkName hc, Except.ok.injEq] at h
  subst h
  have hfront : ∀ x ∈ Bytes.ofString r.name, (x == terminator) = false := by
    intro x hx
    have hne := ((checkName_eq_ok_iff r.name).mp hc).2
    rw [beq_eq_false_iff_ne]
    rintro rfl
    exact hne hx
  have hcut := cut_append hfront (x := terminator) (by decide)
    (Bytes.ofWord r.id.toUInt32 ++ r.payload)
  simp only [decode, hcut, nameOf, Bytes.toString?_ofString, Bytes.word?_ofWord]
  show Except.ok (⟨r.name, r.id.toUInt32.toInt32, r.payload⟩ : Request) = .ok r
  simp

theorem encode_injective {r s : Request} {b : Bytes} (hr : r.encode = .ok b)
    (hs : s.encode = .ok b) : r = s := by
  have h := decode_of_encode hr
  rw [decode_of_encode hs, Except.ok.injEq] at h
  exact h.symm

def Split (b front back : Bytes) : Prop :=
  terminator ∉ front ∧ b = front ++ terminator :: back

theorem cut_eq_some_iff (b front back : Bytes) :
    cut (· == terminator) b = some (front, back) ↔ Split b front back := by
  constructor
  · intro h
    obtain ⟨x, hx, rfl, hfront⟩ := eq_of_cut h
    rw [beq_iff_eq] at hx
    subst hx
    refine ⟨fun hmem => ?_, rfl⟩
    have hne := hfront _ hmem
    simp at hne
  · rintro ⟨hfront, rfl⟩
    refine cut_append (fun y hy => ?_) (by simp) back
    rw [beq_eq_false_iff_ne]
    rintro rfl
    exact hfront hy

theorem cut_terminator_eq_none_iff (b : Bytes) :
    cut (· == terminator) b = none ↔ terminator ∉ b := by
  rw [cut_eq_none_iff]
  constructor
  · intro h hmem
    simpa using h _ hmem
  · intro h x hx
    rw [beq_eq_false_iff_ne]
    rintro rfl
    exact h hx

/-- What is read of a frame with a name and an end of it. -/
theorem decode_of_split {b back : Bytes} {name : String}
    (h : Split b (Bytes.ofString name) back) :
    decode b = match Bytes.word? back with
      | none => .error .truncated
      | some (id, payload) => .ok ⟨name, id.toInt32, payload⟩ := by
  have hcut := (cut_eq_some_iff b _ back).mpr h
  simp only [decode, hcut, nameOf, Bytes.toString?_ofString]
  cases Bytes.word? back <;> rfl

theorem decode_of_not_text {b front back : Bytes} (h : Split b front back)
    (hno : ∀ name, Bytes.ofString name ≠ front) : decode b = .error .nameNotUtf8 := by
  have hcut := (cut_eq_some_iff b front back).mpr h
  have hname := (Bytes.toString?_eq_none_iff front).mpr hno
  simp only [decode, hcut, nameOf, hname]
  rfl

theorem decode_of_no_end {b : Bytes} (h : terminator ∉ b) :
    decode b = .error .missingTerminator := by
  simp only [decode, (cut_terminator_eq_none_iff b).mpr h]

/-- A frame has no end of its name, or a front that is no text, or a name. -/
theorem split_cases (b : Bytes) : terminator ∉ b ∨
    (∃ front back, Split b front back ∧ ∀ name, Bytes.ofString name ≠ front) ∨
      ∃ name back, Split b (Bytes.ofString name) back := by
  cases hcut : cut (· == terminator) b with
  | none => exact Or.inl ((cut_terminator_eq_none_iff b).mp hcut)
  | some p =>
    obtain ⟨front, back⟩ := p
    have hsplit := (cut_eq_some_iff b front back).mp hcut
    by_cases htext : ∃ name, Bytes.ofString name = front
    · obtain ⟨name, rfl⟩ := htext
      exact Or.inr (Or.inr ⟨name, back, hsplit⟩)
    · exact Or.inr (Or.inl ⟨front, back, hsplit, fun name h => htext ⟨name, h⟩⟩)

theorem decode_missing_iff (b : Bytes) :
    decode b = .error .missingTerminator ↔ terminator ∉ b := by
  refine ⟨fun h => ?_, decode_of_no_end⟩
  rcases split_cases b with hnone | ⟨front, back, hsplit, hno⟩ | ⟨name, back, hsplit⟩
  · exact hnone
  · rw [decode_of_not_text hsplit hno] at h
    cases h
  · rw [decode_of_split hsplit] at h
    cases hw : Bytes.word? back <;> rw [hw] at h <;> cases h

theorem decode_nameNotUtf8_iff (b : Bytes) : decode b = .error .nameNotUtf8 ↔
    ∃ front back, Split b front back ∧ ∀ name, Bytes.ofString name ≠ front := by
  constructor
  · intro h
    rcases split_cases b with hnone | hfront | ⟨name, back, hsplit⟩
    · rw [decode_of_no_end hnone] at h
      cases h
    · exact hfront
    · rw [decode_of_split hsplit] at h
      cases hw : Bytes.word? back <;> rw [hw] at h <;> cases h
  · rintro ⟨front, back, hsplit, hno⟩
    exact decode_of_not_text hsplit hno

theorem decode_truncated_iff (b : Bytes) : decode b = .error .truncated ↔
    ∃ name back, Split b (Bytes.ofString name) back ∧ back.length < 4 := by
  constructor
  · intro h
    rcases split_cases b with hnone | ⟨front, back, hsplit, hno⟩ | ⟨name, back, hsplit⟩
    · rw [decode_of_no_end hnone] at h
      cases h
    · rw [decode_of_not_text hsplit hno] at h
      cases h
    · refine ⟨name, back, hsplit, (Bytes.word?_eq_none_iff back).mp ?_⟩
      rw [decode_of_split hsplit] at h
      cases hw : Bytes.word? back with
      | none => rfl
      | some p =>
        rw [hw] at h
        cases h
  · rintro ⟨name, back, hsplit, hlen⟩
    rw [decode_of_split hsplit, (Bytes.word?_eq_none_iff back).mpr hlen]

theorem decode_eq_ok_iff (b : Bytes) (r : Request) : decode b = .ok r ↔
    Split b (Bytes.ofString r.name) (Bytes.ofWord r.id.toUInt32 ++ r.payload) := by
  constructor
  · intro h
    rcases split_cases b with hnone | ⟨front, back, hsplit, hno⟩ | ⟨name, back, hsplit⟩
    · rw [decode_of_no_end hnone] at h
      cases h
    · rw [decode_of_not_text hsplit hno] at h
      cases h
    · rw [decode_of_split hsplit] at h
      cases hw : Bytes.word? back with
      | none =>
        rw [hw] at h
        cases h
      | some p =>
        rw [hw] at h
        cases h
        rw [Bytes.ofWord_of_word? hw] at hsplit
        simpa using hsplit
  · intro h
    rw [decode_of_split h, Bytes.word?_ofWord]
    simp

/-- What was read is written in the same way, unless it has no name. -/
theorem encode_of_decode {b : Bytes} {r : Request} (h : decode b = .ok r) :
    r.encode = if r.name = "" then .error .emptyName else .ok b := by
  obtain ⟨hfront, hb⟩ := (decode_eq_ok_iff b r).mp h
  split_ifs with hname
  · simp only [encode, checkName, hname, if_true]
    rfl
  · rw [encode_of_checkName ((checkName_eq_ok_iff r.name).mpr ⟨hname, hfront⟩), hb]

/-- Reading on the server's side is exact: what was written for it is read as it was
meant, what is read is what the bytes hold, and each fault has its one cause. -/
theorem server_reads_exactly :
    (∀ r : Request, checkName r.name = .ok () → ∃ b, r.encode = .ok b ∧ decode b = .ok r) ∧
    (∀ (b : Bytes) (r : Request), decode b = .ok r →
      b = Bytes.ofString r.name ++ terminator :: (Bytes.ofWord r.id.toUInt32 ++ r.payload) ∧
      r.encode = if r.name = "" then .error .emptyName else .ok b) ∧
    (∀ b, decode b = .error .missingTerminator ↔ terminator ∉ b) ∧
    (∀ b, decode b = .error .nameNotUtf8 ↔
      ∃ front back, Split b front back ∧ ∀ name, Bytes.ofString name ≠ front) ∧
    (∀ b, decode b = .error .truncated ↔
      ∃ name back, Split b (Bytes.ofString name) back ∧ back.length < 4) ∧
    ∀ b e, decode b = .error e → e = .missingTerminator ∨ e = .nameNotUtf8 ∨ e = .truncated := by
  refine ⟨fun r hname => ?_, fun b r h => ?_, decode_missing_iff, decode_nameNotUtf8_iff,
    decode_truncated_iff, fun b e h => ?_⟩
  · have hencode := encode_of_checkName hname
    exact ⟨_, hencode, decode_of_encode hencode⟩
  · exact ⟨((decode_eq_ok_iff b r).mp h).2, encode_of_decode h⟩
  · rcases split_cases b with hnone | ⟨front, back, hsplit, hno⟩ | ⟨name, back, hsplit⟩
    · rw [decode_of_no_end hnone] at h
      cases h
      exact Or.inl rfl
    · rw [decode_of_not_text hsplit hno] at h
      cases h
      exact Or.inr (Or.inl rfl)
    · rw [decode_of_split hsplit] at h
      cases hw : Bytes.word? back <;> rw [hw] at h <;> cases h
      exact Or.inr (Or.inr rfl)

/-- The lowest id and a payload, both with terminators in them. -/
theorem server_reads_lowest_id :
    checkName "say" = .ok () ∧
      decode [115, 97, 121, 0, 128, 0, 0, 0, 0, 1] = .ok ⟨"say", Int32.minValue, [0, 1]⟩ ∧
      Request.encode ⟨"say", Int32.minValue, [0, 1]⟩ =
        .ok [115, 97, 121, 0, 128, 0, 0, 0, 0, 1] := by
  obtain ⟨hwrite, hread, -⟩ := server_reads_exactly
  obtain ⟨b, hencode, hdecode⟩ := hwrite ⟨"say", Int32.minValue, [0, 1]⟩ rfl
  obtain ⟨hb, -⟩ := hread b _ hdecode
  have hbytes : b = [115, 97, 121, 0, 128, 0, 0, 0, 0, 1] := by rw [hb]; rfl
  subst hbytes
  exact ⟨rfl, hdecode, hencode⟩

end Callwire.Request
