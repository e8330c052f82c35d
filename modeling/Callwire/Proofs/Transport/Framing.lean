import Callwire.Transport.Stream
import Mathlib.Tactic

/-!
# Messages in a buffer

What a framer takes off its buffer is decided by the front of it, so more bytes
at the back change nothing. A receive therefore finds what a single look at the
buffer and the pipe together would find, however much is read at once.
-/

set_option autoImplicit false

namespace Callwire.Stream.Framer

theorem frame_append_eq (m rest : Bytes) :
    frame m ++ rest = Bytes.ofWord (UInt32.ofNat m.length) ++ (m ++ rest) := by
  rw [frame, List.append_assoc]

theorem length_frame (m : Bytes) : (frame m).length = m.length + 4 := by
  rw [frame, List.length_append, Bytes.length_ofWord, Nat.add_comm]

theorem check_eq_ok_iff (f : Framer) (n : Nat) :
    f.check n = .ok () ↔ f.limit = 0 ∨ n ≤ f.limit := by
  unfold check
  split_ifs with h
  · constructor
    · intro hc
      cases hc
    · rintro (h0 | hn) <;> omega
  · constructor
    · intro _
      omega
    · intro _
      rfl

theorem check_of_lt {f : Framer} {n : Nat} (h0 : f.limit ≠ 0) (hlt : f.limit < n) :
    f.check n = .error (tooLong n) := by
  rw [check, if_pos ⟨h0, hlt⟩]

theorem encode_eq_ok_iff (f : Framer) (m b : Bytes) :
    f.encode m = .ok b ↔ (f.limit = 0 ∨ m.length ≤ f.limit) ∧ b = frame m := by
  rw [← check_eq_ok_iff]
  unfold encode
  cases f.check m.length with
  | ok u => simp [eq_comm]
  | error e => simp

def Fits (limit : Nat) (m : Bytes) : Prop := m.length < 2 ^ 32 ∧ (limit = 0 ∨ m.length ≤ limit)

theorem toNat_length {m : Bytes} (h : m.length < 2 ^ 32) :
    (UInt32.ofNat m.length).toNat = m.length := by
  rw [UInt32.toNat_ofNat']
  omega

/-- What is taken if the length and the rest of the buffer are known. -/
theorem take_of_word {f : Framer} {w : UInt32} {rest : Bytes}
    (h : Bytes.word? f.buffer = some (w, rest)) :
    f.take = match f.check w.toNat with
      | .error e => .error e
      | .ok () => if rest.length < w.toNat then .ok none
        else .ok (some (rest.take w.toNat, { f with buffer := rest.drop w.toNat })) := by
  unfold take
  cases hc : f.check w.toNat with
  | error e => simp only [h, hc]
  | ok u => simp only [h, hc]

theorem word_of_take {f : Framer} (h : f.take ≠ .ok none) :
    ∃ w rest, Bytes.word? f.buffer = some (w, rest) := by
  cases hw : Bytes.word? f.buffer with
  | none =>
    simp only [take, hw] at h
    exact absurd rfl h
  | some p => exact ⟨p.1, p.2, rfl⟩

theorem take_short {f : Framer} (h : f.buffer.length < 4) : f.take = .ok none := by
  simp only [take, (Bytes.word?_eq_none_iff f.buffer).mpr h]

theorem take_frame {f : Framer} {m rest : Bytes} (hm : Fits f.limit m)
    (hb : f.buffer = frame m ++ rest) : f.take = .ok (some (m, { f with buffer := rest })) := by
  have hw : Bytes.word? f.buffer = some (UInt32.ofNat m.length, m ++ rest) := by
    rw [hb, frame_append_eq, Bytes.word?_ofWord]
  rw [take_of_word hw, toNat_length hm.1, (check_eq_ok_iff f m.length).mpr hm.2]
  simp

/-- A buffer that ends inside an encoding holds no message yet. -/
theorem take_inside {f : Framer} {m rest : Bytes} (hm : Fits f.limit m)
    (hb : f.buffer ++ rest = frame m) (hr : rest ≠ []) : f.take = .ok none := by
  by_cases h4 : f.buffer.length < 4
  · exact take_short h4
  · obtain ⟨⟨w, back⟩, hw⟩ := Option.ne_none_iff_exists'.mp
      (mt (Bytes.word?_eq_none_iff f.buffer).mp h4)
    have hfront := Bytes.ofWord_of_word? hw
    have hsplit : Bytes.ofWord w ++ (back ++ rest) = Bytes.ofWord (UInt32.ofNat m.length) ++ m := by
      rw [← List.append_assoc, ← hfront, hb, frame]
    obtain ⟨-, hback⟩ := List.append_inj hsplit rfl
    have hword := congrArg Bytes.word? hsplit
    have hend : Bytes.word? (Bytes.ofWord (UInt32.ofNat m.length) ++ m) =
        some (UInt32.ofNat m.length, m) := Bytes.word?_ofWord _ _
    rw [Bytes.word?_ofWord, hend, Option.some.injEq, Prod.mk.injEq] at hword
    rw [take_of_word hw, hword.1, toNat_length hm.1, (check_eq_ok_iff f m.length).mpr hm.2]
    have hlen := congrArg List.length hback
    have hpos := List.length_pos_of_ne_nil hr
    rw [List.length_append] at hlen
    simp only [show back.length < m.length by omega, if_true]

theorem word?_append {b rest : Bytes} {w : UInt32} (h : Bytes.word? b = some (w, rest))
    (more : Bytes) : Bytes.word? (b ++ more) = some (w, rest ++ more) := by
  rw [Bytes.ofWord_of_word? h, List.append_assoc, Bytes.word?_ofWord]

def extend (f : Framer) (more : Bytes) : Framer := { f with buffer := f.buffer ++ more }

@[simp] theorem extend_nil (f : Framer) : f.extend [] = f := by
  rw [extend, List.append_nil]

@[simp] theorem extend_extend (f : Framer) (b c : Bytes) :
    (f.extend b).extend c = f.extend (b ++ c) := by
  simp only [extend, List.append_assoc]

theorem take_extend_of_word {f : Framer} {w : UInt32} {rest : Bytes}
    (h : Bytes.word? f.buffer = some (w, rest)) (more : Bytes) :
    (f.extend more).take = match f.check w.toNat with
      | .error e => .error e
      | .ok () => if (rest ++ more).length < w.toNat then .ok none
        else .ok (some ((rest ++ more).take w.toNat,
          { f with buffer := (rest ++ more).drop w.toNat })) :=
  take_of_word (f := f.extend more) (word?_append h more)

theorem take_extend_of_some {f g : Framer} {m : Bytes} (h : f.take = .ok (some (m, g)))
    (more : Bytes) : (f.extend more).take = .ok (some (m, g.extend more)) := by
  obtain ⟨w, rest, hw⟩ := word_of_take (f := f) (by rw [h]; simp)
  rw [take_of_word hw] at h
  rw [take_extend_of_word hw]
  cases hc : f.check w.toNat with
  | error e =>
    rw [hc] at h
    cases h
  | ok u =>
    rw [hc] at h
    by_cases hlt : rest.length < w.toNat
    · simp [hlt] at h
    · simp only [hlt, if_false, Except.ok.injEq, Option.some.injEq, Prod.mk.injEq] at h
      obtain ⟨rfl, rfl⟩ := h
      have hge : w.toNat ≤ rest.length := by omega
      have hnot : ¬ (rest ++ more).length < w.toNat := by
        rw [List.length_append]
        omega
      simp only [hnot, if_false, List.take_append_of_le_length hge,
        List.drop_append_of_le_length hge, extend]

theorem take_extend_of_error {f : Framer} {e : TransportFault} (h : f.take = .error e)
    (more : Bytes) : (f.extend more).take = .error e := by
  obtain ⟨w, rest, hw⟩ := word_of_take (f := f) (by rw [h]; simp)
  rw [take_of_word hw] at h
  rw [take_extend_of_word hw]
  cases hc : f.check w.toNat with
  | error e' =>
    rw [hc] at h
    exact h
  | ok u =>
    rw [hc] at h
    by_cases hlt : rest.length < w.toNat <;> simp [hlt] at h

def atEnd (buffer : Bytes) (writing : Bool) : Poll :=
  if writing then .waiting
  else if buffer.isEmpty then .finished
  else .failed (.plain .unexpectedEnd)

theorem receive_of_none {f : Framer} {p : Pipe} (n : Nat) (ht : f.take = .ok none)
    (hp : p.bytes = []) : receive (n + 1) f p = ((f, p), atEnd f.buffer p.writing) := by
  simp only [receive, ht, hp, atEnd]
  split_ifs <;> rfl

theorem receive_of_some {f g : Framer} {p : Pipe} {m : Bytes} (n : Nat)
    (ht : f.take = .ok (some (m, g))) : receive (n + 1) f p = ((g, p), .message m) := by
  simp only [receive, ht]

theorem receive_of_error {f : Framer} {p : Pipe} {e : TransportFault} (n : Nat)
    (ht : f.take = .error e) : receive (n + 1) f p = ((f, p), .failed e) := by
  simp only [receive, ht]

/-- One read, and the receive goes on. -/
theorem receive_read {f : Framer} {p : Pipe} (n : Nat) (ht : f.take = .ok none)
    (hp : p.bytes ≠ []) : receive (n + 1) f p =
      receive n (f.extend (p.bytes.take chunk)) { p with bytes := p.bytes.drop chunk } := by
  obtain ⟨b, rest, hb⟩ := List.exists_cons_of_ne_nil hp
  simp only [receive, ht, hb, extend]

theorem limit_take {f g : Framer} {m : Bytes} (h : f.take = .ok (some (m, g))) :
    g.limit = f.limit := by
  obtain ⟨w, rest, hw⟩ := word_of_take (f := f) (by rw [h]; simp)
  rw [take_of_word hw] at h
  cases hc : f.check w.toNat with
  | error e =>
    rw [hc] at h
    cases h
  | ok u =>
    rw [hc] at h
    by_cases hlt : rest.length < w.toNat
    · simp [hlt] at h
    · simp only [hlt, if_false, Except.ok.injEq, Option.some.injEq, Prod.mk.injEq] at h
      rw [← h.2]

theorem limit_receive (n : Nat) (f : Framer) (p : Pipe) :
    (receive n f p).1.1.limit = f.limit := by
  induction n generalizing f p with
  | zero => rfl
  | succ n ih =>
    cases ht : f.take with
    | error e => rw [receive_of_error n ht]
    | ok r =>
      cases r with
      | some r => rw [receive_of_some n ht, limit_take ht]
      | none =>
        by_cases hp : p.bytes = []
        · rw [receive_of_none n ht hp]
        · rw [receive_read n ht hp, ih]
          rfl

theorem drop_chunk_lt {b : Bytes} {n : Nat} (hb : b ≠ []) (h : b.length < n + 1) :
    (b.drop chunk).length < n := by
  have hpos := List.length_pos_of_ne_nil hb
  rw [List.length_drop, show chunk = 4096 from rfl]
  omega

/-- However many reads it takes, a receive is a look at the buffer with all of the
pipe behind it. -/
theorem receive_eq (n : Nat) (f : Framer) (p : Pipe) (h : p.bytes.length < n) :
    match (f.extend p.bytes).take with
    | .ok none =>
      receive n f p = ((f.extend p.bytes, { p with bytes := [] }),
        atEnd (f.extend p.bytes).buffer p.writing)
    | .ok (some (m, g)) =>
      ∃ k back, receive n f p = ((k, { p with bytes := back }), .message m) ∧ k.extend back = g
    | .error e =>
      ∃ k back, receive n f p = ((k, { p with bytes := back }), .failed e) ∧
        k.extend back = f.extend p.bytes := by
  induction n generalizing f p with
  | zero => omega
  | succ n ih =>
    cases ht : f.take with
    | error e =>
      rw [take_extend_of_error ht, receive_of_error n ht]
      exact ⟨f, p.bytes, rfl, rfl⟩
    | ok r =>
      cases r with
      | some r =>
        obtain ⟨m, g⟩ := r
        rw [take_extend_of_some ht, receive_of_some n ht]
        exact ⟨g, p.bytes, rfl, rfl⟩
      | none =>
        by_cases hp : p.bytes = []
        · rw [hp, extend_nil, ht, receive_of_none n ht hp, ← hp]
        · have hread := ih (f.extend (p.bytes.take chunk)) { p with bytes := p.bytes.drop chunk }
            (drop_chunk_lt hp h)
          rw [extend_extend, List.take_append_drop] at hread
          rw [receive_read n ht hp]
          exact hread

theorem take_too_long {f : Framer} {m rest : Bytes} {e : TransportFault}
    (hm : m.length < 2 ^ 32) (hb : f.buffer = frame m ++ rest) (he : f.check m.length = .error e) :
    f.take = .error e := by
  have hw : Bytes.word? f.buffer = some (UInt32.ofNat m.length, m ++ rest) := by
    rw [hb, frame_append_eq, Bytes.word?_ofWord]
  rw [take_of_word hw, toNat_length hm, he]

/-- Whatever message is received from encodings is the first of them. -/
theorem receive_front {n : Nat} {f f' : Framer} {p p' : Pipe} {m : Bytes}
    {ms : List Bytes} (hn : p.bytes.length < n) (h : receive n f p = ((f', p'), .message m))
    (hms : f.buffer ++ p.bytes = ms.flatMap frame) (hlen : ∀ x ∈ ms, x.length < 2 ^ 32) :
    ∃ rest, ms = m :: rest ∧ f'.buffer ++ p'.bytes = rest.flatMap frame := by
  have hreceive := receive_eq n f p hn
  cases ms with
  | nil =>
    have hshort : (f.extend p.bytes).take = .ok none := take_short (by
      show (f.buffer ++ p.bytes).length < 4
      rw [hms]
      decide)
    rw [hshort] at hreceive
    simp only [h, Prod.mk.injEq] at hreceive
    exact absurd hreceive.2 (by unfold atEnd; split_ifs <;> simp)
  | cons x rest =>
    have hbuffer : (f.extend p.bytes).buffer = frame x ++ rest.flatMap frame := by
      rw [← List.flatMap_cons, ← hms]
      rfl
    have hx := hlen x (by simp)
    cases hc : f.check x.length with
    | error e =>
      rw [take_too_long hx hbuffer hc] at hreceive
      obtain ⟨k, back, hr, -⟩ := hreceive
      rw [h, Prod.mk.injEq] at hr
      cases hr.2
    | ok u =>
      rw [take_frame (f := f.extend p.bytes) ⟨hx, (check_eq_ok_iff f x.length).mp hc⟩ hbuffer]
        at hreceive
      obtain ⟨k, back, hr, hk⟩ := hreceive
      rw [h, Prod.mk.injEq, Prod.mk.injEq, Poll.message.injEq] at hr
      obtain ⟨⟨rfl, rfl⟩, rfl⟩ := hr
      exact ⟨rest, rfl, congrArg Framer.buffer hk⟩

end Callwire.Stream.Framer
