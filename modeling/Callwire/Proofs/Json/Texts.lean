import Callwire.Json.Writer
import Mathlib.Tactic

/-!
# Texts in JSON are read back

Every byte of a text is written on its own, so reading goes byte by byte: what
one byte was written as is taken from the front and gives that byte again.
-/

set_option autoImplicit false

namespace Callwire.Json

theorem bind_read {α β : Type} {r : Reader α} {f : α → Reader β} {b rest : Bytes} {a : α}
    (h : r b = .ok (a, rest)) : (r >>= f) b = f a rest := by
  show (r b >>= fun p => f p.1 p.2) = _
  rw [h]
  rfl

theorem nextInText_cons (b : UInt8) (rest : Bytes) :
    nextInText (b :: rest) = .ok (b, rest) := rfl

/-! ## Escapes -/

theorem shortEscape_of_shortLetter {b c : UInt8} (h : shortLetter? b = some c) :
    shortEscape? c = some b := by
  unfold shortLetter? at h
  split_ifs at h with h1 h2 h3 h4 h5 h6 <;> simp only [Option.some.injEq] at h <;> subst h
  · rw [shortEscape?, if_pos (by simp [h1])]
  all_goals simp_all
  all_goals rfl

theorem plain_of_shortLetter {b : UInt8} (h : shortLetter? b = none) :
    b ≠ quote ∧ b ≠ backslash := by
  constructor <;> rintro rfl <;> exact absurd h (by decide)

theorem hexDigit_hexByte : ∀ n < 16, hexDigit? (hexByte n) = some n := by decide

theorem ofString_control : ∀ n < 32,
    Bytes.ofString (String.singleton (Char.ofNat n)) = [UInt8.ofNat n] := by decide

theorem escape_short {b c : UInt8} (h : shortLetter? b = some c) (rest : Bytes) :
    escape (c :: rest) = .ok ([b], rest) := by
  rw [escape, bind_read (nextInText_cons c rest)]
  simp only [shortEscape_of_shortLetter h]
  rfl

theorem codePoint_control {b : UInt8} (h : b < 32) (rest : Bytes) :
    codePoint (48 :: 48 :: hexByte (b.toNat / 16) :: hexByte (b.toNat % 16) :: rest) =
      .ok (b.toNat, rest) := by
  have hb : b.toNat < 32 := UInt8.lt_iff_toNat_lt.mp h
  have hvalue : hexWord? 48 48 (hexByte (b.toNat / 16)) (hexByte (b.toNat % 16)) =
      some b.toNat := by
    have h0 : hexDigit? 48 = some 0 := by decide
    simp only [hexWord?, h0, hexDigit_hexByte _ (show b.toNat / 16 < 16 by omega),
      hexDigit_hexByte _ (show b.toNat % 16 < 16 by omega)]
    show some (((0 * 16 + 0) * 16 + b.toNat / 16) * 16 + b.toNat % 16) = some b.toNat
    congr 1
    omega
  have hword : hexWord (48 :: 48 :: hexByte (b.toNat / 16) :: hexByte (b.toNat % 16) :: rest) =
      .ok (b.toNat, rest) := by
    simp only [hexWord, hvalue]
  -- a control character is no half of a surrogate pair
  have htrail : isTrail b.toNat = false := by
    simp [isTrail]
    omega
  have hlead : isLead b.toNat = false := by
    simp [isLead]
    omega
  rw [codePoint, bind_read hword]
  simp only [htrail, hlead]
  rfl

theorem escape_control {b : UInt8} (h : b < 32) (rest : Bytes) :
    escape (117 :: 48 :: 48 :: hexByte (b.toNat / 16) :: hexByte (b.toNat % 16) :: rest) =
      .ok ([b], rest) := by
  have hone := ofString_control b.toNat (UInt8.lt_iff_toNat_lt.mp h)
  rw [UInt8.ofNat_toNat] at hone
  rw [escape, bind_read (nextInText_cons 117 _)]
  show (codePoint >>= fun n => pure (Bytes.ofString (String.singleton (Char.ofNat n)))) _ = _
  rw [bind_read (codePoint_control h rest), hone]
  rfl

/-! ## Texts -/

theorem body_escape {piece rest : Bytes} {b : UInt8} (h : escape piece = .ok ([b], rest))
    (fuel : Nat) :
    body (fuel + 1) (backslash :: piece) = (body fuel rest).map fun p => (b :: p.1, p.2) := by
  rw [body, bind_read (nextInText_cons backslash piece)]
  show (escape >>= fun x => body fuel >>= fun y => pure (x ++ y)) piece = _
  rw [bind_read h]
  show (body fuel rest >>= fun p => Except.ok (b :: p.1, p.2)) = _
  cases body fuel rest <;> rfl

/-- Reading takes from the front what one byte was written as. -/
theorem body_writeByte (b : UInt8) (fuel : Nat) (rest : Bytes) :
    body (fuel + 1) (writeByte b ++ rest) = (body fuel rest).map fun p => (b :: p.1, p.2) := by
  cases hshort : shortLetter? b with
  | some c =>
    simp only [writeByte, hshort]
    exact body_escape (escape_short hshort rest) fuel
  | none =>
    obtain ⟨hquote, hback⟩ := plain_of_shortLetter hshort
    by_cases hlow : b < 32
    · simp only [writeByte, hshort, if_pos hlow]
      exact body_escape (escape_control hlow rest) fuel
    · simp only [writeByte, hshort, if_neg hlow]
      rw [List.singleton_append, body, bind_read (nextInText_cons b rest)]
      simp only [if_neg hquote, if_neg hback, if_neg hlow]
      show (body fuel rest >>= fun p => Except.ok (b :: p.1, p.2)) = _
      cases body fuel rest <;> rfl

theorem body_writes (bs rest : Bytes) (fuel : Nat) (h : bs.length < fuel) :
    body fuel (bs.flatMap writeByte ++ quote :: rest) = .ok (bs, rest) := by
  induction bs generalizing fuel with
  | nil =>
    obtain ⟨fuel, rfl⟩ : ∃ k, fuel = k + 1 := ⟨fuel - 1, by omega⟩
    rfl
  | cons b bs ih =>
    rw [List.length_cons] at h
    obtain ⟨fuel, rfl⟩ : ∃ k, fuel = k + 1 := ⟨fuel - 1, by omega⟩
    rw [List.flatMap_cons, List.append_assoc, body_writeByte, ih fuel (by omega)]
    rfl

theorem length_le_writes (bs : Bytes) : bs.length ≤ (bs.flatMap writeByte).length := by
  induction bs with
  | nil => simp
  | cons b bs ih =>
    have hb : 0 < (writeByte b).length := by
      unfold writeByte
      cases shortLetter? b with
      | some c => simp
      | none => by_cases h : b < 32 <;> simp [h]
    simp only [List.length_cons, List.flatMap_cons, List.length_append]
    omega

/-- A text whose opening quote was taken is read up to its closing one. -/
theorem text_written (s : String) (rest : Bytes) :
    text ((Bytes.ofString s).flatMap writeByte ++ quote :: rest) = .ok (s, rest) := by
  have hle := length_le_writes (Bytes.ofString s)
  show (body _ _ >>= fun p => _) = _
  rw [body_writes _ rest _ (by simp only [List.length_append, List.length_cons]; omega)]
  simp [bind, Except.bind, pure, Except.pure]

theorem writeText_append (s : String) (rest : Bytes) :
    writeText s ++ rest = quote :: ((Bytes.ofString s).flatMap writeByte ++ quote :: rest) := by
  simp [writeText]

end Callwire.Json
