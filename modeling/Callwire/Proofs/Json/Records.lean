import Callwire.Proofs.Json.Counts
import Callwire.Proofs.Keys

/-!
# Records in JSON are read back

A record is written with one field after the other and read with the fields it
has met so far. Whatever the shape, values of its kinds are read back in order,
as long as no two fields share a name.
-/

set_option autoImplicit false

namespace Callwire.Json

theorem blank_cons {b : UInt8} (h : isBlank b = false) (tail : Bytes) :
    blank (b :: tail) = .ok (some b, b :: tail) := by
  simp [blank, h]

theorem eat_cons (b : UInt8) (tail : Bytes) : eat (b :: tail) = .ok ((), tail) := rfl

/-! ## Values -/

def EndsField (b : UInt8) : Prop := b = comma ∨ b = closeObject

theorem EndsField.endsNumber {b : UInt8} (h : EndsField b) : EndsNumber b := by
  rcases h with rfl | rfl <;> exact ⟨by decide, by decide, by decide, by decide⟩

theorem digit_cases {d : UInt8} (h : isDigit d = true) : isBlank d = false ∧ d ≠ minus := by
  have hle : 48 ≤ d.toNat := by
    simp only [isDigit, Bool.and_eq_true, decide_eq_true_eq] at h
    exact UInt8.le_iff_toNat_le.mp h.1
  refine ⟨?_, ?_⟩
  · simp only [isBlank, Bool.or_eq_false_iff, beq_eq_false_iff_ne, ne_eq]
    refine ⟨⟨⟨?_, ?_⟩, ?_⟩, ?_⟩ <;> rintro rfl <;> revert hle <;> decide
  · rintro rfl
    revert hle
    decide

theorem read_text (s : String) (rest : Bytes) :
    Kind.text.read (writeText s ++ rest) = .ok (.text s, rest) := by
  rw [writeText_append, Kind.read, bind_read (blank_cons (by decide) _)]
  simp only [if_true]
  rw [bind_read (eat_cons quote _), bind_read (text_written s rest)]
  rfl

theorem read_count (n : UInt64) {b : UInt8} (h : EndsField b) (tail : Bytes) :
    Kind.count.read (writeCount n.toNat ++ b :: tail) = .ok (.count n, b :: tail) := by
  have hnumber := number_writeCount n.toNat_lt h.endsNumber tail
  obtain ⟨d, ds, hw, hd⟩ := decimal_writeCount n.toNat
  obtain ⟨hblank, hminus⟩ := digit_cases hd.first
  rw [hw, List.cons_append] at hnumber ⊢
  rw [Kind.read, bind_read (blank_cons hblank _)]
  simp only [if_neg hminus, if_pos hd.first]
  rw [bind_read hnumber]
  show Except.ok (Scalar.count (UInt64.ofNat n.toNat), b :: tail) = _
  rw [UInt64.ofNat_toNat]

theorem read_write (v : Scalar) {b : UInt8} (h : EndsField b) (tail : Bytes) :
    v.kind.read (v.write ++ b :: tail) = .ok (v, b :: tail) := by
  cases v with
  | text s => exact read_text s (b :: tail)
  | count n => exact read_count n h tail

/-! ## Fields -/

def writeMore (fields : List (String × Scalar)) : Bytes :=
  fields.flatMap fun f => comma :: (writeText f.1 ++ colon :: f.2.write)

theorem writeFields_cons (f : String × Scalar) (fields : List (String × Scalar)) :
    writeFields (f :: fields) = writeText f.1 ++ colon :: f.2.write ++ writeMore fields := by
  induction fields generalizing f with
  | nil => simp [writeFields, writeMore]
  | cons g fields ih =>
    rw [writeFields, ih g]
    · simp [writeMore]
    · simp

theorem writeMore_close (fields : List (String × Scalar)) (tail : Bytes) :
    ∃ b rest, writeMore fields ++ closeObject :: tail = b :: rest ∧ EndsField b := by
  cases fields with
  | nil => exact ⟨closeObject, tail, rfl, .inr rfl⟩
  | cons f fields =>
    refine ⟨comma, writeText f.1 ++ colon :: f.2.write ++ (writeMore fields ++ closeObject :: tail),
      ?_, .inl rfl⟩
    simp [writeMore]

theorem length_le_writeMore (fields : List (String × Scalar)) :
    fields.length ≤ (writeMore fields).length := by
  induction fields with
  | nil => simp
  | cons f fields ih =>
    simp only [writeMore, List.flatMap_cons, List.length_append, List.length_cons] at ih ⊢
    omega

theorem length_le_writeFields (fields : List (String × Scalar)) :
    fields.length ≤ (writeFields fields).length := by
  cases fields with
  | nil => simp
  | cons f fields =>
    have hmore := length_le_writeMore fields
    simp only [writeFields_cons, List.length_append, List.length_cons]
    omega

theorem hasField_first (s : String) (rest : Bytes) :
    Shape.hasField true (writeText s ++ rest) = .ok (true, writeText s ++ rest) := by
  rw [writeText_append, Shape.hasField, bind_read (blank_cons (by decide) _)]
  rfl

theorem hasField_comma (s : String) (rest : Bytes) :
    Shape.hasField false (comma :: (writeText s ++ rest)) = .ok (true, writeText s ++ rest) := by
  rw [writeText_append, Shape.hasField, bind_read (blank_cons (by decide) _)]
  show (eat >>= fun _ => blank >>= fun c => _) _ = _
  rw [bind_read (eat_cons comma _), bind_read (blank_cons (by decide) _)]
  rfl

theorem hasField_close (first : Bool) (tail : Bytes) :
    Shape.hasField first (closeObject :: tail) = .ok (false, closeObject :: tail) := by
  rw [Shape.hasField, bind_read (blank_cons (by decide) _)]
  rfl

namespace Shape

variable {s : Shape}

/-- One turn of the loop over the fields: a field not met before is added to
those that were. -/
theorem entries_step {f : String × Scalar} (hkind : s.fields.lookup f.1 = some f.2.kind)
    {seen : List (String × Scalar)} (hnew : seen.lookup f.1 = none) {first : Bool}
    {input rest tail : Bytes} {b : UInt8} (hb : EndsField b) (hrest : rest = b :: tail)
    (hfield : hasField first input = .ok (true, writeText f.1 ++ colon :: (f.2.write ++ rest)))
    (fuel : Nat) :
    s.entries (fuel + 1) seen first input = s.entries fuel (seen ++ [f]) false rest := by
  subst hrest
  rw [entries, bind_read hfield, writeText_append]
  show (eat >>= fun _ => text >>= fun key => _) _ = _
  rw [bind_read (eat_cons quote _), bind_read (text_written f.1 _)]
  simp only [hkind, hnew, Option.isSome_none, Bool.false_eq_true, if_false]
  have hcolon : colonNext (colon :: (f.2.write ++ b :: tail)) =
      .ok ((), f.2.write ++ b :: tail) := by
    rw [colonNext, bind_read (blank_cons (by decide) _)]
    rfl
  rw [bind_read hcolon, bind_read (read_write f.2 hb tail)]

theorem entries_close (fuel : Nat) (seen : List (String × Scalar)) (first : Bool) (tail : Bytes) :
    s.entries (fuel + 1) seen first (closeObject :: tail) = .ok (seen, tail) := by
  rw [entries, bind_read (hasField_close first tail)]
  rfl

/-- The loop reads the fields that are left, in their order. -/
theorem entries_more {fields : List (String × Scalar)}
    (hkind : ∀ f ∈ fields, s.fields.lookup f.1 = some f.2.kind) {seen : List (String × Scalar)}
    (hkeys : ((seen ++ fields).map (·.1)).Nodup) {fuel : Nat} (hfuel : fields.length < fuel)
    (tail : Bytes) :
    s.entries fuel seen false (writeMore fields ++ closeObject :: tail) =
      .ok (seen ++ fields, tail) := by
  induction fields generalizing seen fuel with
  | nil =>
    obtain ⟨fuel, rfl⟩ : ∃ k, fuel = k + 1 := ⟨fuel - 1, by omega⟩
    simpa [writeMore] using entries_close fuel seen false tail
  | cons f fields ih =>
    rw [List.length_cons] at hfuel
    obtain ⟨fuel, rfl⟩ : ∃ k, fuel = k + 1 := ⟨fuel - 1, by omega⟩
    obtain ⟨b, rest, hrest, hb⟩ := writeMore_close fields tail
    have hinput : writeMore (f :: fields) ++ closeObject :: tail = comma ::
        (writeText f.1 ++ colon :: (f.2.write ++ (writeMore fields ++ closeObject :: tail))) := by
      simp [writeMore]
    have happend : seen ++ f :: fields = seen ++ [f] ++ fields := by simp
    rw [happend] at hkeys ⊢
    rw [hinput, entries_step (hkind f (by simp)) (lookup_eq_none_of_nodup hkeys) hb hrest
      (hasField_comma f.1 _)]
    exact ih (fun g hg => hkind g (by simp [hg])) hkeys (by omega)

/-- The loop reads all fields of an object. -/
theorem entries_fields {fields : List (String × Scalar)}
    (hkind : ∀ f ∈ fields, s.fields.lookup f.1 = some f.2.kind)
    (hkeys : (fields.map (·.1)).Nodup) {fuel : Nat} (hfuel : fields.length < fuel)
    (tail : Bytes) :
    s.entries fuel [] true (writeFields fields ++ closeObject :: tail) = .ok (fields, tail) := by
  obtain ⟨fuel, rfl⟩ : ∃ k, fuel = k + 1 := ⟨fuel - 1, by omega⟩
  cases fields with
  | nil => exact entries_close fuel [] true tail
  | cons f fields =>
    rw [List.length_cons] at hfuel
    obtain ⟨b, rest, hrest, hb⟩ := writeMore_close fields tail
    have hinput : writeFields (f :: fields) ++ closeObject :: tail =
        writeText f.1 ++ colon :: (f.2.write ++ (writeMore fields ++ closeObject :: tail)) := by
      simp [writeFields_cons]
    rw [hinput, entries_step (hkind f (by simp)) rfl hb hrest (hasField_first f.1 _)]
    have hmore := fun g (hg : g ∈ fields) => hkind g (List.mem_cons_of_mem f hg)
    exact entries_more hmore (show (([f] ++ fields).map (·.1)).Nodup from hkeys) (by omega) tail

theorem inOrder_eq {seen : List (String × Scalar)} {fields : List (String × Kind)}
    {vs : List Scalar} (hlength : vs.length = fields.length)
    (hseen : ∀ f ∈ (fields.map (·.1)).zip vs, seen.lookup f.1 = some f.2) (b : Bytes) :
    inOrder seen fields b = .ok (vs, b) := by
  induction fields generalizing vs with
  | nil =>
    rw [List.length_nil, List.length_eq_zero_iff] at hlength
    subst hlength
    rfl
  | cons f fields ih =>
    cases vs with
    | nil => simp at hlength
    | cons v vs =>
      have hv := hseen (f.1, v) (by simp)
      have hlength' : vs.length = fields.length := by simpa using hlength
      simp only [inOrder, hv]
      rw [bind_read (ih hlength' fun g hg => hseen g (by simp [hg]))]
      rfl

/-! ## Records -/

def Holds (s : Shape) (vs : List Scalar) : Prop := vs.map Scalar.kind = s.fields.map (·.2)

theorem Holds.length {vs : List Scalar} (h : s.Holds vs) : vs.length = s.fields.length := by
  simpa using congrArg List.length h

def valued (s : Shape) (vs : List Scalar) : List (String × Scalar) := (s.fields.map (·.1)).zip vs

theorem Holds.keys {vs : List Scalar} (h : s.Holds vs) :
    (s.valued vs).map (·.1) = s.fields.map (·.1) :=
  List.map_fst_zip (by simp [h.length])

theorem Holds.kind {vs : List Scalar} (h : s.Holds vs) (hkeys : (s.fields.map (·.1)).Nodup)
    {f : String × Scalar} (hf : f ∈ s.valued vs) : s.fields.lookup f.1 = some f.2.kind := by
  obtain ⟨i, hi, rfl⟩ := List.mem_iff_getElem.mp hf
  have hv : i < vs.length := by
    simp only [valued, List.length_zip, List.length_map] at hi
    omega
  have hk : i < s.fields.length := h.length ▸ hv
  have hkind : vs[i].kind = s.fields[i].2 := by
    have := List.getElem_of_eq h (show i < (vs.map Scalar.kind).length by simpa using hv)
    simpa using this
  simp only [valued, List.getElem_zip, List.getElem_map, hkind]
  exact lookup_eq_some_of_nodup hkeys (List.getElem_mem hk)

/-- A record of any shape is read back. -/
theorem decode_encode {vs : List Scalar} (h : s.Holds vs)
    (hkeys : (s.fields.map (·.1)).Nodup) : s.decode (s.encode vs) = .ok vs := by
  have hvalued : ((s.valued vs).map (·.1)).Nodup := by
    rw [h.keys]
    exact hkeys
  have hopen : s.encode vs =
      openObject :: (writeFields (s.valued vs) ++ closeObject :: []) := rfl
  have hfuel : (s.valued vs).length <
      (writeFields (s.valued vs) ++ closeObject :: []).length + 1 := by
    have := length_le_writeFields (s.valued vs)
    simp only [List.length_append]
    omega
  have hentries := entries_fields (fun f hf => h.kind hkeys hf) hvalued hfuel []
  have hread : s.read (s.encode vs) = .ok (vs, []) := by
    rw [hopen, read, bind_read (blank_cons (by decide) _)]
    show (eat >>= fun _ => left >>= fun n => s.entries (n + 1) [] true >>= fun seen =>
      inOrder seen s.fields) _ = _
    rw [bind_read (eat_cons openObject _), bind_read (show left _ = .ok (_, _) from rfl),
      bind_read hentries]
    exact inOrder_eq h.length (fun f hf => lookup_eq_some_of_nodup hvalued hf) []
  have hwhole : (s.read >>= fun vs => blank >>= fun b =>
      if b.isSome then failNext .trailing else (pure vs : Reader (List Scalar))) (s.encode vs) =
      .ok (vs, []) := by
    rw [bind_read hread]
    rfl
  simp only [decode, hwhole]

end Shape

end Callwire.Json
