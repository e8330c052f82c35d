import Callwire.Proofs.Transport.Framing

/-!
# Contents of a buffer

The messages that a framer can take off its buffer one after the other, what is then left,
and what a receive finds there.
-/

set_option autoImplicit false

namespace Callwire.Stream

def resultAt (whole : List Bytes) (last : Poll) (n : Nat) : Poll :=
  (whole[n]?.map Poll.message).getD last

def firstResults (whole : List Bytes) (last : Poll) (n : Nat) : List Poll :=
  (whole.map Poll.message ++ List.replicate n last).take n

theorem map_resultAt (whole : List Bytes) (last : Poll) (n : Nat) :
    (List.range n).map (resultAt whole last) = firstResults whole last n := by
  unfold firstResults
  apply List.ext_getElem
  · simp
  · intro i hi _
    rw [List.length_map, List.length_range] at hi
    rw [List.getElem_map, List.getElem_range, List.getElem_take, List.getElem_append]
    split_ifs with h
    · rw [List.length_map] at h
      simp [resultAt, h]
    · rw [List.length_map] at h
      simp [resultAt, List.getElem?_eq_none (Nat.le_of_not_lt h)]

theorem firstResults_nil (last : Poll) (n : Nat) :
    firstResults [] last n = List.replicate n last := by
  rw [firstResults, List.map_nil, List.nil_append, List.take_replicate, Nat.min_self]

theorem firstResults_cons (m : Bytes) (whole : List Bytes) (last : Poll) (n : Nat) :
    firstResults (m :: whole) last (n + 1) = .message m :: firstResults whole last n := by
  rw [← map_resultAt, ← map_resultAt, List.range_succ_eq_map, List.map_cons, List.map_map]
  rfl

namespace Framer

variable {f g : Framer} {m : Bytes}

theorem length_of_take (h : f.take = .ok (some (m, g))) : g.buffer.length < f.buffer.length := by
  obtain ⟨w, rest, hw⟩ := word_of_take (f := f) (by rw [h]; simp)
  rw [Bytes.ofWord_of_word? hw, List.length_append, Bytes.length_ofWord]
  rw [take_of_word hw] at h
  split at h
  · cases h
  · split_ifs at h
    · cases h
    · simp only [Except.ok.injEq, Option.some.injEq, Prod.mk.injEq] at h
      rw [← h.2, List.length_drop]
      omega

def contents (f : Framer) : List Bytes × Framer :=
  match _h : f.take with
  | .ok (some (m, g)) => (m :: g.contents.1, g.contents.2)
  | .ok none | .error _ => ([], f)
termination_by f.buffer.length
decreasing_by all_goals exact length_of_take _h

def Stuck (f : Framer) : Prop := ∀ m g, f.take ≠ .ok (some (m, g))

theorem contents_of_some (h : f.take = .ok (some (m, g))) :
    f.contents = (m :: g.contents.1, g.contents.2) := by
  rw [contents]
  split <;> simp_all

theorem Stuck.contents (h : f.Stuck) : f.contents = ([], f) := by
  rw [Framer.contents]
  split
  · rename_i ht
    exact absurd ht (h _ _)
  · rfl
  · rfl

theorem stuck_of_none (h : f.take = .ok none) : f.Stuck := by
  intro m g
  rw [h]
  simp

theorem stuck_of_error {e : TransportFault} (h : f.take = .error e) : f.Stuck := by
  intro m g
  rw [h]
  simp

/-- Encodings are in front of what follows them. -/
theorem contents_frames {limit : Nat} {ms : List Bytes} (hfits : ∀ m ∈ ms, Fits limit m)
    (rest : Bytes) : (Framer.mk (ms.flatMap frame ++ rest) limit).contents =
      (ms ++ (Framer.mk rest limit).contents.1, (Framer.mk rest limit).contents.2) := by
  induction ms with
  | nil => rfl
  | cons m ms ih =>
    have htake : (Framer.mk ((m :: ms).flatMap frame ++ rest) limit).take =
        .ok (some (m, ⟨ms.flatMap frame ++ rest, limit⟩)) :=
      take_frame (f := ⟨(m :: ms).flatMap frame ++ rest, limit⟩) (hfits m (by simp))
        (by rw [List.flatMap_cons, List.append_assoc])
    rw [contents_of_some htake, ih fun x hx => hfits x (List.mem_cons_of_mem _ hx)]
    rfl

/-! ## What a receive finds -/

def found (f : Framer) (writing : Bool) : Poll :=
  match f.take with
  | .ok (some (m, _)) => .message m
  | .ok none => atEnd f.buffer writing
  | .error e => .failed e

theorem found_of_some (h : f.take = .ok (some (m, g))) (writing : Bool) :
    f.found writing = .message m := by
  simp only [found, h]

theorem found_of_none (h : f.take = .ok none) (writing : Bool) :
    f.found writing = atEnd f.buffer writing := by
  simp only [found, h]

theorem found_of_error {e : TransportFault} (h : f.take = .error e) (writing : Bool) :
    f.found writing = .failed e := by
  simp only [found, h]

/-- The messages in front are found one after the other, and then what is found behind. -/
theorem found_eq_resultAt (f : Framer) (writing : Bool) :
    f.found writing = resultAt f.contents.1 (f.contents.2.found writing) 0 := by
  cases ht : f.take with
  | error e => rw [(stuck_of_error ht).contents]; rfl
  | ok r =>
    cases r with
    | none => rw [(stuck_of_none ht).contents]; rfl
    | some r => rw [found_of_some ht, contents_of_some ht]; rfl

/-- Where no message is in front and a receive does not wait, every later one finds the
same. Nothing comes after the end. -/
theorem found_final (hstuck : f.Stuck) {writing : Bool} (hfound : f.found writing ≠ .waiting)
    (more : Bytes) (open? : Bool) (hend : writing = false → more = [] ∧ open? = false) :
    (f.extend more).Stuck ∧ (f.extend more).found open? = f.found writing := by
  cases ht : f.take with
  | error e =>
    have hmore := take_extend_of_error ht more
    exact ⟨stuck_of_error hmore, by rw [found_of_error hmore, found_of_error ht]⟩
  | ok r =>
    cases r with
    | some r => exact absurd ht (hstuck r.1 r.2)
    | none =>
      cases writing with
      | true => exact absurd (found_of_none ht true) hfound
      | false =>
        obtain ⟨rfl, rfl⟩ := hend rfl
        rw [extend_nil]
        exact ⟨hstuck, rfl⟩

end Framer

end Callwire.Stream
