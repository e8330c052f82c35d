import Callwire.Proofs.Transport.Results

/-!
# Messages out of chunks

The results of receives are a function of the bytes that arrive and of whether
the stream has ended: the messages whose encodings are there as a whole, in
order, and after them the end. Where the bytes were cut, when the receives were
polled and which of them were dropped does not matter.
-/

set_option autoImplicit false

namespace Callwire.Stream
open Framer (frame Fits atEnd)

def lastOf (writing : Bool) (whole b : Bytes) : Poll :=
  if writing then .waiting
  else if b = whole then .finished
  else .failed (.plain .unexpectedEnd)

theorem atEnd_eq_lastOf (writing : Bool) (front b : Bytes) :
    atEnd b writing = lastOf writing front (front ++ b) := by
  simp [atEnd, lastOf]

theorem lastOf_ne_waiting (whole b : Bytes) : lastOf false whole b ≠ .waiting := by
  by_cases h : b = whole <;> simp [lastOf, h]

def Incomplete (ms : List Bytes) (b : Bytes) : Prop :=
  ∀ m rest, ms = m :: rest → b.length < (frame m).length

/-- The front of some encodings either starts with the first of them or ends
inside it. -/
theorem front_cases {ms : List Bytes} {b : Bytes} (h : b <+: ms.flatMap frame) :
    (∃ m rest back, ms = m :: rest ∧ b = frame m ++ back ∧ back <+: rest.flatMap frame) ∨
      Incomplete ms b := by
  cases ms with
  | nil => exact Or.inr fun m rest hm => absurd hm (by simp)
  | cons m rest =>
    rw [List.flatMap_cons] at h
    by_cases hlen : b.length < (frame m).length
    · right
      intro m' rest' hm
      rw [List.cons.injEq] at hm
      rw [← hm.1]
      exact hlen
    · left
      obtain ⟨back, rfl⟩ : frame m <+: b :=
        List.prefix_of_prefix_length_le (List.prefix_append _ _) h (by omega)
      exact ⟨m, rest, back, rfl, rfl, (List.prefix_append_right_inj _).mp h⟩

theorem take_incomplete {ms : List Bytes} {f : Framer} (hfits : ∀ m ∈ ms, Fits f.limit m)
    (h : f.buffer <+: ms.flatMap frame) (hi : Incomplete ms f.buffer) : f.take = .ok none := by
  cases ms with
  | nil =>
    apply Framer.take_short
    rw [List.eq_nil_of_prefix_nil h]
    decide
  | cons m ms =>
    have hlen := hi m ms rfl
    rw [List.flatMap_cons] at h
    obtain ⟨back, hback⟩ := List.prefix_of_prefix_length_le h (List.prefix_append _ _) hlen.le
    refine Framer.take_inside (hfits m (by simp)) hback ?_
    rintro rfl
    rw [List.append_nil] at hback
    rw [hback] at hlen
    exact absurd hlen (lt_irrefl _)

namespace Reader

def Whole (ms : List Bytes) (b : Bytes) (k : Nat) : Prop :=
  k ≤ ms.length ∧ ∀ j ≤ ms.length, (ms.take j).flatMap frame <+: b ↔ j ≤ k

theorem whole_unique {ms : List Bytes} {b : Bytes} {j k : Nat} (hj : Whole ms b j)
    (hk : Whole ms b k) : j = k := by
  have h1 := (hk.2 j hj.1).mp ((hj.2 j hj.1).mpr le_rfl)
  have h2 := (hj.2 k hk.1).mp ((hk.2 k hk.1).mpr le_rfl)
  omega

theorem whole_all (ms : List Bytes) : Whole ms (ms.flatMap frame) ms.length := by
  refine ⟨le_rfl, fun j hj => ⟨fun _ => hj, fun _ => ?_⟩⟩
  have hsplit : ms.flatMap frame = (ms.take j).flatMap frame ++ (ms.drop j).flatMap frame := by
    rw [← List.flatMap_append, List.take_append_drop]
  rw [hsplit]
  exact List.prefix_append _ _

theorem whole_inside {m part rest : Bytes} (hf : frame m = part ++ rest) (hr : rest ≠ [])
    (front back : List Bytes) :
    Whole (front ++ m :: back) (front.flatMap frame ++ part) front.length := by
  refine ⟨by simp, fun j hj => ?_⟩
  by_cases hji : j ≤ front.length
  · rw [List.take_append_of_le_length hji]
    have hpre := ((whole_all front).2 j hji).mpr hji
    exact ⟨fun _ => hji, fun _ => hpre.trans (List.prefix_append _ _)⟩
  · refine ⟨fun hpre => ?_, fun h => absurd h hji⟩
    obtain ⟨d, rfl⟩ : ∃ d, j = front.length + (d + 1) := ⟨j - front.length - 1, by omega⟩
    have hle := hpre.length_le
    have hpos := List.length_pos_of_ne_nil hr
    rw [List.take_length_add_append, List.take_succ_cons, List.flatMap_append, List.flatMap_cons,
      hf] at hle
    simp only [List.length_append] at hle
    omega

theorem Whole.none {ms : List Bytes} {b : Bytes} (h : Incomplete ms b) : Whole ms b 0 := by
  refine ⟨Nat.zero_le _, fun j hj => ?_⟩
  cases j with
  | zero => simp
  | succ j =>
    cases ms with
    | nil => simp at hj
    | cons m ms =>
      refine ⟨fun hpre => ?_, fun hj0 => absurd hj0 (by omega)⟩
      rw [List.take_succ_cons, List.flatMap_cons] at hpre
      exact absurd ((List.prefix_append _ _).trans hpre).length_le (Nat.not_le.mpr (h m ms rfl))

theorem Whole.cons {ms : List Bytes} {b : Bytes} {k : Nat} (h : Whole ms b k) (m : Bytes) :
    Whole (m :: ms) (frame m ++ b) (k + 1) := by
  refine ⟨by simpa using h.1, fun j hj => ?_⟩
  cases j with
  | zero => simp
  | succ j =>
    rw [List.take_succ_cons, List.flatMap_cons, List.prefix_append_right_inj,
      h.2 j (by simpa using hj)]
    omega

theorem contents_of_incomplete {limit : Nat} {ms : List Bytes} (hfits : ∀ m ∈ ms, Fits limit m)
    {b : Bytes} (h : b <+: ms.flatMap frame) (hi : Incomplete ms b) : ∃ k, Whole ms b k ∧
      (Framer.mk b limit).contents.1 = ms.take k ∧ ∀ writing,
        (Framer.mk b limit).contents.2.found writing =
          lastOf writing ((ms.take k).flatMap frame) b := by
  have htake := take_incomplete (f := ⟨b, limit⟩) hfits h hi
  rw [(Framer.stuck_of_none htake).contents]
  refine ⟨0, .none hi, rfl, fun writing => ?_⟩
  rw [Framer.found_of_none htake]
  exact atEnd_eq_lastOf writing [] b

/-- Of the front of some encodings those that are there as a whole can be taken, and behind
them is the end. -/
theorem contents_of_front {limit : Nat} {ms : List Bytes} (hfits : ∀ m ∈ ms, Fits limit m)
    {b : Bytes} (h : b <+: ms.flatMap frame) : ∃ k, Whole ms b k ∧
      (Framer.mk b limit).contents.1 = ms.take k ∧ ∀ writing,
        (Framer.mk b limit).contents.2.found writing =
          lastOf writing ((ms.take k).flatMap frame) b := by
  induction ms generalizing b with
  | nil => exact contents_of_incomplete hfits h fun m rest hm => absurd hm (by simp)
  | cons m ms ih =>
    rcases front_cases h with ⟨m', rest, back, hm, rfl, hback⟩ | hi
    · obtain ⟨rfl, rfl⟩ := List.cons.inj hm
      have htake := Framer.take_frame (f := ⟨frame m ++ back, limit⟩) (hfits m (by simp)) rfl
      obtain ⟨k, hk, htaken, hlast⟩ := ih (fun x hx => hfits x (List.mem_cons_of_mem _ hx)) hback
      rw [Framer.contents_of_some htake]
      refine ⟨k + 1, hk.cons m, ?_, fun writing => ?_⟩
      · rw [htaken]
        rfl
      · rw [hlast]
        simp [lastOf]
    · exact contents_of_incomplete hfits h hi

theorem arrived_append_polls (es : List Event) (n : Nat) :
    arrived (es ++ List.replicate n .poll) = arrived es := by
  induction es with
  | nil =>
    induction n with
    | zero => rfl
    | succ n ih => exact ih
  | cons e es ih => cases e <;> simp_all [arrived]

theorem ended_append_polls (es : List Event) (n : Nat) :
    ended (es ++ List.replicate n .poll) = ended es := by
  simp [ended]

variable {limit : Nat} {ms : List Bytes}

theorem results_of_start (limit : Nat) (es : List Event) :
    (start limit).completed es = firstResults (Framer.mk (arrived es) limit).contents.1
        ((Framer.mk (arrived es) limit).contents.2.found (!ended es))
        ((start limit).completed es).length ∧
      ((start limit).after es).poll.2 = resultAt (Framer.mk (arrived es) limit).contents.1
        ((Framer.mk (arrived es) limit).contents.2.found (!ended es))
        ((start limit).completed es).length := by
  have hwhole : (start limit).whole.extend ((start limit).incoming es) = ⟨arrived es, limit⟩ := by
    simp [whole, incoming, start, Pipe.fresh, Framer.extend]
  have hopen : (start limit).open? es = !ended es := by simp [open?, start, Pipe.fresh]
  have hrun := results_of_contents es (start limit) (start_ready limit)
  rwa [hwhole, hopen] at hrun

theorem results_of_whole (hfits : ∀ m ∈ ms, Fits limit m) (es : List Event)
    (h : arrived es <+: ms.flatMap frame) : ∃ k, Whole ms (arrived es) k ∧
      (start limit).completed es = firstResults (ms.take k)
        (lastOf (!ended es) ((ms.take k).flatMap frame) (arrived es))
        ((start limit).completed es).length ∧
      ((start limit).after es).poll.2 = resultAt (ms.take k)
        (lastOf (!ended es) ((ms.take k).flatMap frame) (arrived es))
        ((start limit).completed es).length := by
  obtain ⟨k, hk, htaken, hlast⟩ := contents_of_front hfits h
  have hrun := results_of_start limit es
  rw [htaken, hlast] at hrun
  exact ⟨k, hk, hrun⟩

theorem resultAt_ne_waiting (whole : List Bytes) {last : Poll} (h : last ≠ .waiting) (n : Nat) :
    resultAt whole last n ≠ .waiting := by
  unfold resultAt
  cases whole[n]? with
  | none => exact h
  | some m => simp

/-- After the end no receive waits. -/
theorem length_completed_polls (hfits : ∀ m ∈ ms, Fits limit m) {es : List Event}
    (h : arrived es <+: ms.flatMap frame) (he : ended es = true) (n : Nat) :
    ((start limit).completed (es ++ List.replicate n .poll)).length =
      ((start limit).completed es).length + n := by
  induction n with
  | zero => simp
  | succ n ih =>
    obtain ⟨k, -, -, hres⟩ := results_of_whole hfits (es ++ List.replicate n .poll)
      (by rwa [arrived_append_polls])
    rw [ended_append_polls, he, Bool.not_true] at hres
    have hne : ((start limit).after (es ++ List.replicate n .poll)).poll.2 ≠ .waiting := by
      rw [hres]
      exact resultAt_ne_waiting _ (lastOf_ne_waiting _ _) _
    rw [List.replicate_succ', ← List.append_assoc, completed_append, List.length_append, ih]
    simp [completed, step, hne]
    omega
theorem completed_polls (hfits : ∀ m ∈ ms, Fits limit m) {es : List Event} {k : Nat}
    (h : arrived es <+: ms.flatMap frame) (he : ended es = true)
    (hk : Whole ms (arrived es) k) (n : Nat) :
    (start limit).completed (es ++ List.replicate n .poll) = firstResults (ms.take k)
      (lastOf false ((ms.take k).flatMap frame) (arrived es))
      (((start limit).completed es).length + n) := by
  obtain ⟨k', hk', hres, -⟩ := results_of_whole hfits (es ++ List.replicate n .poll)
    (by rwa [arrived_append_polls])
  rw [arrived_append_polls] at hk'
  obtain rfl := whole_unique hk hk'
  rw [arrived_append_polls, ended_append_polls, he, Bool.not_true,
    length_completed_polls hfits h he] at hres
  exact hres

end Reader

theorem encodings_eq {sender : Framer} {ms encodings : List Bytes}
    (h : ms.map sender.encode = encodings.map .ok) : encodings = ms.map frame := by
  induction ms generalizing encodings with
  | nil => exact List.map_eq_nil_iff.mp h.symm
  | cons m ms ih =>
    cases encodings with
    | nil => simp at h
    | cons b encodings =>
      rw [List.map_cons, List.map_cons, List.cons.injEq] at h
      rw [((Framer.encode_eq_ok_iff sender m b).mp h.1).2, ih h.2, List.map_cons]

theorem take_frames (ms : List Bytes) (j : Nat) :
    ((ms.map frame).take j).flatten = (ms.take j).flatMap frame := by
  rw [← List.map_take, List.flatMap_def]

open Reader

/-- The messages that were sent are received in order, and then the end, however
their encodings were cut and whichever receives were dropped. -/
theorem receives_follow_bytes (limit : Nat) (sender : Framer) (ms encodings : List Bytes)
    (hsend : ms.map sender.encode = encodings.map .ok) (hfits : ∀ m ∈ ms, Fits limit m) :
    (∀ es, arrived es <+: encodings.flatten → ∃ k ≤ ms.length,
      (∀ j ≤ ms.length, (encodings.take j).flatten <+: arrived es ↔ j ≤ k) ∧
      (start limit).completed es =
        firstResults (ms.take k) (lastOf (!ended es) (encodings.take k).flatten (arrived es))
          ((start limit).completed es).length ∧
      ((start limit).after es).poll.2 =
        resultAt (ms.take k) (lastOf (!ended es) (encodings.take k).flatten (arrived es))
          ((start limit).completed es).length) ∧
    (∀ es n, arrived es = encodings.flatten → ended es = true →
      (start limit).completed (es ++ List.replicate n .poll) =
        firstResults ms .finished (((start limit).completed es).length + n)) ∧
    (∀ es n i part rest, encodings[i]? = some (part ++ rest) → part ≠ [] → rest ≠ [] →
      arrived es = (encodings.take i).flatten ++ part → ended es = true →
      (start limit).completed (es ++ List.replicate n .poll) =
        firstResults (ms.take i) (.failed (.plain .unexpectedEnd))
          (((start limit).completed es).length + n)) ∧
    (∀ es es', arrived es <+: encodings.flatten → arrived es' = arrived es →
      ended es' = ended es →
      ((start limit).completed es').length = ((start limit).completed es).length →
      (start limit).completed es' = (start limit).completed es) := by
  obtain rfl := encodings_eq hsend
  simp only [take_frames, ← List.flatMap_def]
  refine ⟨?_, ?_, ?_, ?_⟩
  · intro es h
    obtain ⟨k, hk, hres⟩ := results_of_whole hfits es h
    exact ⟨k, hk.1, hk.2, hres⟩
  · intro es n h he
    have hall : Whole ms (arrived es) ms.length := by
      rw [h]
      exact whole_all ms
    have hres := completed_polls hfits (by rw [h]) he hall n
    rw [List.take_length] at hres
    rw [hres, h]
    simp [lastOf]
  · intro es n i part rest hi hpart hrest h he
    rw [List.getElem?_map, Option.map_eq_some_iff] at hi
    obtain ⟨m, hm, hframe⟩ := hi
    obtain ⟨hlt, hget⟩ := List.getElem?_eq_some_iff.mp hm
    have hsplit : ms = ms.take i ++ m :: ms.drop (i + 1) := by
      rw [← hget, ← List.drop_eq_getElem_cons hlt, List.take_append_drop]
    have hlen : (ms.take i).length = i := List.length_take_of_le hlt.le
    have hwhole := whole_inside hframe hrest (ms.take i) (ms.drop (i + 1))
    rw [← hsplit, hlen, ← h] at hwhole
    have hpre : arrived es <+: ms.flatMap frame := by
      rw [hsplit, List.flatMap_append, List.flatMap_cons, hframe, h, List.append_assoc part,
        ← List.append_assoc]
      exact List.prefix_append _ _
    rw [completed_polls hfits hpre he hwhole, h]
    simp [lastOf, hpart]
  · intro es es' h harr hend hlen
    have hres := (results_of_start limit es).1
    have hres' := (results_of_start limit es').1
    rw [hres', hres, harr, hend, hlen]

/-- An empty message and one of two bytes, each cut inside its length; the first
receive is dropped. -/
theorem receives_of_cut_lengths :
    [[], [7, 8]].map (Framer.mk [] 0).encode = [[0, 0, 0, 0], [0, 0, 0, 2, 7, 8]].map .ok ∧
    (∀ m ∈ [[], [7, 8]], Fits 2 m) ∧
    (start 2).completed ([.arrive [0, 0], .poll, .drop, .arrive [0, 0, 0, 0, 0], .poll, .poll,
      .arrive [2, 7, 8], .finish] ++ List.replicate 3 .poll) =
        [.message [], .message [7, 8], .finished, .finished] := by
  have hfits : ∀ m ∈ [[], [7, 8]], Fits 2 m := by simp [Fits]
  have h := (receives_follow_bytes 2 ⟨[], 0⟩ [[], [7, 8]] [[0, 0, 0, 0], [0, 0, 0, 2, 7, 8]]
    rfl hfits).2.1 [.arrive [0, 0], .poll, .drop, .arrive [0, 0, 0, 0, 0], .poll, .poll,
      .arrive [2, 7, 8], .finish] 3 rfl rfl
  refine ⟨rfl, hfits, ?_⟩
  rw [h]
  rfl

end Callwire.Stream
