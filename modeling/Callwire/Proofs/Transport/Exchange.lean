import Callwire.Proofs.Transport.Deeds
import Callwire.Proofs.Transport.Reassembly

/-!
# Exchanges in memory

The two ends of a pair are used in any order until they go away. What an end has
done is recorded beside the pair, and the state of each lane can be told from what
was done at its two ends.
-/

set_option autoImplicit false

namespace Callwire

@[simp] theorem Side.other_other (s : Side) : s.other.other = s := by
  cases s <;> rfl

theorem Side.eq_or_eq_other (s t : Side) : t = s ∨ t = s.other := by
  cases s <;> cases t <;> simp [other]

namespace Memory

namespace Pair

theorem send_error_iff (s : Side) (p : Pair) (m : Bytes) (f : TransportFault) :
    send s p m = .error f ↔ (p.lane s.other).send m = .error f := by
  rw [send]
  cases (p.lane s.other).send m <;> simp [Except.map]

theorem send_ok_iff (s : Side) (p : Pair) (m : Bytes) :
    (∃ p', send s p m = .ok p') ↔ ∃ l, (p.lane s.other).send m = .ok l := by
  rw [send]
  cases (p.lane s.other).send m <;> simp [Except.map]

end Pair

structure Exchange where
  pair : Pair
  deeds : Side → List Deed

namespace Exchange

def start : Exchange := ⟨.fresh, fun _ => []⟩

def note (x : Exchange) (s : Side) (p : Pair) (d : Deed) : Exchange :=
  ⟨p, Function.update x.deeds s (x.deeds s ++ [d])⟩

def use (x : Exchange) (s : Side) : Use → Exchange
  | .send m =>
    match Pair.send s x.pair m with
    | .ok p => x.note s p (.sent m)
    | .error f => x.note s x.pair (.refused m f)
  | .receive => x.note s (Pair.receive s x.pair).1 (.received (Pair.receive s x.pair).2)
  | .shutdown => x.note s (Pair.shutdown s x.pair) .shut
  | .drop => x.note s (Pair.detach s x.pair) (.left (x.pair.lane s).queue)

def step (x : Exchange) (u : Side × Use) : Exchange :=
  if x.pair.present u.1 then x.use u.1 u.2 else x

def run (x : Exchange) : List (Side × Use) → Exchange
  | [] => x
  | u :: us => (x.step u).run us

@[simp] theorem deeds_note (x : Exchange) (s : Side) (p : Pair) (d : Deed) :
    (x.note s p d).deeds s = x.deeds s ++ [d] :=
  Function.update_self ..

@[simp] theorem deeds_note_other (x : Exchange) (s : Side) (p : Pair) (d : Deed) :
    (x.note s p d).deeds s.other = x.deeds s.other := by
  cases s <;> rfl

def Sound (x : Exchange) : Prop :=
  ∀ s, Told (x.pair.lane s) (x.deeds s.other) (x.deeds s)

theorem sound_start : Sound start := by
  intro s
  cases s <;> exact told_fresh

variable {x : Exchange} {s : Side}

/-- A deed is one of the receiver of one lane and of the sender of the other. -/
theorem sound_note {p : Pair} {d : Deed}
    (hin : Told (p.lane s) (x.deeds s.other) (x.deeds s ++ [d]))
    (hout : Told (p.lane s.other) (x.deeds s ++ [d]) (x.deeds s.other)) :
    Sound (x.note s p d) := by
  intro t
  rcases s.eq_or_eq_other t with rfl | rfl
  · rw [deeds_note, deeds_note_other]
    exact hin
  · rw [Side.other_other, deeds_note, deeds_note_other]
    exact hout

theorem Sound.use (h : Sound x) (hp : x.pair.present s = true) (u : Use) : Sound (x.use s u) := by
  have hin := h s
  have hout := h s.other
  rw [Side.other_other] at hout
  cases u with
  | send m =>
    simp only [Exchange.use]
    cases hs : Pair.send s x.pair m with
    | ok p =>
      obtain ⟨l, hl, rfl⟩ := Pair.eq_of_send hs
      apply sound_note
      · rw [Pair.lane_set_self_of_other]
        exact hin.receiver_aside rfl rfl (by simp [HasLeft])
      · rw [Pair.lane_set]
        exact hout.send hl
    | error f =>
      apply sound_note
      · exact hin.receiver_aside rfl rfl (by simp [HasLeft])
      · exact hout.sender_aside rfl (by simp [HasShut]) (by simp [HasLeft])
  | receive =>
    apply sound_note
    · simp only [Pair.receive, Pair.lane_set]
      exact hin.receive
    · simp only [Pair.receive, Pair.lane_set_other]
      exact hout.sender_aside rfl (by simp [HasShut]) (by simp [HasLeft])
  | shutdown =>
    apply sound_note
    · rw [Pair.shutdown, Pair.lane_set_self_of_other]
      exact hin.receiver_aside rfl rfl (by simp [HasLeft])
    · rw [Pair.shutdown, Pair.lane_set]
      exact hout.shut rfl (Or.inl (by simp [HasShut]))
  | drop =>
    apply sound_note
    · rw [Pair.detach, Pair.lane_set, Pair.shutdown, Pair.lane_set_self_of_other]
      exact hin.detach hp
    · rw [Pair.detach, Pair.lane_set_other, Pair.shutdown, Pair.lane_set]
      exact hout.shut rfl (Or.inr (by simp [HasLeft]))

theorem Sound.step (h : Sound x) (u : Side × Use) : Sound (x.step u) := by
  unfold Exchange.step
  split_ifs with hp
  · exact h.use hp u.2
  · exact h

theorem Sound.run (h : Sound x) (us : List (Side × Use)) : Sound (x.run us) := by
  induction us generalizing x with
  | nil => exact h
  | cons u us ih => exact ih (h.step u)

/-! ## After the end of a lane -/

def Ended (x : Exchange) (s : Side) : Prop :=
  (x.pair.lane s).sending = false ∧ (x.pair.lane s).attached = true

/-- What the other end does has no part in a lane that has ended. -/
theorem Ended.use_other (h : Ended x s) (u : Use) :
    (x.use s.other u).pair.lane s = x.pair.lane s := by
  have hshut : (x.pair.lane s).shut = x.pair.lane s := by
    rw [Lane.shut, ← h.1]
  cases u with
  | send m =>
    have hrefused : Pair.send s.other x.pair m = .error (.plain .notConnected) := by
      rw [Pair.send, Side.other_other, Lane.send, h.1]
      rfl
    simp only [use, hrefused]
    rfl
  | receive => exact Pair.lane_set_self_of_other ..
  | shutdown =>
    simp only [use, note, Pair.shutdown, Side.other_other, Pair.lane_set, hshut]
  | drop =>
    simp only [use, note, Pair.detach, Pair.shutdown, Side.other_other,
      Pair.lane_set_self_of_other, Pair.lane_set, hshut]

/-- Of what an end does only a receive takes from the lane to it. -/
theorem use_self {u : Use} (hdrop : u ≠ .drop) (hreceive : u ≠ .receive) :
    (x.use s u).pair.lane s = x.pair.lane s ∧
      pollsBy ((x.use s u).deeds s) = pollsBy (x.deeds s) := by
  cases u with
  | send m =>
    simp only [use]
    cases hs : Pair.send s x.pair m with
    | ok p =>
      obtain ⟨l, -, rfl⟩ := Pair.eq_of_send hs
      simp [note, pollsBy, Deed.poll?]
    | error f => simp [note, pollsBy, Deed.poll?]
  | receive => exact absurd rfl hreceive
  | shutdown => simp [use, note, Pair.shutdown, pollsBy, Deed.poll?]
  | drop => exact absurd rfl hdrop

theorem deeds_use_other (x : Exchange) (s : Side) (u : Use) :
    (x.use s.other u).deeds s = x.deeds s := by
  have hnote : ∀ p d, (x.note s.other p d).deeds s = x.deeds s := by
    intro p d
    cases s <;> rfl
  cases u with
  | send m =>
    simp only [use]
    cases Pair.send s.other x.pair m <;> exact hnote _ _
  | receive | shutdown | drop => exact hnote _ _

theorem Ended.step_receive (h : Ended x s) : Ended (x.step (s, .receive)) s ∧
    ((x.step (s, .receive)).pair.lane s).queue = (x.pair.lane s).queue.tail ∧
    pollsBy ((x.step (s, .receive)).deeds s) =
      pollsBy (x.deeds s) ++ [Poll.finished.first (x.pair.lane s).queue] := by
  have hstep : x.step (s, .receive) = x.use s .receive := if_pos h.2
  have hlane : (x.use s .receive).pair.lane s = (x.pair.lane s).receive.1 := Pair.lane_set ..
  have hdeeds : (x.use s .receive).deeds s =
      x.deeds s ++ [.received (x.pair.lane s).receive.2] := deeds_note ..
  have hreceive := Lane.receive_eq (x.pair.lane s)
  rw [h.1, if_neg Bool.false_ne_true] at hreceive
  rw [hstep, Ended, hlane, hdeeds, hreceive, pollsBy_append]
  exact ⟨⟨rfl, h.2⟩, rfl, rfl⟩

theorem Ended.step_aside (h : Ended x s) {u : Side × Use} (hdrop : u ≠ (s, .drop))
    (hreceive : u ≠ (s, .receive)) : (x.step u).pair.lane s = x.pair.lane s ∧
      pollsBy ((x.step u).deeds s) = pollsBy (x.deeds s) := by
  obtain ⟨t, u⟩ := u
  rw [step]
  split_ifs
  · rcases s.eq_or_eq_other t with rfl | rfl
    · exact use_self (fun hu => hdrop (congrArg _ hu)) fun hu => hreceive (congrArg _ hu)
    · exact ⟨h.use_other u, by rw [deeds_use_other]⟩
  · exact ⟨rfl, rfl⟩

theorem firstResults_first (queue : List Bytes) (last : Poll) (n : Nat) :
    Stream.firstResults queue last (n + 1) =
      last.first queue :: Stream.firstResults queue.tail last n := by
  cases queue with
  | nil =>
    rw [Stream.firstResults_nil, List.tail_nil, Stream.firstResults_nil, List.replicate_succ]
    rfl
  | cons m rest => exact Stream.firstResults_cons m rest last n

/-- From the end of a lane on, its receiver finds what is queued, and then the end, whatever
else is done at both ends. -/
theorem Ended.polls (h : Ended x s) {us : List (Side × Use)} (hdrop : (s, .drop) ∉ us) :
    pollsBy ((x.run us).deeds s) = pollsBy (x.deeds s) ++
      Stream.firstResults (x.pair.lane s).queue .finished (us.count (s, .receive)) := by
  induction us generalizing x with
  | nil => simp [run, Stream.firstResults]
  | cons u us ih =>
    rw [List.mem_cons, not_or] at hdrop
    by_cases hu : u = (s, .receive)
    · subst hu
      obtain ⟨hended, hqueue, hpolls⟩ := h.step_receive
      rw [run, ih hended hdrop.2, hqueue, hpolls, List.count_cons_self, firstResults_first,
        List.append_assoc, List.singleton_append]
    · obtain ⟨hlane, hpolls⟩ := h.step_aside (Ne.symm hdrop.1) hu
      have hended : Ended (x.step u) s := by
        rw [Ended, hlane]
        exact h
      rw [run, ih hended hdrop.2, hlane, hpolls, List.count_cons_of_ne hu]

/-! ## Main result -/

structure Faithful (x : Exchange) (s : Side) : Prop where
  messages : receivedBy (x.deeds s) ++ ((x.pair.lane s).queue ++ lostBy (x.deeds s)) =
    sentBy (x.deeds s.other)
  lost : ¬ HasLeft (x.deeds s) → lostBy (x.deeds s) = []
  message : ∀ m, (Pair.receive s x.pair).2 = .message m ↔ (x.pair.lane s).queue.head? = some m
  finished : ¬ HasLeft (x.deeds s) → ((Pair.receive s x.pair).2 = .finished ↔
    (x.pair.lane s).queue = [] ∧ (HasShut (x.deeds s.other) ∨ HasLeft (x.deeds s.other)))
  waiting : ¬ HasLeft (x.deeds s) → ((Pair.receive s x.pair).2 = .waiting ↔
    (x.pair.lane s).queue = [] ∧ ¬ (HasShut (x.deeds s.other) ∨ HasLeft (x.deeds s.other)))
  notConnected : ¬ HasLeft (x.deeds s) → ∀ m,
    Pair.send s x.pair m = .error (.plain .notConnected) ↔ HasShut (x.deeds s)
  brokenPipe : ¬ HasLeft (x.deeds s) → ∀ m,
    Pair.send s x.pair m = .error (.plain .brokenPipe) ↔
      ¬ HasShut (x.deeds s) ∧ HasLeft (x.deeds s.other)
  sent : ¬ HasLeft (x.deeds s) → ∀ m, (∃ p, Pair.send s x.pair m = .ok p) ↔
    ¬ HasShut (x.deeds s) ∧ ¬ HasLeft (x.deeds s.other)
  refused : ∀ m f, Pair.send s x.pair m = .error f → (x.step (s, .send m)).pair = x.pair
  delivered : ¬ HasLeft (x.deeds s) → HasShut (x.deeds s.other) ∨ HasLeft (x.deeds s.other) →
    ∀ us, (s, .drop) ∉ us → pollsBy ((x.run us).deeds s) = pollsBy (x.deeds s) ++
      Stream.firstResults (x.pair.lane s).queue .finished (us.count (s, .receive))

theorem Sound.faithful (h : Sound x) (s : Side) : Faithful x s := by
  have hin := h s
  have hout := h s.other
  rw [Side.other_other] at hout
  have hhere (hleft : ¬ HasLeft (x.deeds s)) : (x.pair.lane s).attached = true := by
    rwa [← hin.attached, Bool.not_eq_false] at hleft
  have hopen (hleft : ¬ HasLeft (x.deeds s)) :
      (x.pair.lane s.other).sending = true ↔ ¬ HasShut (x.deeds s) := by
    rw [← Bool.not_eq_false, hout.sending, or_iff_left hleft]
  have hthere : (x.pair.lane s.other).attached = true ↔ ¬ HasLeft (x.deeds s.other) := by
    rw [← Bool.not_eq_false, hout.attached]
  constructor
  case messages => exact hin.messages
  case lost => exact fun hleft => hin.lost (hhere hleft)
  case message => exact (x.pair.lane s).receive_message_iff
  case finished =>
    intro _
    rw [← hin.sending]
    exact (x.pair.lane s).receive_finished_iff
  case waiting =>
    intro _
    rw [← hin.sending, Bool.not_eq_false]
    exact (x.pair.lane s).receive_waiting_iff
  case notConnected =>
    intro hleft m
    rw [Pair.send_error_iff, Lane.send_notConnected_iff, hout.sending, or_iff_left hleft]
  case brokenPipe =>
    intro hleft m
    rw [Pair.send_error_iff, Lane.send_brokenPipe_iff, hopen hleft, hout.attached]
  case sent =>
    intro hleft m
    rw [Pair.send_ok_iff, Lane.send_ok_iff, hopen hleft, hthere]
  case refused =>
    intro m f hf
    rw [Exchange.step]
    split_ifs
    · simp only [Exchange.use, hf]
      rfl
    · rfl
  case delivered =>
    intro hleft hends us hdrop
    exact Ended.polls ⟨hin.sending.mpr hends, hhere hleft⟩ hdrop

/-- However two ends in memory are used, nothing is lost between them, nothing is made up,
and every end is told what the other one has done. -/
theorem exchanges_are_faithful (us : List (Side × Use)) (s : Side) :
    Faithful (start.run us) s :=
  (sound_start.run us).faithful s

/-- An empty message is one of its own, and what was queued outlives the end that sent it. -/
example : (start.run [(.a, .send [1, 2]), (.a, .send []), (.a, .shutdown), (.a, .send [3]),
    (.a, .drop), (.b, .receive), (.b, .receive), (.b, .receive)]).deeds .b =
      [.received (.message [1, 2]), .received (.message []), .received .finished] := by
  decide

end Exchange

end Memory

end Callwire
