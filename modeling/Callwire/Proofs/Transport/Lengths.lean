import Callwire.Proofs.Transport.Attended
import Callwire.Proofs.Transport.Results

/-!
# Lengths of four bytes

A limit keeps the length of a message below the number at which four bytes end. Where there is
no limit a longer message is sent all the same, with what is left of its length, and whoever
receives it takes the rest of it for the messages that follow.
-/

set_option autoImplicit false

namespace Callwire.Stream
open Framer (frame tooLong atEnd)
open Reader

namespace Framer

/-- What is taken off an encoding without a limit, however long the message is. -/
theorem take_wrapped (m rest : Bytes) : (Framer.mk (frame m ++ rest) 0).take =
    .ok (some (m.take (m.length % 2 ^ 32), ⟨m.drop (m.length % 2 ^ 32) ++ rest, 0⟩)) := by
  have hw : Bytes.word? (Framer.mk (frame m ++ rest) 0).buffer =
      some (UInt32.ofNat m.length, m ++ rest) := by
    rw [frame_append_eq, Bytes.word?_ofWord]
  have hle : m.length % 2 ^ 32 ≤ m.length := Nat.mod_le _ _
  have hok : (Framer.mk (frame m ++ rest) 0).check (m.length % 2 ^ 32) = .ok () :=
    (check_eq_ok_iff _ _).mpr (.inl rfl)
  have hlong : ¬(m ++ rest).length < m.length % 2 ^ 32 := by
    rw [List.length_append]
    omega
  rw [take_of_word hw, UInt32.toNat_ofNat', hok]
  simp only [hlong, if_false, List.take_append_of_le_length hle,
    List.drop_append_of_le_length hle]

end Framer

def Framed (m b : Bytes) : Prop :=
  (holding [] 0 b true).poll = (holding [] 0 [] true, .message m)

theorem poll_wrapped (m : Bytes) :
    (holding [] 0 (frame m) true).poll.2 = .message (m.take (m.length % 2 ^ 32)) := by
  obtain ⟨r, hp, -⟩ := poll_found (holding_ready [] 0 (frame m) true)
  have htake := Framer.take_wrapped m []
  rw [List.append_nil] at htake
  rw [hp]
  exact Framer.found_of_some htake true

theorem framed_frame_iff (m : Bytes) : Framed m (frame m) ↔ m.length < 2 ^ 32 := by
  constructor
  · intro h
    have hpoll := poll_wrapped m
    rw [h, Poll.message.injEq] at hpoll
    have hlen := congrArg List.length hpoll
    rw [List.length_take] at hlen
    omega
  · intro hlt
    have hreceive := Framer.receive_eq _ ⟨[], 0⟩ ⟨frame m, true, true⟩ (Nat.lt_succ_self _)
    have htake : (Framer.extend ⟨[], 0⟩ (frame m)).take = .ok (some (m, ⟨[], 0⟩)) :=
      Framer.take_frame (f := ⟨[] ++ frame m, 0⟩) ⟨hlt, .inl rfl⟩ (List.append_nil _).symm
    rw [htake] at hreceive
    obtain ⟨⟨buffer, limit⟩, back, hr, hk⟩ := hreceive
    simp only [Framer.extend, Framer.mk.injEq, List.append_eq_nil_iff] at hk
    obtain ⟨⟨rfl, rfl⟩, rfl⟩ := hk
    rw [Framed, poll_eq (holding_ready _ _ _ _)]
    simp only [holding, hr, reduceCtorEq, decide_false]

namespace Duplex

variable {d : Duplex} {s : Side}

def Open (d : Duplex) (s : Side) : Prop :=
  (d.pipe s.other).writing = true ∧ (d.pipe s.other).attached = true

def Lets (d : Duplex) (s : Side) (m : Bytes) : Prop :=
  (d.framer s).limit = 0 ∨ m.length ≤ (d.framer s).limit

instance (d : Duplex) (s : Side) (m : Bytes) : Decidable (d.Lets s m) :=
  inferInstanceAs (Decidable (_ ∨ _))

def putting (d : Duplex) (s : Side) (b : Bytes) : Duplex :=
  d.setPipe s.other { d.pipe s.other with bytes := (d.pipe s.other).bytes ++ b }

theorem send_of_lets (h : d.Open s) {m : Bytes} (hm : d.Lets s m) :
    send s d m = .ok (d.putting s (frame m)) := by
  have hencode := (Framer.encode_eq_ok_iff (d.framer s) m (frame m)).mpr ⟨hm, rfl⟩
  simp only [send, hencode, write, Pipe.write_frame h.1 h.2, Except.map, putting]

theorem send_of_not_lets {m : Bytes} (hm : ¬d.Lets s m) :
    send s d m = .error (tooLong m.length) := by
  unfold Lets at hm
  have hcheck : (d.framer s).check m.length = .error (tooLong m.length) :=
    Framer.check_of_lt (by omega) (by omega)
  simp only [send, Framer.encode, hcheck]

/-- A side without a limit receives the front of a message whose length wraps around. -/
theorem receive_wrapped (hframer : d.framer s = ⟨[], 0⟩) {m : Bytes}
    (hpipe : (d.pipe s).bytes = frame m) :
    ∃ f back, f.limit = 0 ∧
      receive s d = ((d.setFramer s f).setPipe s { d.pipe s with bytes := back },
        .message (m.take (m.length % 2 ^ 32))) := by
  have hreceive := Framer.receive_eq _ (d.framer s) (d.pipe s) (Nat.lt_succ_self _)
  have htake := Framer.take_wrapped m []
  rw [List.append_nil] at htake
  rw [show (d.framer s).extend (d.pipe s).bytes = ⟨frame m, 0⟩ by rw [hframer, hpipe]; rfl,
    htake] at hreceive
  obtain ⟨f, back, hr, hk⟩ := hreceive
  exact ⟨f, back, congrArg Framer.limit hk, by rw [receive, hr]⟩

def SendsWhole (d : Duplex) (s : Side) (m : Bytes) : Prop :=
  (¬d.Lets s m ∧ send s d m = .error (tooLong m.length)) ∨
    ∃ b, send s d m = .ok (d.putting s b) ∧ Framed m b

theorem sendsWhole_iff (h : d.Open s) (hlimit : (d.framer s).limit < 2 ^ 32) (m : Bytes) :
    d.SendsWhole s m ↔ ((d.framer s).limit = 0 → m.length < 2 ^ 32) := by
  by_cases hm : d.Lets s m
  · have hwhole : d.SendsWhole s m ↔ Framed m (frame m) := by
      constructor
      · rintro (⟨hnot, -⟩ | ⟨b, hsend, hb⟩)
        · exact absurd hm hnot
        · rw [send_of_lets h hm, Except.ok.injEq] at hsend
          have hbytes := congrArg (fun d => (d.pipe s.other).bytes) hsend
          simp only [putting, pipe_setPipe, List.append_cancel_left_eq] at hbytes
          rw [hbytes]
          exact hb
      · exact fun hframed => .inr ⟨_, send_of_lets h hm, hframed⟩
    rw [hwhole, framed_frame_iff]
    unfold Lets at hm
    omega
  · refine iff_of_true (.inl ⟨hm, send_of_not_lets hm⟩) fun h0 => ?_
    exact absurd (.inl h0) hm

def offer (s : Side) (d : Duplex) (m : Bytes) : Duplex :=
  match send s d m with
  | .ok d' => d'
  | .error _ => d

theorem offer_of_lets (h : d.Open s) {m : Bytes} (hm : d.Lets s m) :
    offer s d m = d.putting s (frame m) := by
  rw [offer, send_of_lets h hm]

theorem offer_of_not_lets {m : Bytes} (hm : ¬d.Lets s m) : offer s d m = d := by
  rw [offer, send_of_not_lets hm]

theorem Open.putting (h : d.Open s) (b : Bytes) : (d.putting s b).Open s := by
  simpa only [Open, Duplex.putting, pipe_setPipe] using h

theorem lets_putting (b m : Bytes) : (d.putting s b).Lets s m ↔ d.Lets s m := by
  rw [Lets, Lets, putting, framer_setPipe]

/-- The encodings of what the limit lets through are on their way in order. -/
theorem bytes_offers (h : d.Open s) (ms : List Bytes) :
    ((ms.foldl (offer s) d).pipe s.other).bytes =
      (d.pipe s.other).bytes ++ (ms.filter (d.Lets s ·)).flatMap frame := by
  induction ms generalizing d with
  | nil => simp
  | cons m ms ih =>
    rw [List.foldl_cons]
    by_cases hm : d.Lets s m
    · rw [offer_of_lets h hm, ih (h.putting _)]
      simp only [lets_putting]
      simp [hm, putting]
    · rw [offer_of_not_lets hm, ih h]
      simp [hm]

end Duplex

open Duplex

/-- A receiver stays in step with what is sent to it as long as no message without a limit is
longer than four bytes can say. -/
theorem in_step_iff_lengths_fit (d : Duplex) (s : Side) (hopen : d.Open s)
    (hlimit : (d.framer s).limit < 2 ^ 32) :
    (∀ m, d.SendsWhole s m ↔ ((d.framer s).limit = 0 → m.length < 2 ^ 32)) ∧
      ∀ before ms : List Bytes, (d.pipe s.other).bytes = before.flatMap frame →
        (∀ m ∈ before, m.length < 2 ^ 32) →
        (∀ m ∈ ms, (d.framer s).limit = 0 → m.length < 2 ^ 32) →
        ∀ es, arrived es = [] →
          let r := holding [] 0 ((ms.foldl (offer s) d).pipe s.other).bytes true
          let sent := before ++ ms.filter (d.Lets s ·)
          r.completed es = firstResults sent (atEnd [] (!ended es)) (r.completed es).length ∧
            (r.after es).poll.2 =
              resultAt sent (atEnd [] (!ended es)) (r.completed es).length := by
  refine ⟨sendsWhole_iff hopen hlimit, fun before ms hbefore hshort hms es hes => ?_⟩
  intro r sent
  have hfits : ∀ m ∈ sent, Framer.Fits 0 m := by
    intro m hm
    refine ⟨?_, .inl rfl⟩
    rcases List.mem_append.mp hm with hm | hm
    · exact hshort m hm
    · obtain ⟨hmem, hlets⟩ := List.mem_filter.mp hm
      have hshort' := hms m hmem
      have hlets : d.Lets s m := of_decide_eq_true hlets
      unfold Lets at hlets
      omega
  have hwhole : r.whole.extend (r.incoming es) = ⟨sent.flatMap frame ++ [], 0⟩ := by
    simp [r, sent, whole, incoming, holding, Framer.extend, hes, bytes_offers hopen, hbefore]
  have hopen? : r.open? es = !ended es := by simp [r, open?, holding]
  have hempty : (Framer.mk [] 0).take = .ok none := rfl
  have hrun := results_of_contents es r (holding_ready _ _ _ _)
  rw [hwhole, hopen?, Framer.contents_frames hfits, (Framer.stuck_of_none hempty).contents,
    List.append_nil, Framer.found_of_none hempty] at hrun
  exact hrun

/-- The first of two messages is too long for a limit of two, and the second one is received. -/
theorem second_in_step :
    (Duplex.fresh 2).Open .a ∧ ((Duplex.fresh 2).framer .a).limit < 2 ^ 32 ∧
      (Duplex.fresh 2).SendsWhole .a [7, 8, 9] ∧
      (holding [] 0 (([[7, 8, 9], [7, 8]].foldl (offer .a) (.fresh 2)).pipe .b).bytes
        true).completed [.poll, .finish, .poll] = [.message [7, 8], .finished] := by
  have hopen : (Duplex.fresh 2).Open .a := ⟨rfl, rfl⟩
  have hlimit : ((Duplex.fresh 2).framer .a).limit < 2 ^ 32 := by decide
  have h := in_step_iff_lengths_fit (.fresh 2) .a hopen hlimit
  refine ⟨hopen, hlimit, (h.1 _).mpr (by decide), ?_⟩
  exact (h.2 [] [[7, 8, 9], [7, 8]] rfl (by simp) (by decide) [.poll, .finish, .poll] rfl).1.trans
    (by decide)

/-- A message of `2 ^ 32` bytes is sent without a limit and received as an empty one. -/
theorem length_wraps_around :
    (Duplex.fresh 0).Open .a ∧
      Duplex.send .a (.fresh 0) (List.replicate (2 ^ 32) 0) =
        .ok ((Duplex.fresh 0).putting .a (frame (List.replicate (2 ^ 32) 0))) ∧
      (holding [] 0 (frame (List.replicate (2 ^ 32) 0)) true).poll.2 = .message [] ∧
      ¬(Duplex.fresh 0).SendsWhole .a (List.replicate (2 ^ 32) 0) := by
  have hopen : (Duplex.fresh 0).Open .a := ⟨rfl, rfl⟩
  refine ⟨hopen, send_of_lets hopen (.inl rfl), ?_, ?_⟩
  · rw [poll_wrapped, List.length_replicate, Nat.mod_self, List.take_zero]
  · rw [sendsWhole_iff hopen (by decide), List.length_replicate]
    exact fun h => absurd (h rfl) (lt_irrefl _)

end Callwire.Stream
