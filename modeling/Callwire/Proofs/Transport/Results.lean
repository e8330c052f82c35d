import Callwire.Proofs.Transport.Contents
import Callwire.Proofs.Transport.Reader

/-!
# Results of a reader

What a reader finds follows from the bytes that it holds, however many of them are in its
buffer, and from those that are still to come: the messages in front of all of these bytes,
and then what is found behind them.
-/

set_option autoImplicit false

namespace Callwire.Stream

def Event.bytes : Event → Bytes
  | .arrive chunk => chunk
  | .finish | .poll | .drop => []

theorem arrived_cons (e : Event) (es : List Event) :
    arrived (e :: es) = e.bytes ++ if e = .finish then [] else arrived es := by
  cases e <;> simp [arrived, Event.bytes]

namespace Reader

variable {r : Reader}

def holding (buffer : Bytes) (limit : Nat) (bytes : Bytes) (writing : Bool) : Reader :=
  ⟨⟨buffer, limit⟩, ⟨bytes, writing, true⟩, false⟩

theorem holding_ready (buffer : Bytes) (limit : Nat) (bytes : Bytes) (writing : Bool) :
    (holding buffer limit bytes writing).Ready :=
  ⟨rfl, fun h => absurd h (by simp [holding])⟩

def whole (r : Reader) : Framer := r.framer.extend r.pipe.bytes

def incoming (r : Reader) (es : List Event) : Bytes :=
  if r.pipe.writing then arrived es else []

theorem whole_of_pipe {p : Pipe} {more : Bytes} (h : p.bytes = r.pipe.bytes ++ more) :
    Reader.whole { r with pipe := p } = r.whole.extend more := by
  rw [whole, whole, Framer.extend_extend, ← h]

theorem poll_error (h : r.Ready) {e : TransportFault} (ht : r.whole.take = .error e) :
    ∃ r' : Reader, r.poll = (r', .failed e) ∧ r'.Ready ∧ r'.whole = r.whole ∧
      r'.pipe.writing = r.pipe.writing := by
  have hr := Framer.receive_eq _ r.framer r.pipe (Nat.lt_succ_self _)
  change r.whole.take = .error e at ht
  rw [show r.framer.extend r.pipe.bytes = r.whole from rfl, ht] at hr
  obtain ⟨k, back, hr, hk⟩ := hr
  rw [poll_eq h, hr]
  exact ⟨⟨k, { r.pipe with bytes := back }, false⟩, by simp, ⟨h.1, by simp⟩, hk, rfl⟩

theorem whole_of_held {r' : Reader} {g : Framer} (hheld : r'.held = g.buffer)
    (hlimit : r'.framer.limit = g.limit) : r'.whole = g := by
  obtain ⟨buffer, limit⟩ := g
  subst hheld
  subst hlimit
  rfl

/-- A receive takes the first message, or leaves all bytes where they are in their order. -/
theorem poll_found (h : r.Ready) : ∃ r' : Reader, r.poll = (r', r.whole.found r.pipe.writing) ∧
    r'.Ready ∧ r'.pipe.writing = r.pipe.writing ∧
    (∀ m g, r.whole.take = .ok (some (m, g)) → r'.whole = g) ∧
    (r.whole.Stuck → r'.whole = r.whole) := by
  cases ht : r.whole.take with
  | error e =>
    obtain ⟨r', hp, hready, hwhole, hw⟩ := poll_error h ht
    refine ⟨r', ?_, hready, hw, ?_, fun _ => hwhole⟩
    · rw [Framer.found_of_error ht, hp]
    · intro m g hsome
      cases hsome
  | ok o =>
    cases o with
    | none =>
      obtain ⟨r', hp, hready, hheld, hlimit, hw⟩ := poll_nothing h ht
      refine ⟨r', ?_, hready, hw, ?_, fun _ => whole_of_held hheld hlimit⟩
      · rw [Framer.found_of_none ht, hp]
        rfl
      · intro m g hsome
        cases hsome
    | some o =>
      obtain ⟨m, g⟩ := o
      obtain ⟨r', hp, hready, hheld, hlimit, hw⟩ := poll_message h ht
      refine ⟨r', ?_, hready, hw, ?_, fun hstuck => absurd ht (hstuck m g)⟩
      · rw [Framer.found_of_some ht, hp]
      · intro m' g' hsome
        cases hsome
        exact whole_of_held hheld hlimit

theorem incoming_nil (r : Reader) : r.incoming [] = [] := by
  simp [incoming, arrived]

def stream (r : Reader) (es : List Event) : Bytes :=
  r.held ++ if r.pipe.writing then arrived es else []

def open? (r : Reader) (es : List Event) : Bool := r.pipe.writing && !ended es

theorem step_arrive (hr : r.Ready) (chunk : Bytes) :
    ∃ p, r.step (.arrive chunk) = ({ r with pipe := p }, none) ∧ p.attached = true ∧
      p.writing = r.pipe.writing ∧
      p.bytes = r.pipe.bytes ++ if r.pipe.writing then chunk else [] := by
  by_cases hc : chunk = []
  · subst hc
    refine ⟨r.pipe, ?_, hr.1, rfl, by simp⟩
    simp [step, Pipe.write]
  · cases hw : r.pipe.writing with
    | true =>
      refine ⟨{ r.pipe with bytes := r.pipe.bytes ++ chunk }, ?_, hr.1, hw, by simp⟩
      simp [step, Pipe.write, hc, hw, hr.1]
    | false =>
      refine ⟨r.pipe, ?_, hr.1, hw, by simp⟩
      simp [step, Pipe.write, hc, hw]

/-- An event other than a receive at most puts bytes behind those that are there, or ends
the stream. -/
theorem step_other (hr : r.Ready) {e : Event} (he : e ≠ .poll) : ∃ r' : Reader,
    r.step e = (r', none) ∧ r'.Ready ∧
      r'.whole = r.whole.extend (if r.pipe.writing then e.bytes else []) ∧
      r'.pipe.writing = (r.pipe.writing && !(Event.finish == e)) := by
  cases e with
  | arrive chunk =>
    obtain ⟨p, hstep, hatt, hwrite, hbytes⟩ := step_arrive hr chunk
    refine ⟨_, hstep, ⟨hatt, hr.2⟩, whole_of_pipe hbytes, ?_⟩
    rw [hwrite]
    simp
  | finish => exact ⟨_, rfl, hr, by simp [whole, Pipe.shut, Event.bytes], by simp [Pipe.shut]⟩
  | poll => exact absurd rfl he
  | drop =>
    exact ⟨_, rfl, ⟨hr.1, fun hw => absurd hw (by simp)⟩, by simp [whole, Event.bytes], by simp⟩

theorem step_other_rest {r' : Reader} {e : Event} (es : List Event)
    (hwhole : r'.whole = r.whole.extend (if r.pipe.writing then e.bytes else []))
    (hwrite : r'.pipe.writing = (r.pipe.writing && !(Event.finish == e))) :
    r'.whole.extend (r'.incoming es) = r.whole.extend (r.incoming (e :: es)) ∧
      r'.open? es = r.open? (e :: es) := by
  constructor
  · rw [hwhole, Framer.extend_extend, incoming, incoming, hwrite, arrived_cons]
    cases r.pipe.writing <;> cases e <;> simp [Event.bytes]
  · rw [open?, open?, hwrite, ended, ended, List.contains_cons, Bool.not_or, Bool.and_assoc]

/-- The results of a run, and the result of one more receive: the messages in front of all
the bytes of the run, and then what is found behind them. -/
theorem results_of_contents (es : List Event) (r : Reader) (hr : r.Ready) :
    r.completed es = firstResults (r.whole.extend (r.incoming es)).contents.1
        ((r.whole.extend (r.incoming es)).contents.2.found (r.open? es))
        (r.completed es).length ∧
      (r.after es).poll.2 = resultAt (r.whole.extend (r.incoming es)).contents.1
        ((r.whole.extend (r.incoming es)).contents.2.found (r.open? es))
        (r.completed es).length := by
  induction es generalizing r with
  | nil =>
    obtain ⟨r', hp, -⟩ := poll_found hr
    have hopen : r.open? [] = r.pipe.writing := by simp [open?, ended]
    rw [incoming_nil, Framer.extend_nil, hopen]
    refine ⟨rfl, ?_⟩
    show r.poll.2 = _
    rw [hp]
    exact Framer.found_eq_resultAt r.whole r.pipe.writing
  | cons e es ih =>
    by_cases he : e = .poll
    · subst he
      obtain ⟨r', hp, hr', hwrite, hsome, hstuck⟩ := poll_found hr
      have hrun := ih r' hr'
      have hopen : r'.open? es = r.open? (.poll :: es) := by simp [open?, hwrite, ended]
      have hcoming : r'.incoming es = r.incoming (.poll :: es) := by
        simp [incoming, hwrite, arrived]
      have ha : r.after (.poll :: es) = r'.after es := by simp [after, step, hp]
      rw [hopen, hcoming] at hrun
      rw [ha]
      by_cases hs : r.whole.Stuck
      · rw [hstuck hs] at hrun
        by_cases hwait : r.whole.found r.pipe.writing = .waiting
        · have hc : r.completed (.poll :: es) = r'.completed es := by
            simp [completed, step, hp, hwait]
          rw [hc]
          exact hrun
        · -- No message is in front and there is no waiting, so every later receive finds the same.
          have hc : r.completed (.poll :: es) =
              r.whole.found r.pipe.writing :: r'.completed es := by
            simp [completed, step, hp, hwait]
          obtain ⟨hstill, hfound⟩ := Framer.found_final hs hwait (r.incoming (.poll :: es))
            (r.open? (.poll :: es)) (fun hw => ⟨by simp [incoming, hw], by simp [open?, hw]⟩)
          rw [hstill.contents, hfound, firstResults_nil] at hrun ⊢
          rw [hc, List.length_cons, List.replicate_succ, ← hrun.1]
          exact ⟨rfl, hrun.2⟩
      · obtain ⟨m, g, ht⟩ : ∃ m g, r.whole.take = .ok (some (m, g)) := by
          simpa only [Framer.Stuck, not_forall, not_not] using hs
        have hc : r.completed (.poll :: es) = .message m :: r'.completed es := by
          simp [completed, step, hp, Framer.found_of_some ht]
        rw [hsome m g ht] at hrun
        rw [Framer.contents_of_some (Framer.take_extend_of_some ht _), hc, List.length_cons,
          firstResults_cons, ← hrun.1]
        exact ⟨rfl, hrun.2⟩
    · obtain ⟨r', hstep, hr', hwhole, hwrite⟩ := step_other hr he
      obtain ⟨hrest, hopen⟩ := step_other_rest es hwhole hwrite
      have hrun := ih r' hr'
      rw [hrest, hopen] at hrun
      simpa only [completed, after, hstep, Option.toList_none, List.filter_nil,
        List.nil_append] using hrun

end Reader

end Callwire.Stream
