import Callwire.Proofs.Transport.Framing

/-!
# Readers

One end of a pipe that receives: chunks of bytes arrive, the writer ends the
stream, and receives are polled. A receive that has to wait keeps what it read
in the buffer, so it can be polled again or dropped, and neither loses a byte.
-/

set_option autoImplicit false

namespace Callwire.Stream

inductive Event
  | arrive (chunk : Bytes)
  | finish
  | poll
  | drop
  deriving DecidableEq, Repr

def arrived : List Event → Bytes
  | [] => []
  | .arrive chunk :: es => chunk ++ arrived es
  | .finish :: _ => []
  | .poll :: es | .drop :: es => arrived es

def ended (es : List Event) : Bool := es.contains .finish

structure Reader where
  framer : Framer
  pipe : Pipe
  waiting : Bool
  deriving DecidableEq

namespace Reader

def start (limit : Nat) : Reader := ⟨⟨[], limit⟩, .fresh, false⟩

def resume (f : Framer) (p : Pipe) : (Framer × Pipe) × Poll :=
  match p.bytes with
  | [] => ((f, p), Framer.atEnd f.buffer p.writing)
  | bytes =>
    Framer.receive bytes.length { f with buffer := f.buffer ++ bytes.take chunk }
      { p with bytes := bytes.drop chunk }

def poll (r : Reader) : Reader × Poll :=
  let ((f, p), result) :=
    if r.waiting then resume r.framer r.pipe
    else r.framer.receive (r.pipe.bytes.length + 1) r.pipe
  (⟨f, p, result = .waiting⟩, result)

/-- The reader after an event, and the result if a receive was polled. A pipe
that was ended takes no more bytes. -/
def step (r : Reader) : Event → Reader × Option Poll
  | .arrive chunk =>
    match r.pipe.write chunk with
    | .ok p => ({ r with pipe := p }, none)
    | .error _ => (r, none)
  | .finish => ({ r with pipe := r.pipe.shut }, none)
  | .poll => (r.poll.1, some r.poll.2)
  | .drop => ({ r with waiting := false }, none)

def after (r : Reader) : List Event → Reader
  | [] => r
  | e :: es => after (r.step e).1 es

def completed (r : Reader) : List Event → List Poll
  | [] => []
  | e :: es => (r.step e).2.toList.filter (· ≠ .waiting) ++ completed (r.step e).1 es

theorem completed_append (r : Reader) (es fs : List Event) :
    r.completed (es ++ fs) = r.completed es ++ (r.after es).completed fs := by
  induction es generalizing r with
  | nil => rfl
  | cons e es ih =>
    simp only [List.cons_append, completed, after, ih, List.append_assoc]

def held (r : Reader) : Bytes := r.framer.buffer ++ r.pipe.bytes

def Ready (r : Reader) : Prop :=
  r.pipe.attached = true ∧ (r.waiting = true → r.framer.take = .ok none)

theorem start_ready (limit : Nat) : (start limit).Ready :=
  ⟨rfl, fun h => absurd h (by simp [start])⟩

theorem resume_eq {f : Framer} (p : Pipe) (h : f.take = .ok none) :
    resume f p = f.receive (p.bytes.length + 1) p := by
  by_cases hp : p.bytes = []
  · rw [hp, List.length_nil, Framer.receive_of_none 0 h hp]
    simp only [resume, hp]
  · rw [Framer.receive_read _ h hp]
    obtain ⟨b, rest, hb⟩ := List.exists_cons_of_ne_nil hp
    simp only [resume, hb, Framer.extend]

/-- Dropping a receive that waits and starting another is no different from
polling it again. -/
theorem poll_eq {r : Reader} (h : r.Ready) :
    r.poll = (⟨(r.framer.receive (r.pipe.bytes.length + 1) r.pipe).1.1,
      (r.framer.receive (r.pipe.bytes.length + 1) r.pipe).1.2,
      (r.framer.receive (r.pipe.bytes.length + 1) r.pipe).2 = .waiting⟩,
      (r.framer.receive (r.pipe.bytes.length + 1) r.pipe).2) := by
  unfold poll
  cases hw : r.waiting with
  | false => rfl
  | true => rw [if_pos rfl, resume_eq r.pipe (h.2 hw)]

theorem poll_message {r : Reader} (h : r.Ready) {m : Bytes} {g : Framer}
    (ht : (r.framer.extend r.pipe.bytes).take = .ok (some (m, g))) :
    ∃ r' : Reader, r.poll = (r', .message m) ∧ r'.Ready ∧ r'.held = g.buffer ∧
      r'.framer.limit = g.limit ∧ r'.pipe.writing = r.pipe.writing := by
  have hr := Framer.receive_eq _ r.framer r.pipe (Nat.lt_succ_self _)
  rw [ht] at hr
  obtain ⟨k, back, hr, rfl⟩ := hr
  rw [poll_eq h, hr]
  exact ⟨⟨k, { r.pipe with bytes := back }, false⟩, by simp, ⟨h.1, by simp⟩, rfl, rfl, rfl⟩

theorem poll_nothing {r : Reader} (h : r.Ready)
    (ht : (r.framer.extend r.pipe.bytes).take = .ok none) :
    ∃ r' : Reader, r.poll = (r', Framer.atEnd r.held r.pipe.writing) ∧
      r'.Ready ∧ r'.held = r.held ∧ r'.framer.limit = r.framer.limit ∧
      r'.pipe.writing = r.pipe.writing := by
  have hr := Framer.receive_eq _ r.framer r.pipe (Nat.lt_succ_self _)
  rw [ht] at hr
  dsimp only at hr
  rw [poll_eq h, hr]
  exact ⟨⟨r.framer.extend r.pipe.bytes, { r.pipe with bytes := [] }, _⟩, rfl,
    ⟨h.1, fun _ => ht⟩, List.append_nil _, rfl, rfl⟩

end Reader

end Callwire.Stream
