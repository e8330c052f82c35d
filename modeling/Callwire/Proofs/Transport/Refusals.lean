import Callwire.Proofs.Transport.Results

/-!
# Refused lengths

A receive that finds a length above the limit fails and takes nothing, so the bytes are
still there when the limit is raised. A reader whose limit changes from receive to receive
is compared with one that had the last limit from the start: apart from the receives that
were refused, both complete with the same results.
-/

set_option autoImplicit false

namespace Callwire.Stream
open Framer (frame Fits tooLong)

def Admits (raised limit : Nat) : Prop := raised = 0 ∨ limit ≠ 0 ∧ limit ≤ raised

theorem Admits.refl (limit : Nat) : Admits limit limit := by
  unfold Admits
  omega

namespace Framer

variable {f g : Framer} {m : Bytes} {raised : Nat}

theorem check_raise (h : Admits raised f.limit) {n : Nat} (hok : f.check n = .ok ()) :
    { f with limit := raised }.check n = .ok () := by
  rw [check_eq_ok_iff] at hok ⊢
  unfold Admits at h
  dsimp only
  omega

/-- What is not refused is the same under a limit that lets more through. -/
theorem take_raise (h : Admits raised f.limit) {r : Option (Bytes × Framer)}
    (ht : f.take = .ok r) : { f with limit := raised }.take =
      .ok (r.map fun p => (p.1, { p.2 with limit := raised })) := by
  cases hw : Bytes.word? f.buffer with
  | none =>
    simp only [take, hw, Except.ok.injEq] at ht ⊢
    rw [← ht]
    rfl
  | some p =>
    rw [take_of_word hw] at ht
    rw [take_of_word (f := { f with limit := raised }) hw]
    cases hc : f.check p.1.toNat with
    | error e =>
      rw [hc] at ht
      cases ht
    | ok u =>
      rw [hc] at ht
      rw [check_raise h hc]
      dsimp only at ht ⊢
      split_ifs at ht ⊢ <;> rw [← Except.ok.inj ht] <;> rfl

/-- The only failure while a message is taken is a length above the limit. -/
theorem take_error_iff {e : TransportFault} : f.take = .error e ↔
    ∃ w rest, Bytes.word? f.buffer = some (w, rest) ∧ f.limit ≠ 0 ∧ f.limit < w.toNat ∧
      e = tooLong w.toNat := by
  constructor
  · intro h
    obtain ⟨w, rest, hw⟩ := word_of_take (f := f) (by rw [h]; simp)
    rw [take_of_word hw] at h
    by_cases hlong : f.limit ≠ 0 ∧ f.limit < w.toNat
    · rw [check_of_lt hlong.1 hlong.2] at h
      exact ⟨w, rest, hw, hlong.1, hlong.2, (Except.error.inj h).symm⟩
    · rw [(check_eq_ok_iff f w.toNat).mpr (by omega)] at h
      split_ifs at h
  · rintro ⟨w, rest, hw, h0, hlt, rfl⟩
    rw [take_of_word hw, check_of_lt h0 hlt]

theorem receive_failed {n : Nat} {f' : Framer} {p p' : Pipe} {e : TransportFault}
    (h : receive n f p = ((f', p'), .failed e)) : ∃ read back, p.bytes = read ++ back ∧
      f' = f.extend read ∧ p' = { p with bytes := back } := by
  induction n generalizing f p with
  | zero => simp [receive] at h
  | succ n ih =>
    cases ht : f.take with
    | error e =>
      rw [receive_of_error n ht, Prod.mk.injEq, Prod.mk.injEq] at h
      exact ⟨[], p.bytes, rfl, by rw [extend_nil, h.1.1], h.1.2.symm⟩
    | ok r =>
      cases r with
      | some r =>
        rw [receive_of_some n ht] at h
        cases h
      | none =>
        by_cases hp : p.bytes = []
        · rw [receive_of_none n ht hp, Prod.mk.injEq, Prod.mk.injEq] at h
          exact ⟨[], p.bytes, rfl, by rw [extend_nil, h.1.1], h.1.2.symm⟩
        · rw [receive_read n ht hp] at h
          obtain ⟨read, back, hb, hf, hp'⟩ := ih h
          refine ⟨p.bytes.take chunk ++ read, back, ?_, ?_, hp'⟩
          · rw [List.append_assoc, ← hb, List.take_append_drop]
          · rw [hf, extend_extend]

end Framer

def refused : Poll → Bool
  | .failed e => e.kind = .invalidData
  | _ => false

theorem refused_atEnd (b : Bytes) (writing : Bool) : refused (Framer.atEnd b writing) = false := by
  unfold Framer.atEnd
  split_ifs <;> rfl

namespace Reader

variable {r : Reader} {e : TransportFault}

/-! ## A receive that fails -/

theorem poll_failed (hr : r.Ready) (h : r.poll.2 = .failed e) : ∃ read back,
    r.pipe.bytes = read ++ back ∧
      r.poll.1 = ⟨r.framer.extend read, { r.pipe with bytes := back }, false⟩ := by
  rw [poll_eq hr] at h ⊢
  obtain ⟨read, back, hb, hf, hp⟩ := Framer.receive_failed (Prod.ext rfl h)
  refine ⟨read, back, hb, ?_⟩
  dsimp only at h
  simp only [hf, hp, h, reduceCtorEq, decide_false]

theorem poll_again (hr : r.Ready) (h : r.poll.2 = .failed e) (es : List Event) :
    r.poll.1.completed es = List.replicate (r.poll.1.completed es).length (.failed e) ∧
      (r.poll.1.after es).poll.2 = .failed e := by
  obtain ⟨r', hp, hr', hwrite, hsome, hstuck⟩ := poll_found hr
  rw [hp] at h ⊢
  dsimp only at h ⊢
  have hs : r.whole.Stuck := by
    intro m g ht
    rw [Framer.found_of_some ht] at h
    cases h
  obtain ⟨hstill, hfound⟩ := Framer.found_final hs (by rw [h]; simp) (r'.incoming es)
    (r'.open? es) (fun hw => ⟨by simp [incoming, hwrite, hw], by simp [open?, hwrite, hw]⟩)
  have hrun := results_of_contents es r' hr'
  rw [hstuck hs, hstill.contents, hfound, h, firstResults_nil] at hrun
  exact hrun

theorem poll_refused_iff (hr : r.Ready) :
    (r.poll.2 = .failed e ∧ e.kind = .invalidData) ↔ r.whole.take = .error e := by
  obtain ⟨r', hp, -⟩ := poll_found hr
  rw [hp]
  cases ht : r.whole.take with
  | error e' =>
    obtain ⟨w, rest, -, -, -, rfl⟩ := Framer.take_error_iff.mp ht
    rw [Framer.found_of_error ht]
    constructor
    · rintro ⟨he, -⟩
      rw [Poll.failed.inj he]
    · rintro he
      rw [← Except.error.inj he]
      exact ⟨rfl, rfl⟩
  | ok o =>
    constructor
    · rintro ⟨he, hkind⟩
      cases o with
      | some o =>
        rw [Framer.found_of_some ht] at he
        cases he
      | none =>
        have hnot := refused_atEnd r.whole.buffer r.pipe.writing
        rw [Framer.found_of_none ht] at he
        dsimp only at he
        simp [he, refused, hkind] at hnot
    · intro he
      cases he

theorem poll_at_once (hr : r.Ready) {w : UInt32} {rest : Bytes}
    (hw : Bytes.word? r.framer.buffer = some (w, rest)) (h0 : r.framer.limit ≠ 0)
    (hlong : r.framer.limit < w.toNat) :
    r.poll = (⟨r.framer, r.pipe, false⟩, .failed (tooLong w.toNat)) := by
  have ht := Framer.take_error_iff.mpr ⟨w, rest, hw, h0, hlong, rfl⟩
  rw [poll_eq hr, Framer.receive_of_error _ ht]
  simp

theorem results_before_refusal (hr : r.Ready) {es : List Event} {ms : List Bytes} {w : UInt32}
    {rest : Bytes} (hstream : r.stream es = ms.flatMap frame ++ (Bytes.ofWord w ++ rest))
    (hfits : ∀ m ∈ ms, Fits r.framer.limit m) (h0 : r.framer.limit ≠ 0)
    (hlong : r.framer.limit < w.toNat) :
    r.completed es = firstResults ms (.failed (tooLong w.toNat)) (r.completed es).length ∧
      (r.after es).poll.2 =
        resultAt ms (.failed (tooLong w.toNat)) (r.completed es).length := by
  have ht : (Framer.mk (Bytes.ofWord w ++ rest) r.framer.limit).take =
      .error (tooLong w.toNat) :=
    Framer.take_error_iff.mpr ⟨w, rest, Bytes.word?_ofWord _ _, h0, hlong, rfl⟩
  have hwhole : r.whole.extend (r.incoming es) = ⟨r.stream es, r.framer.limit⟩ := rfl
  have hrun := results_of_contents es r hr
  rw [hwhole, hstream, Framer.contents_frames hfits, (Framer.stuck_of_error ht).contents,
    Framer.found_of_error ht, List.append_nil] at hrun
  exact hrun

structure Retains (r : Reader) : Prop where
  kept : ∀ e, r.poll.2 = .failed e → ∃ read back, r.pipe.bytes = read ++ back ∧
    r.poll.1 = ⟨r.framer.extend read, { r.pipe with bytes := back }, false⟩
  again : ∀ e, r.poll.2 = .failed e → ∀ es,
    r.poll.1.completed es = List.replicate (r.poll.1.completed es).length (.failed e) ∧
      (r.poll.1.after es).poll.2 = .failed e
  refused : ∀ e, (r.poll.2 = .failed e ∧ e.kind = .invalidData) ↔
    ∃ w rest, Bytes.word? r.held = some (w, rest) ∧ r.framer.limit ≠ 0 ∧
      r.framer.limit < w.toNat ∧ e = tooLong w.toNat
  atOnce : ∀ w rest, Bytes.word? r.framer.buffer = some (w, rest) → r.framer.limit ≠ 0 →
    r.framer.limit < w.toNat →
      r.poll = (⟨r.framer, r.pipe, false⟩, .failed (tooLong w.toNat))
  before : ∀ es ms w rest, r.stream es = ms.flatMap frame ++ (Bytes.ofWord w ++ rest) →
    (∀ m ∈ ms, Fits r.framer.limit m) → r.framer.limit ≠ 0 → r.framer.limit < w.toNat →
      r.completed es = firstResults ms (.failed (tooLong w.toNat)) (r.completed es).length ∧
        (r.after es).poll.2 =
          resultAt ms (.failed (tooLong w.toNat)) (r.completed es).length

theorem Ready.retains (hr : r.Ready) : r.Retains where
  kept _ := poll_failed hr
  again _ := poll_again hr
  refused _ := (poll_refused_iff hr).trans Framer.take_error_iff
  atOnce _ _ := poll_at_once hr
  before _ _ _ _ := results_before_refusal hr

/-! ## Limits that change -/

/-- Setting a limit ends a receive that waits. -/
def withLimit (r : Reader) (limit : Nat) : Reader :=
  ⟨{ r.framer with limit }, r.pipe, false⟩

end Reader

inductive Turn
  | event (e : Event)
  | limit (n : Nat)
  deriving DecidableEq, Repr

namespace Reader

variable {r r' : Reader} {raised : Nat}

def afterTurns (r : Reader) : List Turn → Reader
  | [] => r
  | .event e :: ts => (r.step e).1.afterTurns ts
  | .limit n :: ts => (r.withLimit n).afterTurns ts

def accepted (r : Reader) : List Turn → List Poll
  | [] => []
  | .event e :: ts =>
    (r.step e).2.toList.filter (fun p => p ≠ .waiting ∧ ¬refused p) ++ (r.step e).1.accepted ts
  | .limit n :: ts => (r.withLimit n).accepted ts

def spared (r : Reader) : List Turn → List Event
  | [] => []
  | .event e :: ts =>
    if (r.step e).2.any refused then (r.step e).1.spared ts else e :: (r.step e).1.spared ts
  | .limit n :: ts => (r.withLimit n).spared ts

structure Raised (raised : Nat) (r r' : Reader) : Prop where
  ready : r.Ready
  ready' : r'.Ready
  whole : r'.whole = { r.whole with limit := raised }
  writing : r'.pipe.writing = r.pipe.writing

theorem limit_poll (hr : r.Ready) : r.poll.1.framer.limit = r.framer.limit := by
  rw [poll_eq hr]
  exact Framer.limit_receive _ _ _

/-- A receive that is not refused under the first limit is the same under the second one. -/
theorem Raised.poll (h : Raised raised r r') (hadm : Admits raised r.framer.limit) :
    (∃ e, r.whole.take = .error e ∧ refused r.poll.2 = true ∧ Raised raised r.poll.1 r') ∨
      (refused r.poll.2 = false ∧ r'.poll.2 = r.poll.2 ∧ Raised raised r.poll.1 r'.poll.1) := by
  obtain ⟨s, hp, hs, hwrite, hsome, hstuck⟩ := poll_found h.ready
  obtain ⟨s', hp', hs', hwrite', hsome', hstuck'⟩ := poll_found h.ready'
  rw [h.whole, h.writing] at hp'
  rw [h.writing, ← hwrite] at hwrite'
  rw [h.whole] at hsome' hstuck'
  rw [hp, hp']
  cases ht : r.whole.take with
  | error e =>
    obtain ⟨w, rest, -, -, -, rfl⟩ := Framer.take_error_iff.mp ht
    refine .inl ⟨_, rfl, ?_, hs, h.ready', ?_, h.writing.trans hwrite.symm⟩
    · rw [Framer.found_of_error ht]
      rfl
    · rw [hstuck (Framer.stuck_of_error ht), h.whole]
  | ok o =>
    have hraise := Framer.take_raise (f := r.whole) hadm ht
    right
    cases o with
    | none =>
      rw [Framer.found_of_none ht, Framer.found_of_none hraise]
      refine ⟨refused_atEnd _ _, rfl, hs, hs', ?_, hwrite'⟩
      rw [hstuck (Framer.stuck_of_none ht), hstuck' (Framer.stuck_of_none hraise)]
    | some o =>
      rw [Framer.found_of_some ht, Framer.found_of_some hraise]
      refine ⟨rfl, rfl, hs, hs', ?_, hwrite'⟩
      rw [hsome _ _ ht, hsome' _ _ hraise]

theorem Raised.poll_same (h : Raised raised r r') (hl : r.framer.limit = raised) :
    r'.poll.2 = r.poll.2 ∧ Raised raised r.poll.1 r'.poll.1 := by
  rcases h.poll (by rw [hl]; exact .refl _) with ⟨e, ht, -, hkeep⟩ | ⟨-, hsame⟩
  · have hwhole : r'.whole = r.whole := by
      rw [h.whole, ← hl]
      rfl
    obtain ⟨s, hp, -⟩ := poll_error h.ready ht
    obtain ⟨s', hp', hs', hw', hwrite'⟩ := poll_error h.ready' (hwhole ▸ ht)
    rw [hp] at hkeep ⊢
    rw [hp']
    exact ⟨rfl, hkeep.ready, hs', hw'.trans hkeep.whole, hwrite'.trans hkeep.writing⟩
  · exact hsame

/-- Whatever is not a receive is the same under both limits. -/
theorem Raised.step (h : Raised raised r r') {e : Event} (he : e ≠ .poll) :
    (r.step e).2 = none ∧ (r'.step e).2 = none ∧ Raised raised (r.step e).1 (r'.step e).1 ∧
      (r.step e).1.framer.limit = r.framer.limit := by
  obtain ⟨s, hstep, hs, hwhole, hwrite⟩ := step_other h.ready he
  obtain ⟨s', hstep', hs', hwhole', hwrite'⟩ := step_other h.ready' he
  rw [h.whole, h.writing] at hwhole'
  have hlimit : s.framer.limit = r.framer.limit := by
    show s.whole.limit = r.whole.limit
    rw [hwhole]
    rfl
  rw [hstep, hstep']
  refine ⟨rfl, rfl, ⟨hs, hs', ?_, ?_⟩, hlimit⟩
  · rw [hwhole', hwhole]
    rfl
  · rw [hwrite', h.writing, hwrite]

theorem Raised.completed (h : Raised raised r r') (hl : r.framer.limit = raised)
    (es : List Event) : r'.completed es = r.completed es := by
  induction es generalizing r r' with
  | nil => rfl
  | cons e es ih =>
    rw [Reader.completed, Reader.completed]
    by_cases he : e = .poll
    · subst he
      obtain ⟨hsame, hnext⟩ := h.poll_same hl
      have hlimit := limit_poll h.ready
      simp only [Reader.step, hsame, ih hnext (hlimit.trans hl)]
    · obtain ⟨hnone, hnone', hnext, hlimit⟩ := h.step he
      rw [hnone, hnone', ih hnext (hlimit.trans hl)]

theorem Raised.withLimit (h : Raised raised r r') (n : Nat) :
    Raised raised (r.withLimit n) r' :=
  ⟨⟨h.ready.1, by simp [Reader.withLimit]⟩, h.ready', h.whole, h.writing⟩

/-- The run with the raised limit, without the receives that were refused. -/
theorem Raised.turns {ts : List Turn} (h : Raised raised r r')
    (hadm : Admits raised r.framer.limit) (hts : ∀ n, .limit n ∈ ts → Admits raised n) :
    r'.completed (r.spared ts) = r.accepted ts ∧
      Raised raised (r.afterTurns ts) (r'.after (r.spared ts)) := by
  induction ts generalizing r r' with
  | nil => exact ⟨rfl, h⟩
  | cons t ts ih =>
    have htail : ∀ n, .limit n ∈ ts → Admits raised n :=
      fun n hn => hts n (List.mem_cons_of_mem _ hn)
    cases t with
    | limit n => exact ih (h.withLimit n) (hts n (by simp)) htail
    | event e =>
      rw [spared, accepted, afterTurns]
      by_cases he : e = .poll
      · subst he
        have hlimit := limit_poll h.ready
        have hadm' : Admits raised r.poll.1.framer.limit := by rwa [hlimit]
        -- A receive that is refused is left out of the other run, where nothing moves.
        rcases h.poll hadm with ⟨-, -, href, hnext⟩ | ⟨href, hsame, hnext⟩
        · obtain ⟨hrun, hend⟩ := ih hnext hadm' htail
          simp only [Reader.step, Option.any_some, href, if_true]
          simpa [href] using ⟨hrun, hend⟩
        · obtain ⟨hrun, hend⟩ := ih hnext hadm' htail
          simp only [Reader.step, Option.any_some, href, Bool.false_eq_true, if_false,
            Reader.completed, Reader.after, hsame, hrun]
          exact ⟨by simp [href, List.filter_cons], hend⟩
      · obtain ⟨hnone, hnone', hnext, hlimit⟩ := h.step he
        obtain ⟨hrun, hend⟩ := ih hnext (by rwa [hlimit]) htail
        simp only [hnone, Option.any_none, Bool.false_eq_true, if_false, Reader.completed,
          Reader.after, hnone', hrun]
        simpa using hend

theorem Ready.step (hr : r.Ready) (e : Event) : (r.step e).1.Ready := by
  by_cases he : e = .poll
  · subst he
    obtain ⟨r', hp, hr', -⟩ := poll_found hr
    simpa only [Reader.step, hp] using hr'
  · obtain ⟨r', hstep, hr', -⟩ := step_other hr he
    rwa [hstep]

theorem Ready.turns {ts : List Turn} (hr : r.Ready) : (r.afterTurns ts).Ready := by
  induction ts generalizing r with
  | nil => exact hr
  | cons t ts ih =>
    cases t with
    | event e => exact ih (hr.step e)
    | limit n => exact ih ⟨hr.1, by simp [Reader.withLimit]⟩

end Reader

open Reader

/-- A receive that fails takes nothing, and once the limit lets them through, all messages are
received that would have been received under that limit from the start. -/
theorem refusals_lose_nothing (buffer : Bytes) (limit : Nat) (bytes : Bytes) (writing : Bool)
    (ts : List Turn) :
    ((holding buffer limit bytes writing).afterTurns ts).Retains ∧
      ∀ raised, Admits raised limit → (∀ n, .limit n ∈ ts → Admits raised n) →
        ∀ es, (holding buffer raised bytes writing).completed
            ((holding buffer limit bytes writing).spared ts ++ es) =
          (holding buffer limit bytes writing).accepted ts ++
            (((holding buffer limit bytes writing).afterTurns ts).withLimit raised).completed
              es := by
  refine ⟨(holding_ready _ _ _ _).turns.retains, fun raised hadm hts es => ?_⟩
  have hstart : Raised raised (holding buffer limit bytes writing)
      (holding buffer raised bytes writing) :=
    ⟨holding_ready _ _ _ _, holding_ready _ _ _ _, rfl, rfl⟩
  obtain ⟨hrun, hend⟩ := hstart.turns hadm hts
  rw [completed_append, hrun, (hend.withLimit raised).completed rfl es]

/-- A message of three bytes is refused twice under a limit of two, once before its body is
there, and received once the limit is three. -/
theorem received_when_raised :
    let ts := [.event .poll, .event (.arrive [8, 9]), .event .poll, .limit 3]
    (holding [0, 0] 2 [0, 3, 7] true).poll.2 = .failed (tooLong 3) ∧
      (holding [0, 0] 2 [0, 3, 7] true).spared ts = [.arrive [8, 9]] ∧
      Admits 3 2 ∧ (∀ n, .limit n ∈ ts → Admits 3 n) ∧
      (holding [0, 0] 3 [0, 3, 7] true).completed [.arrive [8, 9], .poll] =
        [.message [7, 8, 9]] := by
  have hlimits : ∀ n, Turn.limit n ∈ [.event .poll, .event (.arrive [8, 9]), .event .poll,
      .limit 3] → Admits 3 n := by simp [Admits]
  refine ⟨by decide, by decide, by simp [Admits], hlimits, ?_⟩
  exact ((refusals_lose_nothing [0, 0] 2 [0, 3, 7] true _).2 3 (by simp [Admits]) hlimits
    [.poll]).trans (by decide)

end Callwire.Stream
