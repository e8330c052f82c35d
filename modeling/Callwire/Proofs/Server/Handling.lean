import Callwire.Proofs.Server.Executions
import Callwire.Server.Recording

/-!
# What a frame comes to

Frames that are dispatched one after the other. What each of them comes to depends on
the service and on the frame, and neither on the socket nor on the logger: one answer
for a request that names a method of the service, and none for any other frame.
-/

set_option autoImplicit false

namespace Callwire

variable {σ S L M : Type}

inductive Handled (service : CallService σ M) (s : σ) (frame : Bytes) :
    σ → Outcome → List Bytes → Prop
  | malformed {e : FrameError} : Request.decode frame = .error e →
      Handled service s frame s (.malformed e) []
  | unknown {r : Request} : Request.decode frame = .ok r → service.table.get? r.name = none →
      Handled service s frame s (.unknownMethod r.name) []
  | responded {r : Request} {m : M} {s' : σ} {payload : Bytes} : Request.decode frame = .ok r →
      service.table.get? r.name = some m → service.call s m r.payload = (s', .ok payload) →
      Handled service s frame s' (.responded (service.name m))
        [(⟨r.id, payload⟩ : Response).encode]
  | failed {r : Request} {m : M} {s' : σ} {e : ServiceError} {payload : Bytes} :
      Request.decode frame = .ok r → service.table.get? r.name = some m →
      service.call s m r.payload = (s', .error e) →
      Payload.encode (⟨e.message⟩ : Failure) = .ok payload →
      Handled service s frame s' (.failed (service.name m) e)
        [(⟨-r.id, payload⟩ : Response).encode]

inductive HandledAll (service : CallService σ M) :
    σ → List Bytes → σ → List Outcome → List (List Bytes) → Prop
  | nil (s : σ) : HandledAll service s [] s [] []
  | cons {s s' s'' : σ} {frame : Bytes} {frames : List Bytes} {o : Outcome} {os : List Outcome}
      {answer : List Bytes} {answers : List (List Bytes)} :
      Handled service s frame s' o answer → HandledAll service s' frames s'' os answers →
      HandledAll service s (frame :: frames) s'' (o :: os) (answer :: answers)

def Known (service : CallService σ M) (frame : Bytes) : Prop :=
  ∃ r m, Request.decode frame = .ok r ∧ service.table.get? r.name = some m

structure Exact (service : CallService σ M) (frame : Bytes) (o : Outcome)
    (answer : List Bytes) : Prop where
  malformed : ∀ e, o = .malformed e ↔ Request.decode frame = .error e
  unknown : ∀ name, o = .unknownMethod name ↔
    ∃ r, Request.decode frame = .ok r ∧ service.table.get? r.name = none ∧ name = r.name
  answered : o.isAnswered = true ↔ Known service frame
  once : Known service frame → answer.length = 1
  never : ¬ Known service frame → answer = []

section
variable {service : CallService σ M} {s s₁ s₂ : σ} {frame : Bytes} {o o₁ o₂ : Outcome}
  {answer answer₁ answer₂ : List Bytes}

theorem Handled.exact (h : Handled service s frame s₁ o answer) :
    Exact service frame o answer := by
  cases h with
  | malformed hr =>
    have hnot : ¬ Known service frame := by
      rintro ⟨r, m, hok, -⟩
      rw [hr] at hok
      cases hok
    refine ⟨fun e => ?_, fun name => ?_, ?_, fun hk => absurd hk hnot, fun _ => rfl⟩
    · rw [hr, Outcome.malformed.injEq, Except.error.injEq]
    · simp [hr]
    · simp [Outcome.isAnswered, hnot]
  | @unknown r hr hm =>
    have hnot : ¬ Known service frame := by
      rintro ⟨r', m, hok, hsome⟩
      rw [hr] at hok
      cases hok
      rw [hm] at hsome
      cases hsome
    refine ⟨fun e => ?_, fun name => ?_, ?_, fun hk => absurd hk hnot, fun _ => rfl⟩
    · simp [hr]
    · simp [hr, hm, eq_comm]
    · simp [Outcome.isAnswered, hnot]
  | responded hr hm hcall | failed hr hm hcall hencode =>
    have hknown : Known service frame := ⟨_, _, hr, hm⟩
    refine ⟨fun e => ?_, fun name => ?_, ?_, fun _ => rfl, fun hk => absurd hknown hk⟩
    · simp [hr]
    · simp [hr, hm]
    · simp [Outcome.isAnswered, hknown]

/-- There is only one way for a frame to be handled. -/
theorem Handled.unique (h₁ : Handled service s frame s₁ o₁ answer₁)
    (h₂ : Handled service s frame s₂ o₂ answer₂) :
    s₁ = s₂ ∧ o₁ = o₂ ∧ answer₁ = answer₂ := by
  cases h₁ <;> cases h₂ <;> simp_all

theorem HandledAll.unique {frames : List Bytes} {os₁ os₂ : List Outcome}
    {answers₁ answers₂ : List (List Bytes)} (h₁ : HandledAll service s frames s₁ os₁ answers₁)
    (h₂ : HandledAll service s frames s₂ os₂ answers₂) :
    s₁ = s₂ ∧ os₁ = os₂ ∧ answers₁ = answers₂ := by
  induction h₁ generalizing os₂ answers₂ with
  | nil =>
    cases h₂
    exact ⟨rfl, rfl, rfl⟩
  | cons hframe hrest ih =>
    cases h₂ with
    | cons hframe' hrest' =>
      obtain ⟨rfl, rfl, rfl⟩ := hframe.unique hframe'
      obtain ⟨rfl, rfl, rfl⟩ := ih hrest'
      exact ⟨rfl, rfl, rfl⟩

theorem HandledAll.exact {frames : List Bytes} {os : List Outcome} {answers : List (List Bytes)}
    (h : HandledAll service s frames s₁ os answers) (i : Nat) (hframe : frames[i]? = some frame)
    (ho : os[i]? = some o) (hanswer : answers[i]? = some answer) :
    Exact service frame o answer := by
  induction h generalizing i with
  | nil => cases hframe
  | cons hhandled hrest ih =>
    cases i with
    | zero =>
      cases hframe
      cases ho
      cases hanswer
      exact hhandled.exact
    | succ i => exact ih i hframe ho hanswer

theorem Handled.untouched (h : Handled service s frame s₁ o answer)
    (hnot : ¬ Known service frame) : s₁ = s := by
  cases h with
  | malformed hr => rfl
  | unknown hr hm => rfl
  | responded hr hm hcall | failed hr hm hcall hencode => exact absurd ⟨_, _, hr, hm⟩ hnot

end

structure Working [Socket S] (works : S → Prop) (written : S → List Bytes) : Prop where
  write {s : S} (frame : Bytes) : works s →
    ∃ s', Socket.write s frame = .ok s' ∧ works s' ∧ written s' = written s ++ [frame]

theorem RecordingSocket.working {T : Type} [Universe T] :
    Working (S := RecordingSocket T) (fun _ => True) (·.written) :=
  ⟨fun _ _ => ⟨_, rfl, trivial, rfl⟩⟩

namespace Host

def dispatchAll [Socket S] [Logger L] (service : CallService σ M) (h : Host σ S L) :
    List Bytes → Host σ S L × List Outcome
  | [] => (h, [])
  | frame :: rest =>
    let r := h.dispatch service frame
    let rs := dispatchAll service r.1 rest
    (rs.1, r.2 :: rs.2)

variable [Socket S] [Logger L]

theorem dispatchAll_append (service : CallService σ M) (h : Host σ S L)
    (frames more : List Bytes) : h.dispatchAll service (frames ++ more) =
      (((h.dispatchAll service frames).1.dispatchAll service more).1,
        (h.dispatchAll service frames).2 ++
          ((h.dispatchAll service frames).1.dispatchAll service more).2) := by
  induction frames generalizing h with
  | nil => rfl
  | cons frame rest ih =>
    simp only [List.cons_append, dispatchAll, ih]

theorem written_write {works : S → Prop} {written : S → List Bytes} (hw : Working works written)
    (h : Host σ S L) (hs : works h.socket) (frame : Bytes) :
    works (h.write frame).socket ∧
      written (h.write frame).socket = written h.socket ++ [frame] := by
  obtain ⟨s', hwrite, hworks, hwritten⟩ := hw.write frame hs
  simp only [write, hwrite]
  exact ⟨hworks, hwritten⟩

/-- What a dispatch comes to, and what a socket that works has then. -/
theorem dispatch_handled (service : CallService σ M) (h : Host σ S L) (frame : Bytes) :
    ∃ answer, Handled service h.service frame (h.dispatch service frame).1.service
        (h.dispatch service frame).2 answer ∧
      ∀ (works : S → Prop) (written : S → List Bytes), Working works written → works h.socket →
        works (h.dispatch service frame).1.socket ∧
          written (h.dispatch service frame).1.socket = written h.socket ++ answer := by
  have hquiet : ∀ (works : S → Prop) (written : S → List Bytes), Working works written →
      works h.socket → works h.socket ∧ written h.socket = written h.socket ++ [] :=
    fun works written _ hs => ⟨hs, (List.append_nil _).symm⟩
  cases hr : Request.decode frame with
  | error e =>
    refine ⟨[], ?_, ?_⟩
    · rw [dispatch_malformed service h hr, show (h.dispatch service frame).2 = .malformed e by
        simp only [dispatch, hr]]
      exact .malformed hr
    · rw [dispatch_malformed service h hr]
      exact hquiet
  | ok r =>
    cases hm : service.table.get? r.name with
    | none =>
      refine ⟨[], ?_, ?_⟩
      · rw [dispatch_unknown service h hr hm,
          show (h.dispatch service frame).2 = .unknownMethod r.name by
            simp only [dispatch, hr, hm]]
        exact .unknown hr hm
      · rw [dispatch_unknown service h hr hm]
        exact hquiet
    | some m =>
      rcases hcall : service.call h.service m r.payload with ⟨s', result⟩
      have hhost := dispatch_known service h hr hm
      rw [hcall] at hhost
      refine ⟨[(Response.to r.id result).encode], ?_, fun works written hw hs => ?_⟩
      · rw [hhost, service_write]
        cases result with
        | ok payload =>
          rw [show (h.dispatch service frame).2 = .responded (service.name m) by
            simp only [dispatch, hr, hm, note, hcall]]
          exact .responded hr hm hcall
        | error e =>
          rw [show (h.dispatch service frame).2 = .failed (service.name m) e by
            simp only [dispatch, hr, hm, note, hcall]]
          exact .failed hr hm hcall rfl
      · rw [hhost]
        exact written_write hw (⟨s', h.socket, _⟩ : Host σ S L) hs _

theorem dispatchAll_handled (service : CallService σ M) (h : Host σ S L) (frames : List Bytes) :
    ∃ answers, HandledAll service h.service frames (h.dispatchAll service frames).1.service
        (h.dispatchAll service frames).2 answers ∧
      ∀ (works : S → Prop) (written : S → List Bytes), Working works written → works h.socket →
        works (h.dispatchAll service frames).1.socket ∧
          written (h.dispatchAll service frames).1.socket =
            written h.socket ++ answers.flatten := by
  induction frames generalizing h with
  | nil => exact ⟨[], .nil h.service, fun works written _ hs => ⟨hs, (List.append_nil _).symm⟩⟩
  | cons frame rest ih =>
    obtain ⟨answer, hhandled, hone⟩ := h.dispatch_handled service frame
    obtain ⟨answers, hrest, hall⟩ := ih (h.dispatch service frame).1
    refine ⟨answer :: answers, .cons hhandled hrest, fun works written hw hs => ?_⟩
    obtain ⟨hworks, hwritten⟩ := hone works written hw hs
    obtain ⟨hworks', hwritten'⟩ := hall works written hw hworks
    refine ⟨hworks', ?_⟩
    rw [List.flatten_cons, ← List.append_assoc, ← hwritten]
    exact hwritten'

/-- Neither the socket nor the logger has a part in what frames come to. -/
theorem dispatchAll_congr {S' L' : Type} [Socket S'] [Logger L'] (service : CallService σ M)
    (h : Host σ S L) (h' : Host σ S' L') (hs : h'.service = h.service) (frames : List Bytes) :
    (h'.dispatchAll service frames).1.service = (h.dispatchAll service frames).1.service ∧
      (h'.dispatchAll service frames).2 = (h.dispatchAll service frames).2 := by
  obtain ⟨answers, hhandled, -⟩ := h.dispatchAll_handled service frames
  obtain ⟨answers', hhandled', -⟩ := h'.dispatchAll_handled service frames
  rw [hs] at hhandled'
  obtain ⟨hservice, houtcomes, -⟩ := hhandled'.unique hhandled
  exact ⟨hservice, houtcomes⟩

/-- A frame that touches nothing may stand anywhere. -/
theorem dispatchAll_untouched (service : CallService σ M) (h : Host σ S L) (before : List Bytes)
    {frame : Bytes} (hframe : ∀ k : Host σ S L, (k.dispatch service frame).1.service = k.service) :
    (h.dispatchAll service (before ++ [frame])).1.service =
      (h.dispatchAll service before).1.service := by
  rw [dispatchAll_append]
  exact hframe _

end Host

end Callwire
