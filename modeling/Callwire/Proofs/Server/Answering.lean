import Callwire.Proofs.Server.Handling
import Callwire.Sample.Echo
import Callwire.Simulation.World

/-!
# Answers in order

A sequence of frames that are dispatched on one service and one socket is answered in
order. The sample service is only touched by requests whose payload can be decoded.
-/

set_option autoImplicit false

namespace Callwire

def faultOf (α : Type) [Payload α] (payload : Bytes) : Option CodecError :=
  match Payload.decode (α := α) payload with
  | .error e => some e
  | .ok _ => none

section
variable {σ α β : Type} [Payload α] [Payload β] {f : σ → α → σ × Except ServiceError β}
  {payload : Bytes} {s t : σ}

/-- A handler is not reached by what cannot be decoded. -/
theorem adapt_of_fault {e : CodecError} (h : faultOf α payload = some e) :
    adapt f s payload = (s, .error ⟨e.message⟩) := by
  unfold faultOf at h
  unfold adapt
  cases hd : Payload.decode (α := α) payload with
  | error e' =>
    rw [hd] at h
    cases h
    rfl
  | ok a =>
    rw [hd] at h
    cases h

/-- Whatever comes of its response, the handler has been reached. -/
theorem adapt_state (h : faultOf α payload = none) (hf : ∀ a, (f s a).1 = t) :
    (adapt f s payload).1 = t := by
  unfold faultOf at h
  unfold adapt
  cases hd : Payload.decode (α := α) payload with
  | error e =>
    rw [hd] at h
    cases h
  | ok a =>
    have hstate := hf a
    rcases hfa : f s a with ⟨s', _ | b⟩ <;> rw [hfa] at hstate
    · simp only [hfa, hstate]
    · cases hb : Payload.encode b <;> simp only [hfa, hb, hstate]

end

namespace Sample.Echo

def Method.fault? (m : Method) (payload : Bytes) : Option CodecError :=
  match m with
  | .say | .fail => faultOf Msg payload
  | .count | .report | .disk | .status | .type => faultOf Unit payload
  | .complain => faultOf Failure payload
  | .sum => faultOf Sum payload
  | .raw => faultOf Raw payload
  | .picky => faultOf Picky payload

def reached (frame : Bytes) : Bool :=
  match Request.decode frame with
  | .error _ => false
  | .ok r =>
    match table.get? r.name with
    | none => false
    | some m => (m.fault? r.payload).isNone

theorem call_of_fault {m : Method} {payload : Bytes} {e : CodecError}
    (h : m.fault? payload = some e) (s : Echo) : call s m payload = (s, .error ⟨e.message⟩) := by
  cases m <;> unfold call <;> exact adapt_of_fault h

theorem call_of_request {m : Method} {payload : Bytes} (h : m.fault? payload = none) (s : Echo) :
    (call s m payload).1 = s.counted := by
  cases m <;> unfold call <;> exact adapt_state h fun _ => rfl

variable {S L : Type} [Socket S] [Logger L]

theorem dispatch_of_fault (h : Host Echo S L) {frame : Bytes} {r : Request} {m : Method}
    {e : CodecError} (hr : Request.decode frame = .ok r) (hm : table.get? r.name = some m)
    (he : m.fault? r.payload = some e) : (h.dispatch service frame).1.service = h.service ∧
      (h.dispatch service frame).2 = .failed m.name ⟨e.message⟩ := by
  have hcall : service.call h.service m r.payload = (h.service, .error ⟨e.message⟩) :=
    call_of_fault he h.service
  have hm' : service.table.get? r.name = some m := hm
  refine ⟨?_, ?_⟩
  · rw [Host.dispatch_known service h hr hm', Host.service_write, hcall]
  · simp only [Host.dispatch, hr, hm', Host.note, hcall]
    rfl

theorem dispatch_service (h : Host Echo S L) (frame : Bytes) :
    (h.dispatch service frame).1.service =
      if reached frame then h.service.counted else h.service := by
  cases hr : Request.decode frame with
  | error e =>
    have hnot : reached frame = false := by simp only [reached, hr]
    rw [Host.dispatch_malformed service h hr, hnot]
    rfl
  | ok r =>
    cases hm : table.get? r.name with
    | none =>
      have hnot : reached frame = false := by simp only [reached, hr, hm]
      rw [Host.dispatch_unknown service h hr hm, hnot]
      rfl
    | some m =>
      have hreached : reached frame = (m.fault? r.payload).isNone := by
        simp only [reached, hr, hm]
      rw [hreached]
      cases hf : m.fault? r.payload with
      | some e => exact (dispatch_of_fault h hr hm hf).1
      | none =>
        rw [Host.dispatch_known service h hr hm, Host.service_write]
        exact call_of_request hf h.service

theorem dispatchAll_calls (h : Host Echo S L) (frames : List Bytes) :
    (h.dispatchAll service frames).1.service.calls =
      h.service.calls + frames.countP reached := by
  induction frames generalizing h with
  | nil => rfl
  | cons frame rest ih =>
    have hframe := dispatch_service h frame
    show ((h.dispatch service frame).1.dispatchAll service rest).1.service.calls = _
    rw [ih, hframe, List.countP_cons]
    split_ifs
    · show h.service.calls + 1 + _ = _
      omega
    · omega

end Sample.Echo

open Sample in
/-- The answers stand in the order of the requests, one for each request that names a
method and none for any other frame. No socket and no logger changes an outcome or what
becomes of the service, and a service is touched only by what it was called with. -/
theorem answers_stand_in_order {σ S L M : Type} [Socket S] [Logger L] (service : CallService σ M)
    {works : S → Prop} {written : S → List Bytes} (hworking : Working works written)
    (h : Host σ S L) (hworks : works h.socket) (frames : List Bytes) :
    (∃ answers : List (List Bytes),
      written (h.dispatchAll service frames).1.socket = written h.socket ++ answers.flatten ∧
      HandledAll service h.service frames (h.dispatchAll service frames).1.service
        (h.dispatchAll service frames).2 answers ∧
      ∀ (i : Nat) (frame : Bytes) (o : Outcome) (answer : List Bytes),
        frames[i]? = some frame → (h.dispatchAll service frames).2[i]? = some o →
        answers[i]? = some answer → Exact service frame o answer) ∧
    (∀ (S' L' : Type) [Socket S'] [Logger L'] (h' : Host σ S' L'), h'.service = h.service →
      (h'.dispatchAll service frames).1.service = (h.dispatchAll service frames).1.service ∧
        (h'.dispatchAll service frames).2 = (h.dispatchAll service frames).2) ∧
    (∀ frame, ¬ Known service frame →
      (h.dispatchAll service (frames ++ [frame])).1.service =
        (h.dispatchAll service frames).1.service) ∧
    (∀ (e : Host Echo S L) (frame : Bytes) (r : Request) (m : Echo.Method) (fault : CodecError),
      Request.decode frame = .ok r → Echo.service.table.get? r.name = some m →
      m.fault? r.payload = some fault →
      (e.dispatchAll Echo.service (frames ++ [frame])).1.service =
          (e.dispatchAll Echo.service frames).1.service ∧
        (e.dispatchAll Echo.service (frames ++ [frame])).2 =
          (e.dispatchAll Echo.service frames).2 ++ [.failed m.name ⟨fault.message⟩]) ∧
    ∀ e : Host Echo S L, (e.dispatchAll Echo.service frames).1.service.calls =
      e.service.calls + frames.countP Echo.reached := by
  refine ⟨?_, fun S' L' _ _ h' hs => h.dispatchAll_congr service h' hs frames, fun frame hnot => ?_,
    fun e frame r m fault hr hm hf => ?_, fun e => Echo.dispatchAll_calls e frames⟩
  · obtain ⟨answers, hhandled, hwritten⟩ := h.dispatchAll_handled service frames
    exact ⟨answers, (hwritten works written hworking hworks).2, hhandled,
      fun i frame o answer => hhandled.exact i⟩
  · refine h.dispatchAll_untouched service frames fun k => ?_
    obtain ⟨answer, hhandled, -⟩ := k.dispatch_handled service frame
    exact hhandled.untouched hnot
  · refine ⟨e.dispatchAll_untouched Echo.service frames fun k =>
      (Echo.dispatch_of_fault k hr hm hf).1, ?_⟩
    have hlast := (Echo.dispatch_of_fault (e.dispatchAll Echo.service frames).1 hr hm hf).2
    rw [Host.dispatchAll_append]
    show _ ++ [_] = _ ++ [_]
    rw [hlast]

/-- A frame with no end of its name, a method that there is not, a payload that is no
request, a failure under the lowest id and a success. -/
def fiveFrames : List Bytes :=
  [[115, 97, 121], [115, 104, 111, 117, 116, 0, 0, 0, 0, 1], [115, 97, 121, 0, 0, 0, 0, 4, 110],
    [100, 105, 115, 107, 0, 128, 0, 0, 0], [114, 97, 119, 0, 0, 0, 0, 9, 1, 2]]

open Sample in
def recordingEcho :
    Host Echo (RecordingSocket Simulation.ValueType) RecordingLogger := ⟨⟨0⟩, ⟨[], .empty⟩, ⟨[]⟩⟩

open Sample in
theorem three_of_five_are_answered :
    Working (S := RecordingSocket Simulation.ValueType) (fun _ => True) (·.written) ∧
      (recordingEcho.dispatchAll Echo.service fiveFrames).1.socket.written.map (·.take 4) =
        [[255, 255, 255, 252], [128, 0, 0, 0], [0, 0, 0, 9]] ∧
      (recordingEcho.dispatchAll Echo.service (fiveFrames.take 3)).1.service = ⟨0⟩ ∧
      (recordingEcho.dispatchAll Echo.service fiveFrames).1.service = ⟨2⟩ ∧
      ((⟨⟨0⟩, BrokenSocket.mk (.plain .other), TracingLogger.mk []⟩ : Host Echo _ _).dispatchAll
        Echo.service fiveFrames).1.service = ⟨2⟩ := by
  obtain ⟨-, hcongr, -, -, hcalls⟩ := answers_stand_in_order Echo.service RecordingSocket.working
    recordingEcho trivial fiveFrames
  obtain ⟨-, -, -, hundecodable, -⟩ := answers_stand_in_order Echo.service
    RecordingSocket.working recordingEcho trivial (fiveFrames.take 2)
  have hservice : (recordingEcho.dispatchAll Echo.service fiveFrames).1.service = ⟨2⟩ :=
    congrArg Echo.mk (hcalls recordingEcho)
  have hfirst : (recordingEcho.dispatchAll Echo.service (fiveFrames.take 3)).1.service = ⟨0⟩ :=
    (hundecodable recordingEcho [115, 97, 121, 0, 0, 0, 0, 4, 110] ⟨"say", 4, [110]⟩ .say _
      rfl rfl rfl).1
  refine ⟨RecordingSocket.working, by rfl, hfirst, hservice, ?_⟩
  rw [(hcongr BrokenSocket TracingLogger ⟨⟨0⟩, ⟨.plain .other⟩, ⟨[]⟩⟩ rfl).1, hservice]

end Callwire
