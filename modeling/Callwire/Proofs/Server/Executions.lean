import Callwire.Proofs.Frame.Requests
import Callwire.Proofs.Payload.Failures
import Callwire.Proofs.Server.Changes

/-!
# Executions

A service that keeps a record of what it executes tells which executions a
dispatch caused. The record changes nothing else. A request for a known method is
executed once and answered with the outcome; any other frame causes nothing.
-/

set_option autoImplicit false

namespace Callwire

structure Execution (M : Type) where
  method : M
  payload : Bytes
  result : Except ServiceError Bytes

structure Dispatched (M : Type) where
  frame : Bytes
  executions : List (Execution M)

section
variable {σ S L M : Type}

def CallService.recording (service : CallService σ M) :
    CallService (σ × List (Execution M)) M where
  table := service.table
  name := service.name
  call s m payload :=
    let (state, result) := service.call s.1 m payload
    ((state, s.2 ++ [⟨m, payload, result⟩]), result)

def Response.to (request : Int32) : Except ServiceError Bytes → Response
  | .ok payload => .success request payload
  | .error e => .failure request (Failure.bytes ⟨e.message⟩)

namespace Host

def forget (h : Host (σ × List (Execution M)) S L) : Host σ S L :=
  ⟨h.service.1, h.socket, h.logger⟩

variable [Socket S] [Logger L]

def serve (service : CallService σ M) (h : Host σ S L) (frame : Bytes) :
    Host σ S L × Dispatched M :=
  let recorded : Host (σ × List (Execution M)) S L := ⟨(h.service, []), h.socket, h.logger⟩
  let after := (recorded.dispatch service.recording frame).1
  (after.forget, ⟨frame, after.service.2⟩)

theorem forget_write (h : Host (σ × List (Execution M)) S L) (frame : Bytes) :
    (h.write frame).forget = h.forget.write frame := by
  simp only [write, forget]
  cases Socket.write h.socket frame <;> rfl

theorem service_write (h : Host σ S L) (frame : Bytes) : (h.write frame).service = h.service := by
  simp only [write]
  cases Socket.write h.socket frame <;> rfl

theorem dispatch_known (service : CallService σ M) (h : Host σ S L) {frame : Bytes} {r : Request}
    {m : M} (hr : Request.decode frame = .ok r) (hm : service.table.get? r.name = some m) :
    (h.dispatch service frame).1 =
      (⟨(service.call h.service m r.payload).1, h.socket,
        Logger.log h.logger ("Request: '" ++ service.name m ++ "'")⟩ : Host σ S L).write
          (Response.to r.id (service.call h.service m r.payload).2).encode := by
  simp only [dispatch, hr, hm, note]
  cases (service.call h.service m r.payload).2 <;> rfl

theorem dispatch_unknown (service : CallService σ M) (h : Host σ S L) {frame : Bytes}
    {r : Request} (hr : Request.decode frame = .ok r) (hm : service.table.get? r.name = none) :
    (h.dispatch service frame).1 = h.note ("Invalid rpc call: " ++ Text.quoted r.name) := by
  simp only [dispatch, hr, hm]

theorem dispatch_malformed (service : CallService σ M) (h : Host σ S L) {frame : Bytes}
    {e : FrameError} (hr : Request.decode frame = .error e) :
    (h.dispatch service frame).1 = h.note ("Malformed rpc call: " ++ e.message) := by
  simp only [dispatch, hr]

theorem serve_known (service : CallService σ M) (h : Host σ S L) {frame : Bytes} {r : Request}
    {m : M} (hr : Request.decode frame = .ok r) (hm : service.table.get? r.name = some m) :
    h.serve service frame = ((h.dispatch service frame).1,
      ⟨frame, [⟨m, r.payload, (service.call h.service m r.payload).2⟩]⟩) := by
  simp only [serve, dispatch_known service h hr hm,
    dispatch_known service.recording _ hr hm, forget_write, service_write]
  rfl

theorem serve_unknown (service : CallService σ M) (h : Host σ S L) {frame : Bytes} {r : Request}
    (hr : Request.decode frame = .ok r) (hm : service.table.get? r.name = none) :
    h.serve service frame = ((h.dispatch service frame).1, ⟨frame, []⟩) := by
  simp only [serve, dispatch_unknown service h hr hm,
    dispatch_unknown service.recording _ hr hm]
  rfl

theorem serve_malformed (service : CallService σ M) (h : Host σ S L) {frame : Bytes}
    {e : FrameError} (hr : Request.decode frame = .error e) :
    h.serve service frame = ((h.dispatch service frame).1, ⟨frame, []⟩) := by
  simp only [serve, dispatch_malformed service h hr,
    dispatch_malformed service.recording _ hr]
  rfl

/-- The record changes nothing but itself. -/
theorem serve_host (service : CallService σ M) (h : Host σ S L) (frame : Bytes) :
    (h.serve service frame).1 = (h.dispatch service frame).1 := by
  cases hr : Request.decode frame with
  | error e => rw [serve_malformed service h hr]
  | ok r =>
    cases hm : service.table.get? r.name with
    | none => rw [serve_unknown service h hr hm]
    | some m => rw [serve_known service h hr hm]

end Host

end

namespace Server

variable {T σ L : Type} [Universe T] [Logger L]

/-- A frame is accepted by the socket, or nothing is. -/
theorem write_cases (h : Host σ (Server T) L) (frame : Bytes) :
    (h.write frame).socket = h.socket ∨
      Socket.write h.socket frame = .ok (h.write frame).socket := by
  unfold Host.write
  cases hw : Socket.write h.socket frame with
  | error f => exact .inl rfl
  | ok c => exact .inr rfl

/-- What a host that serves a request leaves behind: nothing for an unknown method,
and one execution with its answer for a known one. -/
theorem serve_cases {M : Type} (service : CallService σ M) (h : Host σ (Server T) L)
    {frame : Bytes} {r : Request} (hr : Request.decode frame = .ok r) :
    (service.table.get? r.name = none ∧ (h.serve service frame).2 = ⟨frame, []⟩ ∧
      (h.serve service frame).1.socket = h.socket) ∨
    ∃ m result, service.table.get? r.name = some m ∧
      (h.serve service frame).2 = ⟨frame, [⟨m, r.payload, result⟩]⟩ ∧
      ((h.serve service frame).1.socket = h.socket ∨
        Socket.write h.socket (Response.to r.id result).encode =
          .ok (h.serve service frame).1.socket) := by
  cases hm : service.table.get? r.name with
  | none =>
    left
    rw [Host.serve_unknown service h hr hm, Host.dispatch_unknown service h hr hm]
    exact ⟨rfl, rfl, rfl⟩
  | some m =>
    right
    refine ⟨m, (service.call h.service m r.payload).2, rfl, ?_, ?_⟩
    · rw [Host.serve_known service h hr hm]
    · rw [Host.serve_known service h hr hm, Host.dispatch_known service h hr hm]
      exact write_cases _ _

theorem pushBytes_cases (h : Host σ (Server T) L) (name : String) (payload : Bytes) :
    (h.pushBytes name payload).socket = h.socket ∨
      ∃ frame, Push.encode ⟨name, payload⟩ = .ok frame ∧
        Socket.write h.socket frame = .ok (h.pushBytes name payload).socket := by
  unfold Host.pushBytes
  cases hp : Push.encode ⟨name, payload⟩ with
  | error e => exact .inl rfl
  | ok frame => exact (write_cases (h.note _) frame).imp_right fun hw => ⟨frame, rfl, hw⟩

end Server

end Callwire
