import Callwire.Frame
import Callwire.Payload.Basic
import Callwire.Server.MethodTable
import Callwire.Transport.Fault

/-!
# Dispatch

A request frame is answered by the service it names a method of. Every request
for a known method is answered once, with the same id if the service succeeded
and with the negated id if it failed; no other frame is answered.
-/

set_option autoImplicit false

namespace Callwire

structure ServiceError where
  message : String
  deriving DecidableEq, Repr

structure CallService (σ M : Type) where
  table : MethodTable M
  name : M → String
  call : σ → M → Bytes → σ × Except ServiceError Bytes

class Socket (S : Type) where
  write : S → Bytes → Except TransportFault S

class Logger (L : Type) where
  log : L → String → L

structure Host (σ S L : Type) where
  service : σ
  socket : S
  logger : L

inductive Outcome
  | responded (method : String)
  | failed (method : String) (error : ServiceError)
  | unknownMethod (name : String)
  | malformed (error : FrameError)
  deriving DecidableEq

def Outcome.isAnswered : Outcome → Bool
  | responded _ | failed _ _ => true
  | unknownMethod _ | malformed _ => false

/-- Makes a handler of decoded requests and responses one of payloads. A request
that cannot be decoded does not reach it. -/
def adapt {σ α β : Type} [Payload α] [Payload β] (f : σ → α → σ × Except ServiceError β)
    (s : σ) (payload : Bytes) : σ × Except ServiceError Bytes :=
  match Payload.decode (α := α) payload with
  | .error e => (s, .error ⟨e.message⟩)
  | .ok a =>
    let (s, r) := f s a
    match r with
    | .error e => (s, .error e)
    | .ok b =>
      match Payload.encode b with
      | .error e => (s, .error ⟨e.message⟩)
      | .ok bytes => (s, .ok bytes)

namespace Host

variable {σ S L M : Type} [Socket S] [Logger L]

def note (h : Host σ S L) (line : String) : Host σ S L :=
  { h with logger := Logger.log h.logger line }

def write (h : Host σ S L) (frame : Bytes) : Host σ S L :=
  match Socket.write h.socket frame with
  | .ok s => { h with socket := s }
  | .error f => h.note ("Failed to write frame: " ++ f.message)

def writeFailure (h : Host σ S L) (id : Int32) (error : ServiceError) : Host σ S L :=
  match Payload.encode (⟨error.message⟩ : Failure) with
  | .ok payload => h.write (Response.failure id payload).encode
  | .error e =>
    (h.note ("Failed to encode error: " ++ e.message)).write (Response.failure id []).encode

def dispatch (service : CallService σ M) (h : Host σ S L) (frame : Bytes) :
    Host σ S L × Outcome :=
  match Request.decode frame with
  | .error e => (h.note ("Malformed rpc call: " ++ e.message), .malformed e)
  | .ok r =>
    match service.table.get? r.name with
    | none => (h.note ("Invalid rpc call: " ++ Text.quoted r.name), .unknownMethod r.name)
    | some m =>
      let h := h.note ("Request: '" ++ service.name m ++ "'")
      let (s, result) := service.call h.service m r.payload
      let h := { h with service := s }
      match result with
      | .ok payload =>
        (h.write (Response.success r.id payload).encode, .responded (service.name m))
      | .error e => (h.writeFailure r.id e, .failed (service.name m) e)

def pushBytes (h : Host σ S L) (name : String) (payload : Bytes) : Host σ S L :=
  match (⟨name, payload⟩ : Push).encode with
  | .error e => h.note ("Invalid push message " ++ Text.quoted name ++ ": " ++ e.message)
  | .ok frame =>
    (h.note ("Sending push message '" ++ name ++ "' (" ++ toString payload.length ++
      " bytes)")).write frame

def push {P : Type} [Payload P] (h : Host σ S L) (service event : String) (payload : P) :
    Host σ S L :=
  match Payload.encode payload with
  | .ok bytes => h.pushBytes event bytes
  | .error e => h.note ("Error in " ++ service ++ "." ++ event ++ ": " ++ e.message)

end Host

end Callwire
