import Callwire.Bytes
import Callwire.Text.Quoted

/-!
# Transport faults

Why a message could not be sent or received.
-/

set_option autoImplicit false

namespace Callwire

inductive FaultKind
  | notConnected
  | brokenPipe
  | unexpectedEnd
  | invalidData
  | other
  deriving DecidableEq, Repr

namespace FaultKind

def name : FaultKind → String
  | notConnected => "NotConnected"
  | brokenPipe => "BrokenPipe"
  | unexpectedEnd => "UnexpectedEof"
  | invalidData => "InvalidData"
  | other => "Other"

def text : FaultKind → String
  | notConnected => "not connected"
  | brokenPipe => "broken pipe"
  | unexpectedEnd => "unexpected end of file"
  | invalidData => "invalid data"
  | other => "other error"

end FaultKind

structure TransportFault where
  kind : FaultKind
  detail : Option String
  deriving DecidableEq, Repr

namespace TransportFault

def plain (kind : FaultKind) : TransportFault := ⟨kind, none⟩

def message (f : TransportFault) : String := f.detail.getD f.kind.text

def inspected (f : TransportFault) : String :=
  match f.detail with
  | none => "Kind(" ++ f.kind.name ++ ")"
  | some text =>
    "Custom \x7b kind: " ++ f.kind.name ++ ", error: " ++ Text.quoted text ++ " \x7d"

end TransportFault

inductive Poll
  | waiting
  | message (b : Bytes)
  | finished
  | failed (f : TransportFault)
  deriving DecidableEq

/-- One end of a connection whose state is an `S`. Sending that fails leaves the
state as it was. -/
structure Terminal (S : Type) where
  send : S → Bytes → Except TransportFault S
  receive : S → S × Poll
  shutdown : S → S
  detach : S → S

end Callwire
