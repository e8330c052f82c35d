import Callwire.Payload.Codec

/-!
# Basic payloads

The payloads that every connection knows: nothing at all, bytes as they are,
and the message of a failed call.
-/

set_option autoImplicit false

namespace Callwire

/-- The absence of a payload. Whatever was sent for it is ignored. -/
instance : Payload Unit := ⟨fun _ => .ok [], fun _ => .ok ()⟩

structure Raw where
  bytes : Bytes
  deriving DecidableEq

instance : Payload Raw := ⟨fun r => .ok r.bytes, fun b => .ok ⟨b⟩⟩

structure Failure where
  error : String
  deriving DecidableEq, Repr

namespace Failure

def fields (f : Failure) : List Protobuf.Field :=
  if f.error = "" then [] else [⟨1, .bytes (Bytes.ofString f.error)⟩]

def step (f : Failure) (x : Protobuf.Field) : Except Protobuf.Fault Failure := do
  if x.number = 1 then return ⟨← x.value.toText⟩ else return f

instance : Payload Failure := Payload.ofFields fields ⟨""⟩ step

end Failure

end Callwire
