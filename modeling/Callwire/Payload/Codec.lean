import Callwire.Json.Writer
import Callwire.Protobuf.Field

/-!
# Codecs

How values become the bytes of a payload and back.
-/

set_option autoImplicit false

namespace Callwire

inductive CodecError
  | json (fault : Json.PlacedFault)
  | protobuf (fault : Protobuf.Fault)
  | malformed (reason : String)
  | other (reason : String)
  deriving DecidableEq, Repr

def CodecError.message : CodecError → String
  | .json fault => "json: " ++ fault.message
  | .protobuf fault => "protobuf: " ++ fault.message
  | .malformed reason => "malformed payload: " ++ reason
  | .other reason => reason

class Payload (α : Type) where
  encode : α → Except CodecError Bytes
  decode : Bytes → Except CodecError α

namespace Payload

@[reducible] def ofShape {α : Type} (shape : Json.Shape) (fields : α → List Json.Scalar)
    (build : List Json.Scalar → Option α) : Payload α where
  encode a := .ok (shape.encode (fields a))
  decode b :=
    match shape.decode b with
    | .ok vs =>
      match build vs with
      | some a => .ok a
      | none => .error (.malformed shape.name)
    | .error fault => .error (.json fault)

@[reducible] def ofFields {α : Type} (fields : α → List Protobuf.Field) (default : α)
    (step : α → Protobuf.Field → Except Protobuf.Fault α) : Payload α where
  encode a := .ok ((fields a).flatMap Protobuf.Field.write)
  decode b :=
    match Protobuf.message step default b with
    | .ok a => .ok a
    | .error fault => .error (.protobuf fault)

end Payload

end Callwire
