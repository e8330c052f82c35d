import Callwire.Payload.Basic

/-!
# Sample payloads

One payload type for every way to encode: records in JSON, messages with a
text, a number or a list of numbers, and a type that does not accept all bytes.
-/

set_option autoImplicit false

namespace Callwire.Sample

structure Msg where
  text : String
  deriving DecidableEq, Repr

namespace Msg

def shape : Json.Shape := ⟨"Msg", [("text", .text)]⟩

def ofScalars? : List Json.Scalar → Option Msg
  | [.text text] => some ⟨text⟩
  | _ => none

instance : Payload Msg := .ofShape shape (fun m => [.text m.text]) ofScalars?

end Msg

structure Price where
  symbol : String
  cents : UInt64
  deriving DecidableEq, Repr

namespace Price

def shape : Json.Shape := ⟨"Price", [("symbol", .text), ("cents", .count)]⟩

def ofScalars? : List Json.Scalar → Option Price
  | [.text symbol, .count cents] => some ⟨symbol, cents⟩
  | _ => none

instance : Payload Price := .ofShape shape (fun p => [.text p.symbol, .count p.cents]) ofScalars?

end Price

structure Sum where
  values : List UInt32
  deriving DecidableEq, Repr

namespace Sum

def fields (s : Sum) : List Protobuf.Field :=
  match s.values with
  | [] => []
  | [v] => [⟨1, .varint v.toNat⟩]
  | vs => [⟨1, .bytes (vs.flatMap fun v => Protobuf.writeVarint v.toNat)⟩]

def step (s : Sum) (x : Protobuf.Field) : Except Protobuf.Fault Sum := do
  if x.number = 1 then return ⟨s.values ++ (← x.value.toNumbers).map UInt32.ofNat⟩ else return s

instance : Payload Sum := .ofFields fields ⟨[]⟩ step

end Sum

structure Total where
  total : UInt64
  deriving DecidableEq, Repr

namespace Total

def fields (t : Total) : List Protobuf.Field :=
  if t.total = 0 then [] else [⟨1, .varint t.total.toNat⟩]

def step (t : Total) (x : Protobuf.Field) : Except Protobuf.Fault Total := do
  if x.number = 1 then return ⟨UInt64.ofNat (← x.value.toNumber)⟩ else return t

instance : Payload Total := .ofFields fields ⟨0⟩ step

end Total

/-- Bytes of which some are refused: by their first byte when they are decoded,
by their last when they are encoded. -/
structure Picky where
  bytes : Bytes
  deriving DecidableEq

namespace Picky

def encode (p : Picky) : Except CodecError Bytes :=
  match p.bytes.getLast? with
  | some 0x6d => .error (.malformed "picky encode")
  | some 0x6f => .error (.other "other encode")
  | _ => .ok p.bytes

def decode (b : Bytes) : Except CodecError Picky :=
  match b.head? with
  | some 0x4d => .error (.malformed "picky decode")
  | some 0x4f => .error (.other "other decode")
  | _ => .ok ⟨b⟩

instance : Payload Picky := ⟨encode, decode⟩

end Picky

end Callwire.Sample
