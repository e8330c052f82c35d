import Callwire.Protobuf.Varint

/-!
# Fields of a message

A message is a sequence of fields. A field starts with a tag, which holds its
number and the form of its value.
-/

set_option autoImplicit false

namespace Callwire.Protobuf

inductive Fault
  | varint
  | wireType (n : Nat)
  | endOfFile
  | notBytes
  | notVarint
  | notText
  deriving DecidableEq, Repr

def Fault.message : Fault → String
  | .varint => "varint is invalid"
  | .wireType n => "the wiretype " ++ toString n ++ " is invalid"
  | .endOfFile => "unexpected end of file"
  | .notBytes => "expected the len wire type"
  | .notVarint => "expected a varint wire type"
  | .notText => "expected a valid utf8 string"

inductive Value
  | varint (n : Nat)
  | fixed64 (b : Bytes)
  | bytes (b : Bytes)
  | fixed32 (b : Bytes)
  deriving DecidableEq, Repr

structure Field where
  number : Nat
  value : Value
  deriving DecidableEq, Repr

def Value.wireType : Value → Nat
  | .varint _ => 0
  | .fixed64 _ => 1
  | .bytes _ => 2
  | .fixed32 _ => 5

def Value.write : Value → Bytes
  | .varint n => writeVarint n
  | .fixed64 b => b
  | .bytes b => writeVarint b.length ++ b
  | .fixed32 b => b

def Field.write (f : Field) : Bytes :=
  writeVarint (f.number * 8 + f.value.wireType) ++ f.value.write

def readNumber (b : Bytes) : Except Fault (Nat × Bytes) :=
  match readVarint b with
  | some r => .ok r
  | none => .error .varint

def takeBytes (n : Nat) (b : Bytes) : Except Fault (Bytes × Bytes) :=
  if n ≤ b.length then .ok (b.take n, b.drop n) else .error .endOfFile

def Value.read (wireType : Nat) (b : Bytes) : Except Fault (Value × Bytes) := do
  match wireType with
  | 0 =>
    let (n, rest) ← readNumber b
    return (.varint n, rest)
  | 1 =>
    let (front, rest) ← takeBytes 8 b
    return (.fixed64 front, rest)
  | 2 =>
    let (n, rest) ← readNumber b
    let (front, rest) ← takeBytes n rest
    return (.bytes front, rest)
  | 5 =>
    let (front, rest) ← takeBytes 4 b
    return (.fixed32 front, rest)
  | n => .error (.wireType n)

def Field.read (b : Bytes) : Except Fault (Field × Bytes) := do
  let (tag, rest) ← readNumber b
  let (value, rest) ← Value.read (tag % 8) rest
  return (⟨tag / 8, value⟩, rest)

def fold {σ : Type} (step : σ → Field → Except Fault σ) : Nat → σ → Bytes → Except Fault σ
  | _, s, [] => .ok s
  | 0, _, _ => .error .endOfFile
  | fuel + 1, s, b => do
    let (f, rest) ← Field.read b
    fold step fuel (← step s f) rest

/-- Every field has at least one byte, so the length of a message bounds their
number. -/
def message {σ : Type} (step : σ → Field → Except Fault σ) (s : σ) (b : Bytes) : Except Fault σ :=
  fold step b.length s b

def Value.toText : Value → Except Fault String
  | .bytes b =>
    match Bytes.toString? b with
    | some s => .ok s
    | none => .error .notText
  | _ => .error .notBytes

def Value.toNumber : Value → Except Fault Nat
  | .varint n => .ok n
  | _ => .error .notVarint

def packed : Nat → Bytes → Except Fault (List Nat)
  | _, [] => .ok []
  | 0, _ => .error .varint
  | fuel + 1, b => do
    let (n, rest) ← readNumber b
    return n :: (← packed fuel rest)

def Value.toNumbers : Value → Except Fault (List Nat)
  | .varint n => .ok [n]
  | .bytes b => packed b.length b
  | _ => .error .notVarint

end Callwire.Protobuf
