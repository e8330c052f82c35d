import Callwire.Bytes
import Callwire.Text.Quoted

/-!
# Frames

The three shapes of message that share a connection. A request is a name, a
zero byte, an id and a payload; a response is an id and a payload; a push is a
name, a zero byte and a payload. A response to the request `n` has the id `n`
if the call succeeded and `-n` if it failed.
-/

set_option autoImplicit false

namespace Callwire

inductive FrameError
  | emptyName
  | invalidName (name : String)
  | nameNotUtf8
  | missingTerminator
  | truncated
  deriving DecidableEq, Repr

def FrameError.message : FrameError → String
  | .emptyName => "frame name is empty"
  | .invalidName name =>
    "frame name " ++ Text.quoted (Text.escaped name) ++ " contains a reserved byte"
  | .nameNotUtf8 => "frame name is not valid utf8"
  | .missingTerminator => "frame name is not terminated"
  | .truncated => "frame too short to hold an id"

structure Request where
  name : String
  id : Int32
  payload : Bytes
  deriving DecidableEq

structure Response where
  id : Int32
  payload : Bytes
  deriving DecidableEq

structure Push where
  name : String
  payload : Bytes
  deriving DecidableEq

inductive Frame
  | request (r : Request)
  | response (r : Response)
  | push (p : Push)
  deriving DecidableEq

namespace Frame

def terminator : UInt8 := 0

def failureLead : UInt8 := 255

/-- The highest id of a request. Up to it the first byte of a response is
`terminator` or `failureLead`, which no name starts with. -/
def maxId : Nat := 0xFFFFFF

def cut (stop : UInt8 → Bool) : Bytes → Option (Bytes × Bytes)
  | [] => none
  | b :: rest =>
    if stop b then some ([], rest)
    else (cut stop rest).map fun (front, back) => (b :: front, back)

theorem cut_eq_none_iff (stop : UInt8 → Bool) (b : Bytes) :
    cut stop b = none ↔ ∀ x ∈ b, stop x = false := by
  induction b with
  | nil => simp [cut]
  | cons x rest ih => by_cases h : stop x <;> simp [cut, h, ih]

theorem cut_append {stop : UInt8 → Bool} {front : Bytes} (h : ∀ x ∈ front, stop x = false)
    {x : UInt8} (hx : stop x = true) (back : Bytes) :
    cut stop (front ++ x :: back) = some (front, back) := by
  induction front with
  | nil => simp [cut, hx]
  | cons y front ih =>
    simp [cut, h y (by simp), ih fun z hz => h z (by simp [hz])]

theorem eq_of_cut {stop : UInt8 → Bool} {b front back : Bytes}
    (h : cut stop b = some (front, back)) :
    ∃ x, stop x = true ∧ b = front ++ x :: back ∧ ∀ y ∈ front, stop y = false := by
  induction b generalizing front with
  | nil => simp [cut] at h
  | cons x rest ih =>
    by_cases hx : stop x
    · simp only [cut, hx, if_true, Option.some.injEq, Prod.mk.injEq] at h
      obtain ⟨rfl, rfl⟩ := h
      exact ⟨x, hx, rfl, by simp⟩
    · simp only [cut, hx, Bool.false_eq_true, if_false, Option.map_eq_some_iff, Prod.mk.injEq,
        Prod.exists] at h
      obtain ⟨f, g, h, rfl, rfl⟩ := h
      obtain ⟨y, hy, rfl, hf⟩ := ih h
      exact ⟨y, hy, rfl, by simpa [hx] using hf⟩

/-- Whether a name can stand in a frame. No UTF-8 text holds the byte 255, so
only the terminator has to be looked for. -/
def checkName (name : String) : Except FrameError Unit :=
  if name = "" then .error .emptyName
  else if (Bytes.ofString name).contains terminator then .error (.invalidName name)
  else .ok ()

def nameOf (front : Bytes) : Except FrameError String :=
  match Bytes.toString? front with
  | some name => .ok name
  | none => .error .nameNotUtf8

end Frame

namespace Request
open Callwire.Frame

def encode (r : Request) : Except FrameError Bytes := do
  checkName r.name
  return Bytes.ofString r.name ++ terminator :: (Bytes.ofWord r.id.toUInt32 ++ r.payload)

def decode (b : Bytes) : Except FrameError Request :=
  match cut (· == terminator) b with
  | none => .error .missingTerminator
  | some (front, back) => do
    let name ← nameOf front
    match Bytes.word? back with
    | none => .error .truncated
    | some (id, payload) => return ⟨name, id.toInt32, payload⟩

end Request

namespace Response

def success (request : Int32) (payload : Bytes) : Response := ⟨request, payload⟩

def failure (request : Int32) (payload : Bytes) : Response := ⟨-request, payload⟩

def isSuccess (r : Response) : Bool := 0 < r.id

/-- The id of the request that is answered; 0, which no request has, for the
one id without a positive counterpart. -/
def requestId (r : Response) : Int32 := if r.id = Int32.minValue then 0 else r.id.abs

def encode (r : Response) : Bytes := Bytes.ofWord r.id.toUInt32 ++ r.payload

def decode (b : Bytes) : Except FrameError Response :=
  match Bytes.word? b with
  | none => .error .truncated
  | some (id, payload) => .ok ⟨id.toInt32, payload⟩

theorem decode_encode (r : Response) : decode r.encode = .ok r := by
  simp [decode, encode, Bytes.word?_ofWord]

end Response

namespace Push
open Callwire.Frame

def encode (p : Push) : Except FrameError Bytes := do
  checkName p.name
  return Bytes.ofString p.name ++ terminator :: p.payload

end Push

namespace Frame

inductive Side
  | server
  | client
  deriving DecidableEq

def named (b : Bytes) : Option (Bytes × Bytes) :=
  (cut (fun x => x == terminator || x == failureLead) b).filter fun (front, _) => front != []

def decode (side : Side) (b : Bytes) : Except FrameError Frame :=
  match side with
  | .server => .request <$> Request.decode b
  | .client =>
    match named b with
    | some (front, payload) => do
      let name ← nameOf front
      return .push ⟨name, payload⟩
    | none => .response <$> Response.decode b

end Frame

end Callwire
