import Callwire.Payload.Codec
import Callwire.Proofs.Stub.Resolution

/-!
# What the code of stubs does

An evaluator for the expressions and statements in the functions of stubs. What
lies outside of them is left open: how values of a payload type become bytes and
back, the functions of a handler, and the connection that carries calls. Code
that is put together in no sensible way is stuck.
-/

set_option autoImplicit false

namespace Callwire.Stub

/-! ## Values -/

/-- What an expression stands for; payloads are of a type `V`, errors of a type `E`. -/
inductive Value (V E : Type)
  | unit
  | void
  | text (s : String)
  | bytes (b : Bytes)
  | variant (enum name : String)
  | list (values : List (Value V E))
  | payload (t : Ty) (v : V)
  | ok (value : Value V E)
  | refused (e : CodecError)
  | failed (e : E)
  | stub
  | connection
  | calling (name : String) (payload : Bytes)
  | cell
  | maker
  | table

/-- What stubs are used with. A function of a handler is known by its place in the trait. -/
structure World (σ V E : Type) where
  encode : Ty → V → Except CodecError Bytes
  decode : Ty → Bytes → Except CodecError V
  ofCodec : CodecError → E
  handle : σ → Nat → Option (Ty × V) → Except E V × σ
  ask : σ → String → Bytes → Except E Bytes × σ

/-- A computation that may change the state, return early with an error, or be stuck. -/
abbrev Run (σ E : Type) := ExceptT E (StateT σ Option)

def stuck {σ E α : Type} : Run σ E α := fun _ => none

namespace World

variable {σ V E : Type} (w : World σ V E)

def read (t : Ty) (b : Bytes) : Run σ E V :=
  match w.decode t b with
  | .ok v => pure v
  | .error e => throw (w.ofCodec e)

def write (t : Ty) (v : V) : Run σ E Bytes :=
  match w.encode t v with
  | .ok b => pure b
  | .error e => throw (w.ofCodec e)

def call (i : Nat) (arg : Option (Ty × V)) : Run σ E V := fun s => some (w.handle s i arg)

def request (name : String) (payload : Bytes) : Run σ E Bytes :=
  fun s => some (w.ask s name payload)

end World

structure Scope (V E : Type) where
  params : List String
  self : String
  enums : List (String × List String)
  inner : List Signature
  locals : List (String × Value V E)

namespace Scope

variable {V E : Type}

def bind (sc : Scope V E) (name : String) (v : Value V E) : Scope V E :=
  { sc with locals := (name, v) :: sc.locals }

def typeNamed (sc : Scope V E) (name : String) : String := if name = "Self" then sc.self else name

def hasVariant (sc : Scope V E) (enum name : String) : Bool :=
  ((sc.enums.lookup enum).getD []).contains name

def find? (sc : Scope V E) : Root → List String → Option (Value V E)
  | .scope, [name] => sc.locals.lookup name
  | .scope, [enum, name] =>
    if sc.hasVariant (sc.typeNamed enum) name then some (.variant (sc.typeNamed enum) name)
    else none
  | .runtime, ["payload", "Void"] => some .void
  | .runtime, ["server", "MethodTable", "new"] => some .maker
  | _, _ => none

def fits (sc : Scope V E) : List String → Value V E → Bool
  | [enum, name], .variant enum' name' => sc.typeNamed enum == enum' && name == name'
  | _, _ => false

end Scope

/-! ## Calls -/

variable {σ V E : Type}

def Ty.success? : Ty → Option Ty
  | .path .absolute [_, _, .mk "Result" [t, _] _] => some t
  | _ => none

def Ty.inhabit (t : Ty) (v : V) : Value V E :=
  match t with
  | .unit => .unit
  | t => .payload t v

def argument? : List (Value V E) → Option (Option (Ty × V))
  | [] => some none
  | [.payload t v] => some (some (t, v))
  | _ => none

def captured (r : Run σ E (Value V E)) : Run σ E (Value V E) :=
  tryCatch (r >>= fun v => pure (.ok v)) fun e => pure (.failed e)

namespace World

variable (w : World σ V E)

def intoPayload : Value V E → Run σ E (Value V E)
  | .void => pure (.ok (.bytes []))
  | .payload t v =>
    match w.encode t v with
    | .ok b => pure (.ok (.bytes b))
    | .error e => pure (.refused e)
  | _ => stuck

def fromPayload (t : Ty) : Value V E → Run σ E (Value V E)
  | .bytes b =>
    match w.decode t b with
    | .ok v => pure (.ok (.payload t v))
    | .error e => pure (.refused e)
  | _ => stuck

def apply (params : List String) : Expr → List (Value V E) → Run σ E (Value V E)
  | .qualified t .runtime ["payload", "FromPayload"] "from_payload", [v] =>
    if t.uses.any (·.isHidden params) then stuck else w.fromPayload t v
  | .path .runtime ["payload", "IntoPayload", "into_payload"], [v] => w.intoPayload v
  | .path .scope ["Ok"], [v] => pure (.ok v)
  | .path .absolute ["std", "vec", "Vec", "new"], [] => pure (.bytes [])
  | .path .absolute ["std", "sync", "OnceLock", "new"], [] => pure .cell
  | _, _ => stuck

def callInner (fns : List Signature) (name : String) (args : List (Value V E)) :
    Run σ E (Value V E) :=
  if conversions.contains name then stuck else
  match fns.findIdx? (·.name == name), argument? args with
  | some i, some arg =>
    match (fns[i]?.bind (·.output)).bind Ty.success? with
    | some t => captured (w.call i arg >>= fun v => pure (t.inhabit v))
    | none => stuck
  | _, _ => stuck

def await : Value V E → Run σ E (Value V E)
  | .calling name payload => captured (w.request name payload >>= fun b => pure (.bytes b))
  | _ => stuck

def attempt : Value V E → Run σ E (Value V E)
  | .ok v => pure v
  | .refused e => throw (w.ofCodec e)
  | .failed e => throw e
  | _ => stuck

end World

def invoke : Value V E → String → List (Value V E) → Run σ E (Value V E)
  | .connection, "rpc", [.text name, .bytes payload] => pure (.calling name payload)
  | .cell, "get_or_init", [.maker] => pure .table
  | _, _, _ => stuck

def fieldOf : Value V E → String → Run σ E (Value V E)
  | .stub, "caller" => pure .connection
  | _, _ => stuck

/-! ## Evaluation -/

mutual

def eval (w : World σ V E) (sc : Scope V E) : Expr → Run σ E (Value V E)
  | .path root names => (sc.find? root names).elim stuck pure
  | .qualified .. => stuck
  | .literal s => pure (.text s)
  | .call f args _ => evalAll w sc args >>= w.apply sc.params f
  | .method receiver name args _ =>
    eval w sc receiver >>= fun r => evalAll w sc args >>= invoke r name
  | .field e name => eval w sc e >>= (fieldOf · name)
  | .wrapped e name args =>
    eval w sc e >>= fun
      | .stub => evalAll w sc args >>= w.callInner sc.inner name
      | _ => stuck
  | .attempt e => eval w sc e >>= w.attempt
  | .await e => eval w sc e >>= w.await
  | .ref _ e => eval w sc e
  | .deref e => eval w sc e
  | .paren e => eval w sc e
  | .unit => pure .unit
  | .array elems => evalAll w sc elems >>= fun vs => pure (.list vs)
  | .record .. => stuck
  | .ignoring .. => stuck
  | .cases e arms => eval w sc e >>= choose w sc arms

def evalAll (w : World σ V E) (sc : Scope V E) : List Expr → Run σ E (List (Value V E))
  | [] => pure []
  | e :: rest => eval w sc e >>= fun v => evalAll w sc rest >>= fun vs => pure (v :: vs)

def choose (w : World σ V E) (sc : Scope V E) : List Arm → Value V E → Run σ E (Value V E)
  | [], _ => stuck
  | .value pattern e :: rest, v => if sc.fits pattern v then eval w sc e else choose w sc rest v
  | .block pattern body :: rest, v =>
    if sc.fits pattern v then run w sc body else choose w sc rest v

def run (w : World σ V E) (sc : Scope V E) : List Stmt → Run σ E (Value V E)
  | [] => pure .unit
  | .bind name e :: rest => eval w sc e >>= fun v => run w (sc.bind name v) rest
  | .shared name _ e :: rest => eval w sc e >>= fun v => run w (sc.bind name v) rest
  | .run e :: rest => eval w sc e >>= fun _ => run w sc rest
  | .result e :: rest => if rest.isEmpty then eval w sc e else stuck

end

attribute [simp] eval evalAll choose run

end Callwire.Stub
