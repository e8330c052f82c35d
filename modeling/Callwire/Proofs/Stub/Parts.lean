import Callwire.Proofs.Stub.Meaning
import Callwire.Server.MethodTable

/-!
# Stubs in use

What can be done with the items of a source file: the methods of a service are
listed, named and looked up, a request is served by the adapter, and a call is
made through a proxy. All of it is read off the items and evaluated.
-/

set_option autoImplicit false

namespace Callwire.Stub

/-! ## Parts of a source file -/

def enumerations (items : List Item) : List (String × List String) :=
  items.filterMap fun
    | .enumeration _ name variants => some (name, variants.map (·.name))
    | _ => none

def traitFns? (items : List Item) (name : String) : Option (List Signature) :=
  items.findSome? fun
    | .trait _ n methods => if n = name then some (methods.map (·.2)) else none
    | _ => none

structure Implementation where
  generics : List TypeParam
  self : Ty
  members : List Member

def implementation? (c : Code) (trait : Root × List String) : Option Implementation :=
  c.items.findSome? fun
    | .implementation generics (some t) self _ members =>
      if t = trait then some ⟨generics, self, members⟩ else none
    | _ => none

abbrev Function := Signature × List Stmt

namespace Implementation

def fn? (i : Implementation) (name : String) : Option Function :=
  i.members.findSome? fun
    | .function _ _ f body => if f.name = name then some (f, body) else none
    | _ => none

def selfName? (i : Implementation) : Option String :=
  match i.self with
  | .path .scope [.mk name _ _] => some name
  | _ => none

/-- The functions of the trait that the parameter of the type is bound by. A bound with the
name of the parameter itself names no trait. -/
def innerFns? (i : Implementation) (c : Code) : Option (List Signature) :=
  match i.generics with
  | [⟨param, [.trait false .scope [name]]⟩] =>
    if name = param then none else traitFns? c.items name
  | _ => none

end Implementation

def proxies (items : List Item) : List Function :=
  items.flatMap fun
    | .implementation _ none _ _ members => members.filterMap fun
      | .function _ _ f body => if f.isAsync then some (f, body) else none
      | _ => none
    | _ => []

/-! ## Calls of functions -/

section

variable {V E : Type}

def Param.name : Param → String
  | .self _ _ => "self"
  | .typed name _ => name

def Signature.enter? (f : Signature) (args : List (Value V E)) :
    Option (List (String × Value V E)) :=
  if f.params.length = args.length then some ((f.params.map Param.name).zip args) else none

def Signature.passed? (f : Signature) (arg : Option V) : Option (List (Value V E)) :=
  match f.params, arg with
  | [.self _ _], none => some [.stub]
  | [.self _ _, .typed _ t], some v => some [.stub, .payload t v]
  | _, _ => none

def found {σ α : Type} (o : Option α) : Run σ E α := o.elim stuck pure

end

/-! ## Methods of a service -/

structure MethodId where
  enum : String
  name : String
  deriving DecidableEq, Repr

def nowhere : World Unit Unit Unit :=
  ⟨fun _ _ => .ok [], fun _ _ => .ok (), fun _ => (), fun s _ _ => (.error (), s),
    fun s _ _ => (.error (), s)⟩

def value? {α : Type} (r : Run Unit Unit α) : Option α :=
  match r () with
  | some (.ok a, _) => some a
  | _ => none

def methodImplementation? (c : Code) : Option Implementation :=
  implementation? c (.runtime, ["server", "MethodId"])

def methodScope (c : Code) (self : String) (locals : List (String × Value Unit Unit)) :
    Scope Unit Unit :=
  ⟨[], self, enumerations c.items, [], locals⟩

def wireName? (c : Code) (m : MethodId) : Option String := do
  let i ← methodImplementation? c
  let self ← i.selfName?
  let (f, body) ← i.fn? "name"
  let locals ← f.enter? [.variant m.enum m.name]
  match value? (run nowhere (methodScope c self locals) body) with
  | some (.text s) => some s
  | _ => none

def wireName (c : Code) (m : MethodId) : String := (wireName? c m).getD ""

namespace World

variable {σ V E : Type} (w : World σ V E)

def serve (c : Code) (m : MethodId) (payload : Bytes) : Run σ E Bytes := do
  let i ← found (implementation? c (.runtime, ["server", "CallService"]))
  let (f, body) ← found (i.fn? "call")
  let self ← found i.selfName?
  let inner ← found (i.innerFns? c)
  let locals ← found (f.enter? [.stub, .variant m.enum m.name, .bytes payload])
  let params := paramNames i.generics
  let result ← run w ⟨params, self, enumerations c.items, inner, locals⟩ body
  match ← w.attempt result with
  | .bytes b => return b
  | _ => stuck

def proxy (f : Function) (arg : Option V) : Run σ E (Option (Ty × V)) := do
  let args ← found (f.1.passed? arg)
  let locals ← found (f.1.enter? args)
  let result ← run w ⟨[], "", [], [], locals⟩ f.2
  match ← w.attempt result with
  | .unit => return none
  | .payload t v => return some (t, v)
  | _ => stuck

def readIf (t : Option Ty) (b : Bytes) : Run σ E (Option (Ty × V)) :=
  match t with
  | some t => w.read t b >>= fun v => pure (some (t, v))
  | none => pure none

def writeIf (v : Option (Ty × V)) : Run σ E Bytes :=
  match v with
  | some (t, v) => w.write t v
  | none => pure []

def serving (request response : Option Ty) (i : Nat) (payload : Bytes) : Run σ E Bytes := do
  let arg ← w.readIf request payload
  let v ← w.call i arg
  w.writeIf (response.map (·, v))

def asking (request response : Option Ty) (name : String) (arg : Option V) :
    Run σ E (Option (Ty × V)) := do
  let payload ← w.writeIf (request.bind fun t => arg.map (t, ·))
  let answer ← w.request name payload
  w.readIf response answer

end World

end Callwire.Stub
