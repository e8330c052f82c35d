import Callwire.Schema.Service
import Callwire.Source.Item

/-!
# Services as traits

A trait describes a service: each method takes at most one payload besides its
receiver and returns at most one. A payload type that is missing or the unit
type is `Void`.
-/

set_option autoImplicit false

namespace Callwire
open Source

inductive TraitError
  | genericTrait
  | noMethod
  | body
  | async
  | genericMethod
  | noReceiver
  | unexpectedArgument
  | genericPayload
  | noPayloadPath
  | severalPayloads
  | eventResult
  deriving DecidableEq, Repr

def TraitError.message : TraitError → String
  | .genericTrait => "a service cannot be generic"
  | .noMethod => "a service can only contain methods"
  | .body => "service methods cannot have a body"
  | .async => "service methods are declared without async"
  | .genericMethod => "service methods cannot be generic"
  | .noReceiver => "service methods need a self receiver"
  | .unexpectedArgument => "unexpected argument"
  | .genericPayload => "payload types cannot have generics"
  | .noPayloadPath => "expected a payload type path"
  | .severalPayloads => "service methods take at most one payload"
  | .eventResult => "push events do not return anything"

def PayloadType.ofTy : Ty → Except TraitError PayloadType
  | .tuple [] _ => .ok .void
  | .paren t => ofTy t
  | .path start segments =>
    if !segments.all Segment.isPlain then .error .genericPayload
    else if start = .absolute then .ok (.named ("::" ++ pathText segments))
    else .ok (ofName (pathText segments))
  | _ => .error .noPayloadPath

def requestOf : List Param → Except TraitError PayloadType
  | [] => .ok .void
  | [.typed _ _ t] => PayloadType.ofTy t
  | .typed _ _ t :: _ => do
    discard (PayloadType.ofTy t)
    .error .severalPayloads
  | _ => .error .unexpectedArgument

def responseOf (role : Role) (output : Option Ty) : Except TraitError PayloadType := do
  let response ← (output.map PayloadType.ofTy).getD (.ok .void)
  if role = .push && !response.isVoid then .error .eventResult else .ok response

def isSingle : Param → Bool
  | .dots .. => false
  | _ => true

def Method.ofSignature (role : Role) (docs : List String) (f : Signature) :
    Except TraitError Method :=
  if f.isAsync then .error .async
  else if !f.generics.params.isEmpty then .error .genericMethod
  else
    match f.params.filter isSingle with
    | .receiver .. :: rest => do
      let request ← requestOf rest
      let response ← responseOf role f.output
      return ⟨f.name, request, response, docs⟩
    | _ => .error .noReceiver

def Method.ofMember (role : Role) : Member → Except TraitError Method
  | .function _ _ _ _ (some _) => .error .body
  | .function marks _ _ f none => ofSignature role (docLines marks) f
  | _ => .error .noMethod

def Service.ofTrait (role : Role) (t : Trait) : Except TraitError Service :=
  if !t.generics.params.isEmpty then .error .genericTrait
  else do
    let methods ← t.members.mapM (Method.ofMember role)
    return ⟨t.name, methods, [role.tag], docLines (t.marks ++ t.inner)⟩

end Callwire
