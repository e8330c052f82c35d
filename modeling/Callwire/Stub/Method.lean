import Callwire.Schema.Service
import Callwire.Source.Diagnosis
import Callwire.Stub.Code

/-!
# Methods in stubs

The identifiers and types that the stubs of a method are made of.
-/

set_option autoImplicit false

namespace Callwire.Stub
open Source (Tokens nameOf? below)

def identifier (name : String) : Except StubError String :=
  match nameOf? name with
  | some n => .ok n
  | none => .error (.invalidIdentifier name)

def snakeIdentifier (name : String) : Except StubError String := identifier (Text.snakeCase name)

def unmarked (name : String) : String :=
  match name.toList with
  | 'r' :: '#' :: rest => String.ofList rest
  | _ => name

def serviceIdentifier (s : Service) (suffix : String) : Except StubError String := do
  let base ← identifier s.name
  return unmarked base ++ suffix

def isIdentifier (name : String) : Bool :=
  match name.toList with
  | c :: rest => Text.isNameStart c && rest.all Text.isNameContinue
  | [] => false

def handlerName (s : Service) : Except StubError String :=
  let name := "handle_" ++ Text.snakeCase s.name ++ "_request"
  if isIdentifier name then .ok name else .error (.unjoinable name)

def dropFront (front line : String) : Option String :=
  if front.toList.isPrefixOf line.toList then some (String.ofList (line.toList.drop front.length))
  else none

def docsOf (lines : List String) : List Attribute :=
  lines.map fun line =>
    .doc ((dropFront "///" line <|> dropFront "//" line).getD line)

def errorPayload (runtime : Tokens) : Except StubError Source.Ty :=
  let row := runtime ++ below [[.name "payload"], [.name "ErrorPayload"]]
  (Source.Ty.ofTokens? row).elim (.error (.unreadableRuntime (Source.Diagnosis.ofType row))) .ok

def payloadType (runtime : Tokens) : PayloadType → Except StubError (Option Ty)
  | .void => .ok none
  | .error => (errorPayload runtime).map fun t => some (.given t)
  | .named name =>
    match Source.Ty.ofString? name with
    | some t => .ok (some (.given t))
    | none => .error (.invalidType name)

structure MethodParts where
  wireName : String
  fnName : String
  variant : String
  request : Option Ty
  response : Option Ty
  docs : List Attribute

def MethodParts.of (runtime : Tokens) (m : Method) : Except StubError MethodParts := do
  let fnName ← snakeIdentifier m.name
  let variant ← identifier (Text.camelCase m.name)
  let request ← payloadType runtime m.request
  let response ← payloadType runtime m.response
  return ⟨m.name, fnName, variant, request, response, docsOf m.docs⟩

def partsOf (runtime : Tokens) (s : Service) : Except StubError (List MethodParts) :=
  s.methods.mapM (MethodParts.of runtime)

namespace MethodParts

def params (m : MethodParts) : List Param := (m.request.map (.typed "param")).toList

def args (m : MethodParts) : List Expr := (m.request.map fun _ => Expr.named "param").toList

def output (m : MethodParts) : Ty := m.response.getD .unit

def eventType (m : MethodParts) : Ty := m.request.getD (.runtime ["payload", "Void"])

end MethodParts

def resultOf (t : Ty) (failure : String) : Ty :=
  .path .absolute [.plain "core", .plain "result",
    .of "Result" [t, .runtime ["error", failure]]]

def decoded (t : Ty) (e : Expr) : Expr :=
  .attempt (.call (.qualified t .runtime ["payload", "FromPayload"] "from_payload") [e] false)

def encoded (e : Expr) : Expr :=
  .attempt (.call (.runtime ["payload", "IntoPayload", "into_payload"]) [e] false)

def ok (e : Expr) : Expr := .call (.named "Ok") [e] false

def selfRef : Param := .self true false

def selfMut : Param := .self true true

def bound (root : Root) (names : List String) : Bound := .trait false root names

def maybeSized : Bound := .trait true .scope ["Sized"]

def Ty.shared (t : Ty) : Ty := .ref none false t

def Ty.exclusive (t : Ty) : Ty := .ref none true t

def plainFn (name : String) (params : List Param) (trailing : Bool) (output : Option Ty) :
    Signature :=
  ⟨false, name, [], params, trailing, output, []⟩

end Callwire.Stub
