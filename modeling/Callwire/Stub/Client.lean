import Callwire.Stub.Method

/-!
# Stubs of the client

For a service of calls a proxy with one method per call; for a service of
events the subscriber, which registers a handler per event when it is made.
All services of a file share one connection through their bundle.
-/

set_option autoImplicit false

namespace Callwire.Stub
open Source (Tokens)

def caller : Ty := .runtime ["client", "Caller"]

def rpc (m : MethodParts) : Expr :=
  .attempt (.await (.method (.field (.named "self") "caller") "rpc"
    [.literal m.wireName, .named "payload"] false))

def proxyFn (m : MethodParts) : Member :=
  .function m.docs true
    ⟨true, m.fnName, [], selfRef :: m.params, false,
      some (resultOf m.output "RequestError"), []⟩ <|
    .bind "payload" (match m.request with
      | some _ => encoded (.named "param")
      | none => .call (.absolute ["std", "vec", "Vec", "new"]) [] false) ::
    match m.response with
    | some t =>
      [.bind "response" (rpc m), .result (ok (decoded t (.ref false (.named "response"))))]
    | none => [.run (rpc m), .result (ok .unit)]

def callClient (runtime : Tokens) (s : Service) : Except StubError (List Item) := do
  let client ← serviceIdentifier s "Client"
  let methods ← partsOf runtime s
  return [
    .record [.derive ["Debug", "Clone"]] client [] [⟨false, "caller", caller⟩],
    .implementation [] none (.named client) [] <|
      .function [] true
        (plainFn "new" [.typed "caller" caller] false (some (.named "Self")))
        [.result (.record "Self" [("caller", none)] false)] ::
      methods.map proxyFn]

def subscribersOf (t : Ty) : Ty :=
  .path .absolute [.plain "std", .plain "sync",
    .mk "Arc" [.path .runtime [.plain "client", .of "Subscribers" [t]]] true]

def registration (m : MethodParts) : List Stmt :=
  [.bind m.fnName (.call (.absolute ["std", "sync", "Arc", "new"])
    [.call (.runtime ["client", "Subscribers", "new"]) [.literal m.wireName] false] false),
   .run (.method (.named "caller") "register_callback_handler"
    [.literal m.wireName, .call (.runtime ["client", "Subscribers", "handler"])
      [.ref false (.named m.fnName)] false] true)]

def subscribeFn (m : MethodParts) : Member :=
  let callback (inputs : List Ty) : List Bound :=
    [.callback inputs, bound .scope ["Send"], bound .scope ["Sync"], .life "static"]
  let inputs := (m.request.map Ty.shared).toList
  .function m.docs true
    ⟨false, "on_" ++ m.fnName, [⟨"F", []⟩], [selfRef, .typed "callback" (.named "F")], false,
      none, [⟨.named "F", callback inputs⟩]⟩
    [.result (.method (.field (.named "self") m.fnName) "subscribe" [match m.request with
      | some _ => .named "callback"
      | none => .ignoring m.eventType.shared (.call (.named "callback") [] false)] false)]

def registeringNew (body : List Stmt) : Member :=
  .function [.allow "unused_variables"] true
    (plainFn "new" [.typed "caller" caller.shared] false (some (.named "Self"))) body

def pushSubscriber (runtime : Tokens) (s : Service) : Except StubError (List Item) := do
  let subscriber ← serviceIdentifier s "Subscriber"
  let methods ← partsOf runtime s
  return [
    .record [.derive ["Debug"]] subscriber []
      (methods.map fun m => ⟨false, m.fnName, subscribersOf m.eventType⟩),
    .implementation [] none (.named subscriber) [] <|
      registeringNew (methods.flatMap registration ++
        [.result (.record "Self" (methods.map fun m => (m.fnName, none)) true)]) ::
      methods.map subscribeFn]

structure Bundled where
  name : String
  type : String
  argument : Expr

def bundledCall (s : Service) : Except StubError Bundled := do
  let field ← snakeIdentifier s.name
  let client ← serviceIdentifier s "Client"
  return ⟨field, client, .method (.named "caller") "clone" [] false⟩

/-- A service in both lists already has a field. -/
def bundledPush (call : List Service) (s : Service) : Except StubError Bundled := do
  let field ← snakeIdentifier s.name
  let subscriber ← serviceIdentifier s "Subscriber"
  let field := if call.any (·.name == s.name) then field ++ "_events" else field
  return ⟨field, subscriber, .named "caller"⟩

def bundle (call push : List Service) : Except StubError (List Item) := do
  let calls ← call.mapM bundledCall
  let pushes ← push.mapM (bundledPush call)
  let fields := calls ++ pushes
  return [
    .record [.note " Every service of this file on one connection.", .derive ["Debug"]]
      "Services" [] (fields.map fun f => ⟨true, f.name, .named f.type⟩),
    .implementation [] none (.named "Services") [] [
      registeringNew [.result (.record "Self" (fields.map fun f =>
        (f.name, some (.call (.path .scope [f.type, "new"]) [f.argument] false)))
        true)]]]

end Callwire.Stub
