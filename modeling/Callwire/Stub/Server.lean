import Callwire.Stub.Method

/-!
# Stubs of the server

For a service of calls: the trait a handler implements, the enumeration of its
methods, the adapter that decodes calls and the function that handles a frame.
For a service of events: the trait of the events and the emitter that pushes
them.
-/

set_option autoImplicit false

namespace Callwire.Stub
open Source (Tokens)

def handlerFn (m : MethodParts) : Signature :=
  plainFn m.fnName (selfMut :: m.params) false (some (resultOf m.output "ServiceError"))

def forwardFn (m : MethodParts) : Member :=
  .function [] false (handlerFn m)
    [.result (.method (.paren (.deref (.deref (.named "self")))) m.fnName m.args false)]

def handlerTrait (s : Service) (name : String) (methods : List MethodParts) : Item :=
  .trait (docsOf s.docs) name (methods.map fun m => (m.docs, handlerFn m))

def forwarding (name : String) (methods : List MethodParts) : Item :=
  .implementation [⟨"T", [bound .scope [name], maybeSized]⟩] (some (.scope, [name]))
    (Ty.named "T").exclusive [] (methods.map forwardFn)

def methodEnum (name : String) (methods : List MethodParts) : Item :=
  .enumeration [.derive ["Debug", "Clone", "Copy", "PartialEq", "Eq", "Hash"]] name
    (methods.map fun m => ⟨m.docs, m.variant⟩)

def staticRef (t : Ty) : Ty := .ref (some "static") false t

def methodNames (enum : String) (methods : List MethodParts) : Item :=
  let table (t : String) : Ty :=
    .path .runtime [.plain "server", .of "MethodTable" [.named t]]
  .implementation [] (some (.runtime, ["server", "MethodId"])) (.named enum) [] [
    .constant "ALL" (staticRef (.slice (.named "Self")))
      (.ref false (.array (methods.map fun m => .path .scope ["Self", m.variant]))),
    .function [] false (plainFn "name" [selfRef] false (some (staticRef (.named "str"))))
      [.result (.cases (.deref (.named "self")) (methods.map fun m =>
        .value ["Self", m.variant] (.literal m.wireName)))],
    .function [] false (plainFn "table" [] false (some (staticRef (table "Self"))))
      [.shared "TABLE"
        (.path .absolute [.plain "std", .plain "sync", .of "OnceLock" [table enum]])
        (.call (.absolute ["std", "sync", "OnceLock", "new"]) [] false),
       .result (.method (.named "TABLE") "get_or_init"
        [.runtime ["server", "MethodTable", "new"]] false)]]

def callArm (enum : String) (m : MethodParts) : Arm :=
  let call := Expr.attempt (.wrapped (.named "self") m.fnName m.args)
  .block [enum, m.variant] <|
    (m.request.map fun t => Stmt.bind "param" (decoded t (.named "payload"))).toList ++
    match m.response with
    | some _ => [.bind "response" call, .result (ok (encoded (.named "response")))]
    | none => [.run call, .result (ok (encoded (.runtime ["payload", "Void"])))]

def byteVector : Ty :=
  .path .absolute [.plain "std", .plain "vec", .of "Vec" [.named "u8"]]

def adapter (name enum server : String) (methods : List MethodParts) : Item :=
  .implementation [⟨"H", [bound .scope [name]]⟩]
    (some (.runtime, ["server", "CallService"]))
    (.path .scope [.of server [.named "H"]]) [] [
    .alias "Method" (.named enum),
    .function [.allow "unused_variables"] false
      (plainFn "call" [selfMut, .typed "method" (.named enum),
        .typed "payload" (Ty.slice (.named "u8")).shared] true
        (some (resultOf byteVector "ServiceError")))
      [.result (.cases (.named "method") (methods.map (callArm enum)))]]

def handleFn (name server handler : String) : Item :=
  .function [.note " Handles one request frame, writing at most one response frame."]
    ⟨false, handler, [⟨"H", []⟩, ⟨"S", []⟩, ⟨"L", []⟩],
      [.typed "socket" (Ty.named "S").shared, .typed "handler" (Ty.named "H").exclusive,
        .typed "log" (Ty.named "L").shared, .typed "frame" (Ty.slice (.named "u8")).shared],
      true, some (.runtime ["server", "DispatchOutcome"]),
      [⟨.named "H", [bound .scope [name], maybeSized]⟩,
        ⟨.named "S", [bound .runtime ["server", "Socket"], maybeSized]⟩,
        ⟨.named "L", [bound .runtime ["server", "Logger"], maybeSized]⟩]⟩
    [.result (.call (.runtime ["server", "dispatch"])
      [.ref true (.call (.named server) [.named "handler"] false), .named "socket", .named "log",
        .named "frame"] false)]

def callServer (runtime : Tokens) (s : Service) : Except StubError (List Item) := do
  let name ← serviceIdentifier s ""
  let enum ← serviceIdentifier s "Method"
  let server ← serviceIdentifier s "Server"
  let handler ← handlerName s
  let methods ← partsOf runtime s
  return [handlerTrait s name methods, forwarding name methods, methodEnum enum methods,
    methodNames enum methods,
    .wrapper [.note " Decodes calls and hands them to the wrapped handler."] server "H",
    adapter name enum server methods, handleFn name server handler]

def eventFn (m : MethodParts) : Signature := plainFn m.fnName (selfRef :: m.params) false none

def pushFn (s : Service) (m : MethodParts) : Member :=
  .function [] false (eventFn m)
    [.result (.call (.runtime ["server", "push"])
      [.ref false (.field (.named "self") "socket"), .ref false (.field (.named "self") "log"),
        .literal s.name, .literal m.wireName,
        (m.args.head?).getD (.runtime ["payload", "Void"])] true)]

def emitterParams : List TypeParam := [⟨"S", []⟩, ⟨"L", []⟩]

def emitterType (name : String) : Ty := .path .scope [.of name [.named "S", .named "L"]]

def pushEmitter (runtime : Tokens) (s : Service) : Except StubError (List Item) := do
  let name ← serviceIdentifier s ""
  let emitter ← serviceIdentifier s "Emitter"
  let methods ← partsOf runtime s
  return [
    .trait (docsOf s.docs) name (methods.map fun m => (m.docs, eventFn m)),
    .record [.note " Writes every event as a push frame."] emitter emitterParams
      [⟨false, "socket", .named "S"⟩, ⟨false, "log", .named "L"⟩],
    .implementation emitterParams none (emitterType emitter) [] [
      .function [] true
        (plainFn "new" [.typed "socket" (.named "S"), .typed "log" (.named "L")] false
          (some (.named "Self")))
        [.result (.record "Self" [("socket", none), ("log", none)] false)]],
    .implementation emitterParams (some (.scope, [name])) (emitterType emitter)
      [⟨.named "S", [bound .runtime ["server", "Socket"]]⟩,
        ⟨.named "L", [bound .runtime ["server", "Logger"]]⟩]
      (methods.map (pushFn s))]

end Callwire.Stub
