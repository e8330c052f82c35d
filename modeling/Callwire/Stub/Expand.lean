import Callwire.Stub.Items
import Callwire.Schema.Trait
import Callwire.Stub.CodeText

/-!
# Stubs in place of a trait

A trait that carries a role is replaced by the stubs of the service it
describes, and a type that names an encoding gets its conversions to and from
a payload.
-/

set_option autoImplicit false

namespace Callwire.Stub
open Source (Tokens Tree Mark Generic TypeDeclaration Trait op comma round square curly below lex
  isKeyword)

inductive Manifest
  | itself
  | dependency (name : String)
  | missing

def Manifest.runtime? : Manifest → Option Tokens
  | .itself => some [.name "wsrpc"]
  | .dependency name => some (op "::" ++ [.name name])
  | .missing => none

inductive ExpandError
  | noName (atEnd : Bool)
  | keyword (name : String)
  | noTokens
  | unknownRole
  | afterRole
  | noDeclaration
  | trait (e : TraitError)
  | noRuntime
  | stub (e : StubError)
  | noEncoding
  | unknownEncoding
  | noArguments
  | noBrackets
  | afterEncoding

def ExpandError.message : ExpandError → String
  | .noName atEnd => (if atEnd then "unexpected end of input, " else "") ++ "expected identifier"
  | .keyword name => "expected identifier, found keyword `" ++ name ++ "`"
  | .noTokens => "cannot parse string into token stream"
  | .unknownRole => "expected `call` or `push`"
  | .afterRole => "unexpected tokens after the role"
  | .noDeclaration => "no declaration"
  | .trait e => e.message
  | .noRuntime => "the runtime is no dependency"
  | .stub e => e.message
  | .noEncoding => "need an attribute #[payload(..)]"
  | .unknownEncoding => "expected `json` or `protobuf`"
  | .noArguments => "expected attribute arguments in parentheses: #[payload(...)]"
  | .noBrackets => "expected parentheses: #[payload(...)]"
  | .afterEncoding => "unexpected token"

def leadingName : Tokens → Except ExpandError (String × Tokens)
  | .name n :: rest => if isKeyword n then .error (.keyword n) else .ok (n, rest)
  | [] => .error (.noName true)
  | _ => .error (.noName false)

def roleOf (args : String) : Except ExpandError Role := do
  let ts ← (lex args).elim (.error .noTokens) .ok
  let (n, rest) ← leadingName ts
  let role ← if n = "call" || n = "rpc" then .ok Role.call
    else if n = "push" || n = "ssp" then .ok Role.push
    else .error .unknownRole
  if rest.isEmpty then .ok role else .error .afterRole

def runtimeOf (m : Manifest) : Except ExpandError Tokens := m.runtime?.elim (.error .noRuntime) .ok

def expandTrait (args source : String) (m : Manifest) : Except ExpandError Tokens := do
  let role ← roleOf args
  let t ← (Trait.ofString? source).elim (.error .noDeclaration) .ok
  let service ← (Service.ofTrait role t).mapError .trait
  let runtime ← runtimeOf m
  let items ← (serviceItems runtime service).mapError .stub
  return itemTokens ⟨runtime, t.visibility.tokens⟩ items

/-! ## Conversions of payload types -/

inductive Encoding
  | json
  | protobuf

def Encoding.name : Encoding → String
  | .json => "json"
  | .protobuf => "protobuf"

def encodingIn (m : Mark) : Except ExpandError Encoding :=
  match m.content with
  | .bare => .error .noArguments
  | .value _ => .error .noBrackets
  | .list _ body => do
    let (n, rest) ← leadingName body
    if !rest.isEmpty then .error .afterEncoding
    else if n = "json" then .ok .json
    else if n = "protobuf" then .ok .protobuf
    else .error .unknownEncoding

/-- The encoding a type names; of several the last counts. -/
def encodingOf (marks : List Mark) : Except ExpandError Encoding := do
  let named ← (marks.filter (·.isNamed "payload")).mapM encodingIn
  named.getLast?.elim (.error .noEncoding) .ok

def pathRow (front : Tokens) (names : List String) : Tokens :=
  front ++ below (names.map fun n => [Tree.name n])

def absoluteRow (names : List String) : Tokens := pathRow [] names

def conversion (runtime : Tokens) (t : TypeDeclaration) (trait : String) (function : Tokens) :
    Tokens :=
  .name "impl" :: t.generics.row (Generic.declared false) ++
    pathRow runtime ["payload", trait] ++ .name "for" :: .name t.name ::
    t.generics.row Generic.used ++ t.demands.tokens ++ [curly function]

def resultRow (runtime value : Tokens) : Tokens :=
  op "->" ++ absoluteRow ["core", "result", "Result"] ++ op "<" ++ value ++ comma ::
    pathRow runtime ["payload", "CodecError"] ++ op ">"

def intoPayload (runtime : Tokens) (e : Encoding) (t : TypeDeclaration) : Tokens :=
  conversion runtime t "IntoPayload" <|
    .name "fn" :: .name "into_payload" :: round [.name "self"] ::
    resultRow runtime (absoluteRow ["std", "vec", "Vec"] ++ op "<" ++ .name "u8" :: op ">") ++
    [curly (pathRow runtime ["encdec", e.name, "encode"] ++ [round [.name "self"]])]

def fromPayload (runtime : Tokens) (e : Encoding) (t : TypeDeclaration) : Tokens :=
  conversion runtime t "FromPayload" <|
    .name "fn" :: .name "from_payload" ::
    round (.name "bytes" :: op ":" ++ op "&" ++ [square [.name "u8"]]) ::
    resultRow runtime [.name "Self"] ++
    [curly (pathRow runtime ["encdec", e.name, "decode"] ++ [round [.name "bytes"]])]

def expandType (source : String) (m : Manifest) : Except ExpandError (Tokens × Tokens) := do
  let t ← (TypeDeclaration.ofString? source).elim (.error .noDeclaration) .ok
  let e ← encodingOf t.marks
  let runtime ← runtimeOf m
  return (intoPayload runtime e t, fromPayload runtime e t)

end Callwire.Stub
