import Callwire.Text.Words
import Callwire.Text.Blank
import Callwire.Text.Quoted
import Callwire.Source.TypeFault

/-!
# Services

A service has methods, each with the type of its request and of its response,
and tags that say which side calls them. Services are checked before stubs are
made from them.
-/

set_option autoImplicit false

namespace Callwire

inductive PayloadType
  | void
  | error
  | named (name : String)
  deriving DecidableEq, Repr

namespace PayloadType

def ofName (name : String) : PayloadType :=
  if name = "Void" then .void else if name = "Error" then .error else .named name

def name : PayloadType → String
  | void => "Void"
  | error => "Error"
  | named name => name

def isVoid (t : PayloadType) : Bool := t == .void

end PayloadType

structure Method where
  name : String
  request : PayloadType
  response : PayloadType
  docs : List String
  deriving DecidableEq, Repr

inductive Role
  | call
  | push
  deriving DecidableEq, Repr

def Role.tag : Role → String
  | .call => "is_call"
  | .push => "is_push"

structure Service where
  name : String
  methods : List Method
  tags : List String
  docs : List String
  deriving DecidableEq, Repr

inductive StubError
  | emptyName (service : String)
  | invalidName (service method : String)
  | duplicateMethod (service method : String)
  | invalidIdentifier (name : String)
  | invalidType (name : String)
  | unknownFile (name : String)
  | unreadable
  | unjoinable (name : String)
  | unreadableRuntime (fault : Source.TypeFault)
  | unprintable (part : String)
  deriving DecidableEq, Repr

open Text in
def StubError.message : StubError → String
  | .emptyName service => "service " ++ quoted service ++ " has a method without a name"
  | .invalidName service method =>
    "method " ++ quoted method ++ " of " ++ quoted service ++ " contains a reserved byte"
  | .duplicateMethod service method =>
    "method " ++ quoted method ++ " of " ++ quoted service ++ " is declared twice"
  | .invalidIdentifier name => quoted name ++ " is not a valid identifier"
  | .invalidType name => quoted name ++ " is not a valid type"
  | .unknownFile name => "unknown schema file " ++ quoted name
  | .unreadable => "generated invalid code"
  | .unjoinable name => quoted name ++ " is not a valid Ident"
  | .unreadableRuntime fault => fault.message
  | .unprintable part => "not implemented: " ++ part

namespace Service

def unwrapped (tag : List Char) : List Char :=
  match tag with
  | '(' :: inner => if inner.getLast? = some ')' then inner.dropLast else tag
  | _ => tag

/-- A tag without blanks and brackets around it; two tags have an older name. -/
def normalTag (tag : String) : String :=
  let t := String.ofList (Text.trim (unwrapped (Text.trim tag.toList)))
  if t = "is_rpc" then Role.call.tag else if t = "is_ssp" then Role.push.tag else t

def hasTag (s : Service) (tag : String) : Bool :=
  s.tags.any fun t => normalTag t == normalTag tag

def hasRole (s : Service) (r : Role) : Bool := s.hasTag r.tag

def checkMethods (s : Service) (names : List String) : List Method → Except StubError Unit
  | [] => .ok ()
  | m :: rest =>
    if m.name = "" then .error (.emptyName s.name)
    else if m.name.toList.contains '\x00' then .error (.invalidName s.name m.name)
    else if names.contains m.name
        || (names.map Text.snakeCase).contains (Text.snakeCase m.name) then
      .error (.duplicateMethod s.name m.name)
    else s.checkMethods (m.name :: names) rest

def validate (s : Service) : Except StubError Unit := s.checkMethods [] s.methods

end Service

structure Classified where
  call : List Service
  push : List Service

def classify (services : List Service) : Classified :=
  ⟨services.filter (·.hasRole .call), services.filter (·.hasRole .push)⟩

end Callwire
