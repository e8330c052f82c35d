import Callwire.Source.Type

/-!
# The code of stubs

The types, expressions, statements and items that stubs are made of. The path
of the runtime and the visibility are left open; types that a service names are
handed on as they are given.
-/

set_option autoImplicit false

namespace Callwire.Stub
open Source (Tokens)

inductive Root
  | scope
  | absolute
  | runtime
  deriving DecidableEq, Repr

mutual

inductive Ty
  | given (t : Source.Ty)
  | path (root : Root) (segments : List Segment)
  | ref (life : Option String) (isMut : Bool) (t : Ty)
  | slice (t : Ty)
  | unit

/-- A name with types. `isTight` the closing bracket is written together with
the one before it. -/
inductive Segment
  | mk (name : String) (args : List Ty) (isTight : Bool)

end

def Segment.plain (name : String) : Segment := .mk name [] false

def Segment.of (name : String) (args : List Ty) : Segment := .mk name args false

def Ty.named (name : String) : Ty := .path .scope [.plain name]

def Ty.runtime (names : List String) : Ty := .path .runtime (names.map .plain)

inductive Bound
  | life (name : String)
  | trait (isMaybe : Bool) (root : Root) (names : List String)
  | callback (inputs : List Ty)

mutual

inductive Expr
  | path (root : Root) (names : List String)
  | qualified (t : Ty) (root : Root) (traitNames : List String) (name : String)
  | literal (s : String)
  | call (f : Expr) (args : List Expr) (trailing : Bool)
  | method (receiver : Expr) (name : String) (args : List Expr) (trailing : Bool)
  | field (e : Expr) (name : String)
  | wrapped (e : Expr) (name : String) (args : List Expr)
  | attempt (e : Expr)
  | await (e : Expr)
  | ref (isMut : Bool) (e : Expr)
  | deref (e : Expr)
  | paren (e : Expr)
  | unit
  | array (elems : List Expr)
  | record (name : String) (fields : List (String × Option Expr)) (trailing : Bool)
  | ignoring (t : Ty) (e : Expr)
  | cases (e : Expr) (arms : List Arm)

inductive Arm
  | value (pattern : List String) (e : Expr)
  | block (pattern : List String) (body : List Stmt)

inductive Stmt
  | bind (name : String) (e : Expr)
  | run (e : Expr)
  | result (e : Expr)
  | shared (name : String) (t : Ty) (e : Expr)

end

def Expr.named (name : String) : Expr := .path .scope [name]

def Expr.runtime (names : List String) : Expr := .path .runtime names

def Expr.absolute (names : List String) : Expr := .path .absolute names

inductive Attribute
  | doc (line : String)
  | note (line : String)
  | derive (names : List String)
  | allow (lint : String)
  deriving DecidableEq

inductive Param
  | self (isRef : Bool) (isMut : Bool)
  | typed (name : String) (t : Ty)

structure TypeParam where
  name : String
  bounds : List Bound

structure Demand where
  t : Ty
  bounds : List Bound

structure Signature where
  isAsync : Bool
  name : String
  generics : List TypeParam
  params : List Param
  trailing : Bool
  output : Option Ty
  demands : List Demand

inductive Member
  | constant (name : String) (t : Ty) (e : Expr)
  | alias (name : String) (t : Ty)
  /-- `visible` members have the visibility chosen for the stubs. -/
  | function (attributes : List Attribute) (visible : Bool) (signature : Signature)
      (body : List Stmt)

structure Field where
  visible : Bool
  name : String
  t : Ty

structure Variant where
  attributes : List Attribute
  name : String

inductive Item
  | import (attributes : List Attribute) (root : Source.Path) (modules : List String)
      (names : List String)
  | trait (attributes : List Attribute) (name : String)
      (methods : List (List Attribute × Signature))
  | implementation (generics : List TypeParam) (trait : Option (Root × List String)) (self : Ty)
      (demands : List Demand) (members : List Member)
  | enumeration (attributes : List Attribute) (name : String) (variants : List Variant)
  | record (attributes : List Attribute) (name : String) (generics : List TypeParam)
      (fields : List Field)
  | wrapper (attributes : List Attribute) (name : String) (param : String)
  | function (attributes : List Attribute) (signature : Signature) (body : List Stmt)

def Item.name? : Item → Option String
  | .trait _ name _ => some name
  | .enumeration _ name _ => some name
  | .record _ name _ _ => some name
  | .wrapper _ name _ => some name
  | .function _ signature _ => some signature.name
  | .import .. => none
  | .implementation .. => none

end Callwire.Stub
