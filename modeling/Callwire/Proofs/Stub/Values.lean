import Callwire.Proofs.Stub.Methods

/-!
# Values in stubs

A type without named fields is a value as well, and a value in scope stands in the
way of code that binds its name or means something else by it. So the values that
the stubs of a service of calls read and bind: results, the function and the wrapper
that they declare, and their variables.
-/

set_option autoImplicit false

namespace Callwire.Stub

/-! ## Values that code reads and binds -/

def valueName : Root → List String → List String
  | .scope, [name] => [name]
  | _, _ => []

mutual

def Expr.values : Expr → List String
  | .path root names => valueName root names
  | .qualified .. => []
  | .literal _ => []
  | .call f args _ => f.values ++ exprValues args
  | .method receiver _ args _ => receiver.values ++ exprValues args
  | .field e _ => e.values
  | .wrapped e _ args => e.values ++ exprValues args
  | .attempt e => e.values
  | .await e => e.values
  | .ref _ e => e.values
  | .deref e => e.values
  | .paren e => e.values
  | .unit => []
  | .array elems => exprValues elems
  | .record _ fields _ => fieldValues fields
  | .ignoring _ e => e.values
  | .cases e arms => e.values ++ armValues arms

def exprValues : List Expr → List String
  | [] => []
  | e :: rest => e.values ++ exprValues rest

def fieldValues : List (String × Option Expr) → List String
  | [] => []
  | (_, some e) :: rest => e.values ++ fieldValues rest
  | (name, none) :: rest => name :: fieldValues rest

def armValues : List Arm → List String
  | [] => []
  | .value pattern e :: rest => valueName .scope pattern ++ e.values ++ armValues rest
  | .block pattern body :: rest => valueName .scope pattern ++ stmtValues body ++ armValues rest

/-- A static is an item of its own, which hides what has its name around it. -/
def stmtValues : List Stmt → List String
  | [] => []
  | .bind name e :: rest => name :: (e.values ++ stmtValues rest)
  | .run e :: rest => e.values ++ stmtValues rest
  | .result e :: rest => e.values ++ stmtValues rest
  | .shared name _ e :: rest => e.values ++ (stmtValues rest).filter (· ≠ name)

end

attribute [simp] Expr.values exprValues fieldValues armValues stmtValues

def Param.values : Param → List String
  | .self _ _ => []
  | .typed name _ => [name]

def Signature.values (f : Signature) : List String := f.params.flatMap Param.values

def Member.values : Member → List String
  | .constant _ _ e => e.values
  | .alias _ _ => []
  | .function _ _ f body => f.values ++ stmtValues body

def Item.values : Item → List String
  | .import .. | .enumeration .. | .record .. => []
  | .trait _ _ methods => methods.flatMap (·.2.values)
  | .implementation _ _ _ _ members => members.flatMap Member.values
  | .wrapper _ name _ => [name]
  | .function _ f body => f.name :: (f.values ++ stmtValues body)

/-! ## Values in the stubs of a service -/

variable {m : MethodParts} {n : String}

variable {s : Service} {ps : List MethodParts}

end Callwire.Stub
