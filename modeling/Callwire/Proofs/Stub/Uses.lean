import Callwire.Proofs.Stub.Resolution

/-!
# Names in stubs

What the stubs of a service of calls use names for, item by item: those of its
trait, of its methods and of their payloads, and a few that are the same for
every service.
-/

set_option autoImplicit false

namespace Callwire.Stub
open Source (Tokens)

/-! ## Uses in the stubs of a method -/

def payloadUses (t : Option Ty) : List Use := t.elim [] Ty.uses

namespace MethodParts

variable (m : MethodParts)

@[simp]
theorem uses_params : m.params.flatMap Param.uses = payloadUses m.request := by
  unfold params payloadUses
  cases m.request <;> simp [Param.uses]

@[simp]
theorem uses_output : m.output.uses = payloadUses m.response := by
  unfold output payloadUses
  cases m.response <;> simp

@[simp]
theorem uses_args : exprUses m.args = [] := by
  unfold args
  cases m.request <;> simp [Expr.named, valueUses, firstUse]

end MethodParts

@[simp]
theorem uses_resultOf (t : Ty) (failure : String) : (resultOf t failure).uses = t.uses := by
  simp [resultOf, firstUse, Segment.plain, Segment.of, Ty.runtime]

@[simp]
theorem uses_decoded (t : Ty) (e : Expr) : (decoded t e).uses = t.uses ++ e.uses := by
  simp [decoded, traitUse]

@[simp]
theorem uses_encoded (e : Expr) : (encoded e).uses = e.uses := by
  simp [encoded, Expr.runtime, valueUses, firstUse]

@[simp]
theorem uses_ok (e : Expr) : (ok e).uses = e.uses := by
  simp [ok, Expr.named, valueUses, firstUse]

@[simp]
theorem uses_named (name : String) : (Expr.named name).uses = [] := by
  simp [Expr.named, valueUses, firstUse]

variable (m : MethodParts)

variable (s : Service) (ps : List MethodParts)

variable {s ps}

end Callwire.Stub
