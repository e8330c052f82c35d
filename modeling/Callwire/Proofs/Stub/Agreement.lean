import Callwire.Proofs.Frame.Requests
import Callwire.Proofs.Frame.Sides
import Callwire.Proofs.Stub.Outlines
import Callwire.Proofs.Stub.Served

/-!
# Both sides of a service

The stubs of the two sides are made by themselves, each from the description of
the service. Where nothing in it clashes with them they agree method by method: a
proxy asks by the name that the server's table finds the method's variant by, and
the arm of the variant reads what the proxy writes and writes what the proxy
reads. All names can be framed.
-/

set_option autoImplicit false

namespace Callwire.Stub
open Source (Tokens)
open Text (snakeCase)

variable {runtime : Tokens} {s : Service} {ps : List MethodParts}

/-! ## The client's stubs in use -/

def proxyOf (p : MethodParts) : Function :=
  (proxySignature p, .bind "payload" (requestBytes p) :: answered p)

/-- The constructor is not asynchronous. -/
theorem proxies_clientItems (s : Service) (ps : List MethodParts) :
    proxies (clientItems s ps) = ps.map proxyOf := by
  simp only [proxies, clientItems, plainFn, List.flatMap_cons, List.flatMap_nil,
    List.filterMap_cons, List.nil_append, List.append_nil, List.filterMap_map, Bool.false_eq_true,
    if_false]
  exact congrFun (List.filterMap_eq_map' (f := proxyOf)) ps

/-! ## Payloads and names -/

def Signature.inputs (f : Signature) : List Ty :=
  f.params.filterMap fun
    | .self _ _ => none
    | .typed _ t => some t

structure Framed (name : String) : Prop where
  request : ∀ id payload, ∃ b, Request.encode ⟨name, id, payload⟩ = .ok b ∧
    Frame.decode .server b = .ok (.request ⟨name, id, payload⟩)
  push : ∀ payload, ∃ b, Push.encode ⟨name, payload⟩ = .ok b ∧
    Frame.decode .client b = .ok (.push ⟨name, payload⟩)

def tally : Service :=
  ⟨"Tally", [⟨"add", .named "Step", .void, []⟩, ⟨"last-one", .void, .error, []⟩], [], []⟩

end Callwire.Stub
