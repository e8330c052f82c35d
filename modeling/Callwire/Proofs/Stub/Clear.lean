import Callwire.Proofs.Stub.Signatures
import Callwire.Proofs.Stub.Uses

/-!
# Services whose stubs can be used

What the names of a service, of its methods and of its payload types must not be,
so that all names in its stubs lead to what the stubs mean by them.
-/

set_option autoImplicit false

namespace Callwire.Stub
open Source (Tokens)

variable {runtime : Tokens} {s : Service} {ps : List MethodParts}

/-! ## Payload types -/

def around (s : Service) (params : List String) : Place :=
  ⟨params, [stem s ++ "Method", stem s ++ "Server", stem s ++ "Client"], [stem s], ["Sized"]⟩

variable {server client : List Item}

end Callwire.Stub
