import Callwire.Proofs.Stub.Bodies
import Callwire.Proofs.Stub.Clear
import Callwire.Proofs.Server.MethodTables

/-!
# The server's stubs in use

What the server's stubs of a service are read as: the variants of its enumeration
in the order of its methods, their names, the table of them, and for each variant
the arm that serves it.
-/

set_option autoImplicit false

namespace Callwire.Stub
open Source (Tokens)

variable {runtime : Tokens} {s : Service} {ps : List MethodParts}

/-! ## Parts -/

variable (h : Resolved runtime (serverItems s ps))

variable {σ V E : Type} {w : World σ V E}

end Callwire.Stub
