import Callwire.Transport.Fault

/-!
# Ends of tasks

Every connection is driven by a task. It ends by itself, with a transport fault
or in a panic.
-/

set_option autoImplicit false

namespace Callwire

inductive TaskEnd
  | finished
  | failed (f : TransportFault)
  | panicked
  deriving DecidableEq, Repr

end Callwire
