import Callwire.Server.Dispatch
import Callwire.Server.Values

/-!
# Pointers to sockets

A socket can be used through a pointer, borrowed or shared. Both kinds hand
everything on to what they point to, be it a socket or a pointer again.
-/

set_option autoImplicit false

namespace Callwire

structure Pointer (S : Type) where
  target : S

instance {S : Type} [Socket S] : Socket (Pointer S) where
  write p frame := (Socket.write p.target frame).map .mk

instance {S T : Type} [Universe T] [Carrier S T] : Carrier (Pointer S) T where
  values p := Carrier.values p.target
  setValues p v := ⟨Carrier.setValues p.target v⟩

end Callwire
