import Callwire.Server.Dispatch
import Callwire.Server.Values
import Callwire.Trace

/-!
# Recording sockets and loggers

Sockets and loggers that keep what they are given, and a socket that takes
nothing.
-/

set_option autoImplicit false

namespace Callwire

structure RecordingSocket (T : Type) [Universe T] where
  written : List Bytes
  values : Values T

instance {T : Type} [Universe T] : Socket (RecordingSocket T) where
  write s frame := .ok { s with written := s.written ++ [frame] }

instance {T : Type} [Universe T] : Carrier (RecordingSocket T) T where
  values s := s.values
  setValues s v := { s with values := v }

structure BrokenSocket where
  fault : TransportFault

instance : Socket BrokenSocket where
  write s _ := .error s.fault

structure RecordingLogger where
  lines : List String

instance : Logger RecordingLogger where
  log l line := { l with lines := l.lines ++ [line] }

structure TracingLogger where
  traces : List Trace

instance : Logger TracingLogger where
  log l line := { l with traces := l.traces ++ [⟨.info, line⟩] }

end Callwire
