/-!
# Traces

What connections report while they work, apart from their results.
-/

set_option autoImplicit false

namespace Callwire

inductive Level
  | error
  | warn
  | info
  | debug
  deriving DecidableEq, Repr

def Level.name : Level → String
  | error => "ERROR"
  | warn => "WARN"
  | info => "INFO"
  | debug => "DEBUG"

structure Trace where
  level : Level
  text : String
  deriving DecidableEq, Repr

namespace Trace

def before (x y : Trace) : Bool :=
  if x.level.name = y.level.name then x.text ≤ y.text else x.level.name ≤ y.level.name

def sorted (l : List Trace) : List Trace := l.mergeSort before

end Trace

end Callwire
