import Callwire.Stub.Server
import Callwire.Stub.Client

/-!
# Stubs of a service

Everything a service needs on both sides, for each role it has.
-/

set_option autoImplicit false

namespace Callwire.Stub
open Source (Tokens)

def forRole (s : Service) (r : Role) (make : Service → Except StubError (List Item)) :
    Except StubError (List Item) :=
  if s.hasRole r then make s else .ok []

def serviceItems (runtime : Tokens) (s : Service) : Except StubError (List Item) := do
  s.validate
  let server ← forRole s .call (callServer runtime)
  let client ← forRole s .call (callClient runtime)
  let emitter ← forRole s .push (pushEmitter runtime)
  let subscriber ← forRole s .push (pushSubscriber runtime)
  return server ++ client ++ emitter ++ subscriber

end Callwire.Stub
