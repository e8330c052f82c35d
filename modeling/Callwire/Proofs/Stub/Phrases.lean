import Callwire.Proofs.Stub.Meaning
import Callwire.Stub.Method
import Callwire.Stub.Client
import Mathlib.Tactic

/-!
# Phrases of stubs

What the phrases do that the functions of stubs are put together from: decoding,
encoding, calling the handler and making a request.
-/

set_option autoImplicit false

namespace Callwire.Stub

variable {σ V E : Type} {w : World σ V E} {sc : Scope V E}

/-! ## Results -/

theorem captured_attempt (r : Run σ E (Value V E)) : captured r >>= w.attempt = r := by
  funext s
  simp only [captured, tryCatch, tryCatchThe, MonadExceptOf.tryCatch, ExceptT.tryCatch, ExceptT.mk,
    bind, ExceptT.bind, StateT.bind, pure, ExceptT.pure, ExceptT.bindCont]
  cases h : r s with
  | none => rfl
  | some p =>
    obtain ⟨result, s'⟩ := p
    cases result <;> rfl

theorem fromPayload_attempt (t : Ty) (b : Bytes) :
    w.fromPayload t (.bytes b) >>= w.attempt = w.read t b >>= fun v => pure (.payload t v) := by
  rw [World.fromPayload, World.read]
  cases w.decode t b <;> rfl

theorem intoPayload_attempt (t : Ty) (v : V) :
    w.intoPayload (.payload t v) >>= w.attempt = w.write t v >>= fun b => pure (.bytes b) := by
  rw [World.intoPayload, World.write]
  cases w.encode t v <;> rfl

theorem eval_named {name : String} {v : Value V E} (h : sc.locals.lookup name = some v) :
    eval w sc (.named name) = pure v := by
  rw [Expr.named, eval, Scope.find?, h]
  rfl

theorem eval_decoded {t : Ty} (ht : ∀ u ∈ t.uses, u.isHidden sc.params = false) (e : Expr) :
    eval w sc (decoded t e) = eval w sc e >>= fun v => w.fromPayload t v >>= w.attempt := by
  have happly (v : Value V E) : w.apply sc.params
      (.qualified t .runtime ["payload", "FromPayload"] "from_payload") [v] =
        w.fromPayload t v := if_neg (by simpa using ht)
  simp [decoded, happly]

theorem eval_encoded (e : Expr) :
    eval w sc (encoded e) = eval w sc e >>= fun v => w.intoPayload v >>= w.attempt := by
  have happly (v : Value V E) :
      w.apply sc.params (.runtime ["payload", "IntoPayload", "into_payload"]) [v] =
        w.intoPayload v := rfl
  simp [encoded, happly]

theorem eval_ok (e : Expr) : eval w sc (ok e) = eval w sc e >>= fun v => pure (.ok v) := by
  have happly (v : Value V E) : w.apply sc.params (.named "Ok") [v] = pure (.ok v) := rfl
  simp [ok, happly]

theorem eval_noBytes :
    eval w sc (.call (.absolute ["std", "vec", "Vec", "new"]) [] false) = pure (.bytes []) := by
  have happly : w.apply sc.params (.absolute ["std", "vec", "Vec", "new"]) [] =
    pure (.bytes []) := rfl
  simp [happly]

theorem eval_rpc {m : MethodParts} {b : Bytes}
    (hself : sc.locals.lookup "self" = some .stub)
    (hpayload : sc.locals.lookup "payload" = some (.bytes b)) :
    eval w sc (rpc m) = w.request m.wireName b >>= fun r => pure (.bytes r) := by
  have hinvoke : invoke .connection "rpc" [.text m.wireName, .bytes b] =
      (pure (.calling m.wireName b) : Run σ E (Value V E)) := rfl
  have hfield : fieldOf .stub "caller" = (pure .connection : Run σ E (Value V E)) := rfl
  simp only [rpc, eval, eval_named hself, evalAll, eval_named hpayload, pure_bind, hfield, hinvoke,
    World.await, captured_attempt]

/-! ## Choice -/

def Arm.pattern : Arm → List String
  | .value pattern _ => pattern
  | .block pattern _ => pattern

end Callwire.Stub
