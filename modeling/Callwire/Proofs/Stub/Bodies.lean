import Callwire.Proofs.Stub.Phrases
import Callwire.Proofs.Stub.Parts
import Callwire.Stub.Server
import Callwire.Stub.Client

/-!
# Functions of stubs

What one arm of an adapter and one proxy of a client do, put together from their
phrases: one case for each payload a method has or has not.
-/

set_option autoImplicit false

namespace Callwire.Stub

variable {σ V E : Type} {w : World σ V E} {sc : Scope V E} {p : MethodParts}

theorem run_bind (name : String) (e : Expr) (rest : List Stmt) :
    run w sc (.bind name e :: rest) = eval w sc e >>= fun v => run w (sc.bind name v) rest := by
  rw [run]

theorem run_run (e : Expr) (rest : List Stmt) :
    run w sc (.run e :: rest) = eval w sc e >>= fun _ => run w sc rest := by
  rw [run]

theorem run_result (e : Expr) : run w sc [.result e] = eval w sc e := by
  rw [run]
  rfl

theorem lookup_bind (sc : Scope V E) (name : String) (v : Value V E) :
    (sc.bind name v).locals.lookup name = some v := by
  simp [Scope.bind]

theorem lookup_bind_of_ne (sc : Scope V E) {name other : String} (h : other ≠ name)
    (v : Value V E) : (sc.bind name v).locals.lookup other = sc.locals.lookup other := by
  rw [Scope.bind, List.lookup_cons, beq_eq_false_iff_ne.mpr h]

theorem attempt_ok (v : Value V E) : w.attempt (.ok v) = pure v := rfl

/-! ## Serving -/

structure Handles (sc : Scope V E) (p : MethodParts) (i : Nat) (payload : Bytes) : Prop where
  request : ∀ t, p.request = some t → ∀ u ∈ t.uses, u.isHidden sc.params = false
  name : p.fnName ∉ conversions
  self : sc.locals.lookup "self" = some .stub
  payload : sc.locals.lookup "payload" = some (.bytes payload)
  place : sc.inner.findIdx? (·.name == p.fnName) = some i
  signature : sc.inner[i]? = some (handlerFn p)

theorem Handles.bind {i : Nat} {payload : Bytes} (h : Handles sc p i payload) (v : Value V E) :
    Handles (sc.bind "param" v) p i payload := by
  refine ⟨h.request, h.name, ?_, ?_, h.place, h.signature⟩
  · rw [lookup_bind_of_ne sc (by decide)]
    exact h.self
  · rw [lookup_bind_of_ne sc (by decide)]
    exact h.payload

def proxySignature (p : MethodParts) : Signature :=
  ⟨true, p.fnName, [], selfRef :: p.params, false, some (resultOf p.output "RequestError"), []⟩

def requestBytes (p : MethodParts) : Expr :=
  match p.request with
  | some _ => encoded (.named "param")
  | none => .call (.absolute ["std", "vec", "Vec", "new"]) [] false

def answered (p : MethodParts) : List Stmt :=
  match p.response with
  | some t => [.bind "response" (rpc p), .result (ok (decoded t (.ref false (.named "response"))))]
  | none => [.run (rpc p), .result (ok .unit)]

def Value.ofResult : Option (Ty × V) → Value V E
  | some (t, v) => .payload t v
  | none => .unit

theorem run_answered {b : Bytes} (hparams : sc.params = [])
    (hself : sc.locals.lookup "self" = some .stub)
    (hpayload : sc.locals.lookup "payload" = some (.bytes b)) :
    run w sc (answered p) >>= w.attempt =
      w.request p.wireName b >>= fun answer =>
        w.readIf p.response answer >>= fun r => pure (.ofResult r) := by
  have hrpc := eval_rpc (w := w) (m := p) hself hpayload
  cases hp : p.response with
  | none =>
    have hunit : eval w sc .unit = pure .unit := by rw [eval]
    simp only [answered, hp, run_run, run_result, hrpc, eval_ok, hunit, bind_assoc, pure_bind,
      attempt_ok, World.readIf, Value.ofResult]
  | some t =>
    have hnamed (v : Value V E) :
        eval w (sc.bind "response" v) (.ref false (.named "response")) = pure v := by
      rw [eval, eval_named (lookup_bind sc "response" v)]
    have ht (v : Value V E) : ∀ u ∈ t.uses, u.isHidden (sc.bind "response" v).params = false :=
      fun u _ => (congrArg u.isHidden hparams).trans u.isHidden_nil
    simp only [answered, hp, run_bind, run_result, hrpc, eval_ok, eval_decoded (ht _), hnamed,
      bind_assoc, pure_bind, attempt_ok, World.readIf, Value.ofResult]
    simp only [← bind_assoc, fromPayload_attempt]
    simp only [bind_assoc, pure_bind]

theorem eval_requestBytes {arg : Option V} (harg : arg.isSome = p.request.isSome)
    (hparam : ∀ t v, p.request = some t → arg = some v →
      sc.locals.lookup "param" = some (.payload t v)) :
    eval w sc (requestBytes p) =
      w.writeIf (p.request.bind fun t => arg.map (t, ·)) >>= fun b => pure (.bytes b) := by
  cases hp : p.request with
  | none => simp only [requestBytes, hp, eval_noBytes, Option.bind_none, World.writeIf, pure_bind]
  | some t =>
    obtain ⟨v, hv⟩ := Option.isSome_iff_exists.mp (harg.trans (by rw [hp]; rfl))
    simp only [requestBytes, hp, eval_encoded, eval_named (hparam t v hp hv), hv, pure_bind,
      intoPayload_attempt, Option.bind_some, Option.map_some, World.writeIf]

theorem proxy_entered {arg : Option V} (harg : arg.isSome = p.request.isSome) :
    ∃ args locals, (proxySignature p).passed? arg = some args ∧
      (proxySignature p).enter? args = some locals ∧
      locals.lookup "self" = some (.stub : Value V E) ∧
      ∀ t v, p.request = some t → arg = some v →
        locals.lookup "param" = some (.payload t v) := by
  cases hp : p.request with
  | none =>
    have hnone : arg = none := by simpa [hp] using harg
    refine ⟨[.stub], [("self", .stub)], ?_, ?_, rfl, by simp⟩
    · simp [Signature.passed?, proxySignature, selfRef, MethodParts.params, hp, hnone]
    · simp [Signature.enter?, proxySignature, selfRef, MethodParts.params, hp, Param.name]
  | some t =>
    obtain ⟨v, rfl⟩ := Option.isSome_iff_exists.mp (harg.trans (by rw [hp]; rfl))
    refine ⟨[.stub, .payload t v], [("self", .stub), ("param", .payload t v)], ?_, ?_, rfl, ?_⟩
    · simp [Signature.passed?, proxySignature, selfRef, MethodParts.params, hp]
    · simp [Signature.enter?, proxySignature, selfRef, MethodParts.params, hp, Param.name]
    · rintro t' v' ht hv
      cases ht
      cases hv
      rfl

/-- A proxy called with a payload exactly if its method has a request. -/
theorem proxy_eq {arg : Option V} (harg : arg.isSome = p.request.isSome) :
    w.proxy (proxySignature p, .bind "payload" (requestBytes p) :: answered p) arg =
      w.asking p.request p.response p.wireName arg := by
  obtain ⟨args, locals, hpassed, hentered, hself, hparam⟩ := proxy_entered (E := E) harg
  have hbytes : eval w ⟨[], "", [], [], locals⟩ (requestBytes p) = _ :=
    eval_requestBytes harg hparam
  have hself' (b : Bytes) :
      (Scope.bind ⟨[], "", [], [], locals⟩ "payload" (.bytes b)).locals.lookup
        "self" = some .stub := by
    rw [lookup_bind_of_ne _ (by decide)]
    exact hself
  simp only [World.proxy, World.asking, hpassed, hentered, found, Option.elim_some, pure_bind,
    run_bind, hbytes, bind_assoc]
  refine bind_congr fun b => ?_
  rw [← bind_assoc, run_answered rfl (hself' b) (lookup_bind _ "payload" _), bind_assoc]
  refine bind_congr fun answer => ?_
  rw [bind_assoc]
  simp only [pure_bind]
  conv_rhs => rw [← bind_pure (w.readIf p.response answer)]
  refine bind_congr fun r => ?_
  cases r <;> rfl

end Callwire.Stub
