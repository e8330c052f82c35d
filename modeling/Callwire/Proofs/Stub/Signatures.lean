import Callwire.Stub.Sources
import Callwire.Proofs.Stub.Methods

/-!
# Types in signatures

The payload types that stand in the signatures of stubs. Functions of calls take the request
and give back the response, those of events only take the request; the runtime's own types
around them do not depend on the service.
-/

set_option autoImplicit false

namespace Callwire.Stub
open Source (Tokens)

/-! ## Types handed on -/

mutual

def Ty.givens : Ty → List Source.Ty
  | .given t => [t]
  | .path _ segments => segmentGivens segments
  | .ref _ _ t => t.givens
  | .slice t => t.givens
  | .unit => []

def segmentGivens : List Segment → List Source.Ty
  | [] => []
  | .mk _ args _ :: rest => typeGivens args ++ segmentGivens rest

def typeGivens : List Ty → List Source.Ty
  | [] => []
  | t :: rest => t.givens ++ typeGivens rest

end

def Bound.givens : Bound → List Source.Ty
  | .callback inputs => typeGivens inputs
  | .life _ | .trait _ _ _ => []

def Param.givens : Param → List Source.Ty
  | .typed _ t => t.givens
  | .self _ _ => []

def Signature.givens (f : Signature) : List Source.Ty :=
  f.generics.flatMap (·.bounds.flatMap Bound.givens) ++ f.params.flatMap Param.givens ++
    f.output.elim [] Ty.givens ++
    f.demands.flatMap fun d => d.t.givens ++ d.bounds.flatMap Bound.givens

def Member.givens : Member → List Source.Ty
  | .function _ _ f _ => f.givens
  | .constant _ _ _ | .alias _ _ => []

def Item.givens : Item → List Source.Ty
  | .trait _ _ methods => methods.flatMap (·.2.givens)
  | .implementation _ _ _ _ members => members.flatMap Member.givens
  | .function _ f _ => f.givens
  | .import .. | .enumeration .. | .record .. | .wrapper .. => []

def givens (items : List Item) : List Source.Ty := items.flatMap Item.givens

/-! ## Signatures of a method -/

namespace MethodParts

def requestGivens (m : MethodParts) : List Source.Ty := m.request.elim [] Ty.givens

def responseGivens (m : MethodParts) : List Source.Ty := m.response.elim [] Ty.givens

variable (m : MethodParts)

theorem givens_params : m.params.flatMap Param.givens = m.requestGivens := by
  unfold params requestGivens
  cases m.request <;> simp [Param.givens]

theorem givens_output : m.output.givens = m.responseGivens := by
  unfold output responseGivens
  cases m.response <;> simp [Ty.givens]

end MethodParts

theorem givens_resultOf (t : Ty) (failure : String) : (resultOf t failure).givens = t.givens := by
  simp [resultOf, Ty.givens, segmentGivens, typeGivens, Segment.plain, Segment.of, Ty.runtime]

variable (m : MethodParts)

theorem givens_handlerFn : (handlerFn m).givens = m.requestGivens ++ m.responseGivens := by
  simp [handlerFn, plainFn, Signature.givens, Param.givens, selfMut, m.givens_params,
    m.givens_output, givens_resultOf]

theorem givens_eventFn : (eventFn m).givens = m.requestGivens := by
  simp [eventFn, plainFn, Signature.givens, Param.givens, selfRef, m.givens_params]

theorem givens_forwardFn : (forwardFn m).givens = m.requestGivens ++ m.responseGivens :=
  givens_handlerFn m

theorem givens_proxyFn : (proxyFn m).givens = m.requestGivens ++ m.responseGivens := by
  simp [proxyFn, Member.givens, Signature.givens, Param.givens, selfRef, m.givens_params,
    m.givens_output, givens_resultOf]

theorem givens_pushFn (s : Service) : (pushFn s m).givens = m.requestGivens :=
  givens_eventFn m

theorem givens_subscribeFn : (subscribeFn m).givens = m.requestGivens := by
  unfold MethodParts.requestGivens
  cases hrequest : m.request <;>
    simp [subscribeFn, hrequest, Member.givens, Signature.givens, Param.givens, selfRef,
      Bound.givens, bound, typeGivens, Ty.named, Ty.givens, segmentGivens, Segment.plain,
      Ty.shared]

/-! ## Signatures of a service -/

def payloadGivens (runtime : Tokens) (p : PayloadType) : List Source.Ty :=
  (payloadType runtime p).toOption.join.elim [] Ty.givens

def callGivens (runtime : Tokens) (s : Service) : List Source.Ty :=
  s.methods.flatMap fun m => payloadGivens runtime m.request ++ payloadGivens runtime m.response

def pushGivens (runtime : Tokens) (s : Service) : List Source.Ty :=
  s.methods.flatMap fun m => payloadGivens runtime m.request

variable {runtime : Tokens} {s : Service} {ps : List MethodParts} {items : List Item}

theorem callGivens_of_partsOf (h : partsOf runtime s = .ok ps) :
    (ps.flatMap fun p => p.requestGivens ++ p.responseGivens) = callGivens runtime s := by
  have hmap := map_eq_of_mapM (g := fun p => p.requestGivens ++ p.responseGivens)
    (k := fun m => payloadGivens runtime m.request ++ payloadGivens runtime m.response) h
    fun m p hp => by
      rw [payloadGivens, payloadGivens, (describes_of_parts hp).request,
        (describes_of_parts hp).response]
      rfl
  rw [List.flatMap_def, hmap, callGivens, List.flatMap_def]

theorem pushGivens_of_partsOf (h : partsOf runtime s = .ok ps) :
    ps.flatMap MethodParts.requestGivens = pushGivens runtime s := by
  have hmap := map_eq_of_mapM (g := MethodParts.requestGivens)
    (k := fun m => payloadGivens runtime m.request) h fun m p hp => by
      rw [payloadGivens, (describes_of_parts hp).request]
      rfl
  rw [List.flatMap_def, hmap, pushGivens, List.flatMap_def]

theorem givens_callServer (h : callServer runtime s = .ok items) :
    givens items = callGivens runtime s ++ callGivens runtime s := by
  obtain ⟨ps, hps, rfl⟩ := eq_of_callServer h
  have htrait : (handlerTrait s (stem s) ps).givens = callGivens runtime s := by
    rw [← callGivens_of_partsOf hps]
    simp [handlerTrait, Item.givens, List.flatMap_map, givens_handlerFn]
  have hforwarding : (forwarding (stem s) ps).givens = callGivens runtime s := by
    rw [← callGivens_of_partsOf hps]
    simp [forwarding, Item.givens, List.flatMap_map, givens_forwardFn]
  -- the functions of the other items are the same for every service
  calc givens (serverItems s ps)
    _ = (handlerTrait s (stem s) ps).givens ++ ((forwarding (stem s) ps).givens ++ []) := rfl
    _ = callGivens runtime s ++ callGivens runtime s := by
      rw [htrait, hforwarding, List.append_nil]

theorem givens_callClient (h : callClient runtime s = .ok items) :
    givens items = callGivens runtime s := by
  obtain ⟨ps, hps, rfl⟩ := eq_of_callClient h
  have hnew : (Member.function [] true
      (plainFn "new" [.typed "caller" caller] false (some (.named "Self")))
      [.result (.record "Self" [("caller", none)] false)]).givens = [] := rfl
  rw [← callGivens_of_partsOf hps]
  simp [givens, clientItems, hnew, Item.givens, List.flatMap_map, givens_proxyFn]

theorem givens_pushEmitter (h : pushEmitter runtime s = .ok items) :
    givens items = pushGivens runtime s ++ pushGivens runtime s := by
  obtain ⟨ps, hps, rfl⟩ := eq_of_pushEmitter h
  have hnew : (Member.function [] true
      (plainFn "new" [.typed "socket" (.named "S"), .typed "log" (.named "L")] false
        (some (.named "Self")))
      [.result (.record "Self" [("socket", none), ("log", none)] false)]).givens = [] := rfl
  rw [← pushGivens_of_partsOf hps]
  simp [givens, emitterItems, hnew, Item.givens, List.flatMap_map, givens_eventFn, givens_pushFn]

theorem givens_pushSubscriber (h : pushSubscriber runtime s = .ok items) :
    givens items = pushGivens runtime s := by
  obtain ⟨ps, hps, rfl⟩ := eq_of_pushSubscriber h
  have hnew (body : List Stmt) : (registeringNew body).givens = [] := rfl
  rw [← pushGivens_of_partsOf hps]
  simp [givens, subscriberItems, hnew, Item.givens, List.flatMap_map, givens_subscribeFn]

theorem givens_bundle {call push : List Service} (h : bundle call push = .ok items) :
    givens items = [] := by
  obtain ⟨calls, -, h⟩ := bind_eq_ok_iff.mp h
  obtain ⟨pushes, -, h⟩ := bind_eq_ok_iff.mp h
  obtain rfl := Except.ok.inj h
  rfl

end Callwire.Stub
