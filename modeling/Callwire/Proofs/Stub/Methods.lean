import Callwire.Stub.Server
import Callwire.Stub.Client
import Callwire.Proofs.Attempts
import Callwire.Proofs.Source.Names

/-!
# What stubs are made of

The identifiers of a method are its name in two cases, letter for letter: the
words of a name leave nothing out when they are read as an identifier. So the
items of a service are functions of the name it is read as and of what stands
for its methods, which is one entry per method in their order.
-/

set_option autoImplicit false

namespace Callwire

open Text (snakeCase camelCase)

/-! ## Services that pass the check -/

namespace Service

def wireNames (s : Service) : List String := s.methods.map (·.name)

theorem checkMethods_eq_ok_iff (s : Service) (names : List String) (methods : List Method) :
    s.checkMethods names methods = .ok () ↔
      (∀ m ∈ methods, m.name ≠ "" ∧ '\x00' ∉ m.name.toList ∧ m.name ∉ names ∧
        snakeCase m.name ∉ names.map snakeCase) ∧
      (methods.map (·.name)).Nodup ∧ (methods.map fun m => snakeCase m.name).Nodup := by
  induction methods generalizing names with
  | nil => simp [checkMethods]
  | cons m methods ih =>
    by_cases hempty : m.name = ""
    · simp [checkMethods, hempty]
    by_cases hzero : '\x00' ∈ m.name.toList
    · simp [checkMethods, hempty, hzero]
    by_cases hname : m.name ∈ names
    · simp [checkMethods, hempty, hzero, hname]
    by_cases hsnake : snakeCase m.name ∈ names.map snakeCase
    · rw [checkMethods, if_neg hempty, if_neg (by simpa using hzero),
        if_pos (by simpa [hname] using hsnake)]
      refine ⟨fun h => ?_, fun h => absurd hsnake (h.1 m (by simp)).2.2.2⟩
      cases h
    rw [checkMethods, if_neg hempty, if_neg (by simpa using hzero),
      if_neg (by simpa [hname] using hsnake), ih]
    simp only [List.map_cons, List.nodup_cons, List.mem_cons, List.mem_map]
    grind

/-- A service passes the check if its names can be framed, and no two are the
same or have the same words in small letters. -/
theorem validate_eq_ok_iff (s : Service) :
    s.validate = .ok () ↔
      (∀ m ∈ s.methods, m.name ≠ "" ∧ '\x00' ∉ m.name.toList) ∧ s.wireNames.Nodup ∧
        (s.wireNames.map snakeCase).Nodup := by
  rw [validate, checkMethods_eq_ok_iff, wireNames, List.map_map]
  simp [Function.comp_def]

end Service

namespace Stub
open Source (Tokens)

/-! ## Identifiers -/

theorem identifier_eq_ok_iff {name n : String} :
    identifier name = .ok n ↔ Source.nameOf? name = some n := by
  unfold identifier
  split <;> simp [*]

theorem eq_of_identifier {name n : String} (hsolid : ∀ c ∈ name.toList, Text.IsSolid c)
    (h : identifier name = .ok n) : n = name :=
  Source.nameOf?_solid hsolid (identifier_eq_ok_iff.mp h)

theorem eq_of_snakeIdentifier {name n : String} (h : snakeIdentifier name = .ok n) :
    n = snakeCase name := by
  exact eq_of_identifier (fun _ => Text.snakeCase_solid name) h

theorem eq_of_camelIdentifier {name n : String} (h : identifier (camelCase name) = .ok n) :
    n = camelCase name := by
  exact eq_of_identifier (fun _ => Text.camelCase_solid name) h

def stem (s : Service) : String := (Source.nameOf? s.name).elim "" unmarked

theorem eq_of_serviceIdentifier {s : Service} {suffix n : String}
    (h : serviceIdentifier s suffix = .ok n) : n = stem s ++ suffix := by
  obtain ⟨base, hbase, h⟩ := bind_eq_ok_iff.mp h
  obtain rfl := Except.ok.inj h
  rw [stem, identifier_eq_ok_iff.mp hbase, Option.elim_some]

/-! ## Methods -/

structure Describes (runtime : Tokens) (m : Method) (p : MethodParts) : Prop where
  wireName : p.wireName = m.name
  fnName : p.fnName = snakeCase m.name
  variant : p.variant = camelCase m.name
  request : payloadType runtime m.request = .ok p.request
  response : payloadType runtime m.response = .ok p.response
  docs : p.docs = docsOf m.docs

theorem describes_of_parts {runtime : Tokens} {m : Method} {p : MethodParts}
    (h : MethodParts.of runtime m = .ok p) : Describes runtime m p := by
  obtain ⟨fnName, hfn, h⟩ := bind_eq_ok_iff.mp h
  obtain ⟨variant, hvariant, h⟩ := bind_eq_ok_iff.mp h
  obtain ⟨request, hrequest, h⟩ := bind_eq_ok_iff.mp h
  obtain ⟨response, hresponse, h⟩ := bind_eq_ok_iff.mp h
  obtain rfl := Except.ok.inj h
  exact ⟨rfl, eq_of_snakeIdentifier hfn, eq_of_camelIdentifier hvariant, hrequest, hresponse, rfl⟩

/-! ## Services -/

def handler (s : Service) : String := "handle_" ++ snakeCase s.name ++ "_request"

theorem eq_of_handlerName {s : Service} {name : String} (h : handlerName s = .ok name) :
    name = handler s := by
  unfold handlerName at h
  dsimp only at h
  split_ifs at h
  exact (Except.ok.inj h).symm

def serverItems (s : Service) (ps : List MethodParts) : List Item :=
  [handlerTrait s (stem s) ps, forwarding (stem s) ps, methodEnum (stem s ++ "Method") ps,
    methodNames (stem s ++ "Method") ps,
    .wrapper [.note " Decodes calls and hands them to the wrapped handler."]
      (stem s ++ "Server") "H",
    adapter (stem s) (stem s ++ "Method") (stem s ++ "Server") ps,
    handleFn (stem s) (stem s ++ "Server") (handler s)]

def clientItems (s : Service) (ps : List MethodParts) : List Item :=
  [.record [.derive ["Debug", "Clone"]] (stem s ++ "Client") [] [⟨false, "caller", caller⟩],
    .implementation [] none (.named (stem s ++ "Client")) [] <|
      .function [] true
        (plainFn "new" [.typed "caller" caller] false (some (.named "Self")))
        [.result (.record "Self" [("caller", none)] false)] ::
      ps.map proxyFn]

def emitterItems (s : Service) (ps : List MethodParts) : List Item :=
  [.trait (docsOf s.docs) (stem s) (ps.map fun m => (m.docs, eventFn m)),
    .record [.note " Writes every event as a push frame."] (stem s ++ "Emitter") emitterParams
      [⟨false, "socket", .named "S"⟩, ⟨false, "log", .named "L"⟩],
    .implementation emitterParams none (emitterType (stem s ++ "Emitter")) [] [
      .function [] true
        (plainFn "new" [.typed "socket" (.named "S"), .typed "log" (.named "L")] false
          (some (.named "Self")))
        [.result (.record "Self" [("socket", none), ("log", none)] false)]],
    .implementation emitterParams (some (.scope, [stem s])) (emitterType (stem s ++ "Emitter"))
      [⟨.named "S", [bound .runtime ["server", "Socket"]]⟩,
        ⟨.named "L", [bound .runtime ["server", "Logger"]]⟩]
      (ps.map (pushFn s))]

def subscriberItems (s : Service) (ps : List MethodParts) : List Item :=
  [.record [.derive ["Debug"]] (stem s ++ "Subscriber") []
      (ps.map fun m => ⟨false, m.fnName, subscribersOf m.eventType⟩),
    .implementation [] none (.named (stem s ++ "Subscriber")) [] <|
      registeringNew (ps.flatMap registration ++
        [.result (.record "Self" (ps.map fun m => (m.fnName, none)) true)]) ::
      ps.map subscribeFn]

variable {runtime : Tokens} {s : Service} {items : List Item}

theorem eq_of_callServer (h : callServer runtime s = .ok items) :
    ∃ ps, partsOf runtime s = .ok ps ∧ items = serverItems s ps := by
  obtain ⟨name, hname, h⟩ := bind_eq_ok_iff.mp h
  obtain ⟨enum, henum, h⟩ := bind_eq_ok_iff.mp h
  obtain ⟨server, hserver, h⟩ := bind_eq_ok_iff.mp h
  obtain ⟨handle, hhandle, h⟩ := bind_eq_ok_iff.mp h
  obtain ⟨ps, hps, h⟩ := bind_eq_ok_iff.mp h
  have hstem : name = stem s := by simpa using eq_of_serviceIdentifier hname
  obtain rfl := Except.ok.inj h
  refine ⟨ps, hps, ?_⟩
  rw [serverItems, hstem, eq_of_serviceIdentifier henum, eq_of_serviceIdentifier hserver,
    eq_of_handlerName hhandle]

theorem eq_of_callClient (h : callClient runtime s = .ok items) :
    ∃ ps, partsOf runtime s = .ok ps ∧ items = clientItems s ps := by
  obtain ⟨client, hclient, h⟩ := bind_eq_ok_iff.mp h
  obtain ⟨ps, hps, h⟩ := bind_eq_ok_iff.mp h
  obtain rfl := Except.ok.inj h
  refine ⟨ps, hps, ?_⟩
  rw [clientItems, eq_of_serviceIdentifier hclient]

theorem eq_of_pushEmitter (h : pushEmitter runtime s = .ok items) :
    ∃ ps, partsOf runtime s = .ok ps ∧ items = emitterItems s ps := by
  obtain ⟨name, hname, h⟩ := bind_eq_ok_iff.mp h
  obtain ⟨emitter, hemitter, h⟩ := bind_eq_ok_iff.mp h
  obtain ⟨ps, hps, h⟩ := bind_eq_ok_iff.mp h
  have hstem : name = stem s := by simpa using eq_of_serviceIdentifier hname
  obtain rfl := Except.ok.inj h
  refine ⟨ps, hps, ?_⟩
  rw [emitterItems, hstem, eq_of_serviceIdentifier hemitter]

theorem eq_of_pushSubscriber (h : pushSubscriber runtime s = .ok items) :
    ∃ ps, partsOf runtime s = .ok ps ∧ items = subscriberItems s ps := by
  obtain ⟨subscriber, hsubscriber, h⟩ := bind_eq_ok_iff.mp h
  obtain ⟨ps, hps, h⟩ := bind_eq_ok_iff.mp h
  obtain rfl := Except.ok.inj h
  refine ⟨ps, hps, ?_⟩
  rw [subscriberItems, eq_of_serviceIdentifier hsubscriber]

end Stub

end Callwire
