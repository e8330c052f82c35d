import Callwire.Proofs.Stub.Methods

/-!
# Outlines of stubs

The names that items declare: their own, which the file has in scope, and those
inside, of the functions, variants and fields that belong to an item. The
outline of a service's stubs depends on the names of its methods only.
-/

set_option autoImplicit false

namespace Callwire.Stub
open Source (Tokens)
open Text (snakeCase camelCase)

def Member.name : Member → String
  | .constant name _ _ => name
  | .alias name _ => name
  | .function _ _ signature _ => signature.name

def Item.inside : Item → List String
  | .trait _ _ methods => methods.map (·.2.name)
  | .implementation _ _ _ _ members => members.map Member.name
  | .enumeration _ _ variants => variants.map (·.name)
  | .record _ _ _ fields => fields.map (·.name)
  | .import .. => []
  | .wrapper .. => []
  | .function .. => []

def Item.outline (i : Item) : Option String × List String := (i.name?, i.inside)

def outlines (items : List Item) : List (Option String × List String) := items.map Item.outline

/-! ## Names of methods in stubs -/

variable {runtime : Tokens} {s : Service} {ps : List MethodParts}

def fnNames (s : Service) : List String := s.wireNames.map snakeCase

def variantNames (s : Service) : List String := s.wireNames.map camelCase

theorem fnNames_of_partsOf (h : partsOf runtime s = .ok ps) : ps.map (·.fnName) = fnNames s := by
  rw [fnNames, Service.wireNames, List.map_map]
  exact map_eq_of_mapM h fun _ _ hp => (describes_of_parts hp).fnName

theorem variants_of_partsOf (h : partsOf runtime s = .ok ps) :
    ps.map (·.variant) = variantNames s := by
  rw [variantNames, Service.wireNames, List.map_map]
  exact map_eq_of_mapM h fun _ _ hp => (describes_of_parts hp).variant

/-! ## The four kinds of stubs -/

variable {items : List Item}

theorem outlines_callServer (h : callServer runtime s = .ok items) :
    outlines items = [(some (stem s), fnNames s), (none, fnNames s),
      (some (stem s ++ "Method"), variantNames s), (none, ["ALL", "name", "table"]),
      (some (stem s ++ "Server"), []), (none, ["Method", "call"]), (some (handler s), [])] := by
  obtain ⟨ps, hps, rfl⟩ := eq_of_callServer h
  rw [← fnNames_of_partsOf hps, ← variants_of_partsOf hps]
  simp [outlines, Item.outline, Item.name?, Item.inside, serverItems, handlerTrait, forwarding,
    forwardFn, handlerFn, plainFn, methodEnum, methodNames, adapter, handleFn, Member.name,
    Function.comp_def]

theorem outlines_callClient (h : callClient runtime s = .ok items) :
    outlines items = [(some (stem s ++ "Client"), ["caller"]), (none, "new" :: fnNames s)] := by
  obtain ⟨ps, hps, rfl⟩ := eq_of_callClient h
  rw [← fnNames_of_partsOf hps]
  simp [outlines, Item.outline, Item.name?, Item.inside, clientItems, proxyFn, plainFn,
    Member.name, Function.comp_def]

theorem outlines_pushEmitter (h : pushEmitter runtime s = .ok items) :
    outlines items = [(some (stem s), fnNames s), (some (stem s ++ "Emitter"), ["socket", "log"]),
      (none, ["new"]), (none, fnNames s)] := by
  obtain ⟨ps, hps, rfl⟩ := eq_of_pushEmitter h
  rw [← fnNames_of_partsOf hps]
  simp [outlines, Item.outline, Item.name?, Item.inside, emitterItems, eventFn, pushFn, plainFn,
    Member.name, Function.comp_def]

theorem outlines_pushSubscriber (h : pushSubscriber runtime s = .ok items) :
    outlines items = [(some (stem s ++ "Subscriber"), fnNames s),
      (none, "new" :: (fnNames s).map ("on_" ++ ·))] := by
  obtain ⟨ps, hps, rfl⟩ := eq_of_pushSubscriber h
  rw [← fnNames_of_partsOf hps]
  simp [outlines, Item.outline, Item.name?, Item.inside, subscriberItems, registeringNew,
    subscribeFn, plainFn, Member.name, Function.comp_def]

end Callwire.Stub
