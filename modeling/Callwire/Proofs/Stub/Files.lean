import Callwire.Stub.Sources
import Callwire.Proofs.Stub.Outlines

/-!
# Names in one file

A source file has the names of the stubs of all its services in scope. Each is
the name a service is read as, or that name with one of a few endings, or the
name of a handling function; which of them can be the same follows from the
endings. The bundle of the client has a field for every role of a service.
-/

set_option autoImplicit false

namespace Callwire.Stub
open Source (Tokens)
open Text (snakeCase)

/-! ## Endings -/

/-- The last three letters, last first. -/
def ending (name : String) : List Char := name.toList.reverse.take 3

theorem ending_append (a : String) {x : String} (hx : 3 ≤ x.toList.length) :
    ending (a ++ x) = ending x := by
  rw [ending, ending, String.toList_append, List.reverse_append,
    List.take_append_of_le_length (by simpa using hx)]

theorem ne_of_ending {a b : String} (h : ending a ≠ ending b) : a ≠ b :=
  fun heq => h (congrArg ending heq)

theorem append_ne_append {x y : String} (hx : 3 ≤ x.toList.length) (hy : 3 ≤ y.toList.length)
    (h : ending x ≠ ending y) (a b : String) : a ++ x ≠ b ++ y := by
  apply ne_of_ending
  rwa [ending_append a hx, ending_append b hy]

theorem append_injective (x : String) : Function.Injective (· ++ x) := by
  intro a b h
  have := congrArg String.toList h
  exact String.toList_inj.mp (by simpa using this)

theorem nodup_append_iff {services : List Service} (f : Service → String) (x : String) :
    (services.map fun s => f s ++ x).Nodup ↔ (services.map f).Nodup := by
  have hmap : (services.map fun s => f s ++ x) = (services.map f).map (· ++ x) := by simp
  rw [hmap, List.nodup_map_iff (append_injective x)]

theorem handler_injective {a b : String}
    (h : "handle_" ++ a ++ "_request" = "handle_" ++ b ++ "_request") : a = b := by
  have := congrArg String.toList h
  exact String.toList_inj.mp (by simpa using this)

theorem nodup_handlers_iff {services : List Service} :
    (services.map handler).Nodup ↔ (services.map fun s => snakeCase s.name).Nodup := by
  have hmap : services.map handler =
      (services.map fun s => snakeCase s.name).map fun n => "handle_" ++ n ++ "_request" := by
    simp [handler, Function.comp_def]
  rw [hmap, List.nodup_map_iff fun a b => handler_injective]

/-! ## The items of a file -/

def declared (items : List Item) : List String := items.filterMap Item.name?

theorem declared_eq (items : List Item) : declared items = (outlines items).filterMap (·.1) := by
  rw [outlines, List.filterMap_map]
  rfl

theorem declared_append (a b : List Item) : declared (a ++ b) = declared a ++ declared b :=
  List.filterMap_append

theorem declared_imports {root : Source.Path} {is : List Import} {items : List Item}
    (h : is.mapM (importItem root) = .ok items) : declared items = [] := by
  rw [mapM_eq_ok_iff] at h
  induction h with
  | nil => rfl
  | cons hi _ ih =>
    obtain ⟨modules, -, hi⟩ := bind_eq_ok_iff.mp hi
    obtain ⟨names, -, hi⟩ := bind_eq_ok_iff.mp hi
    cases hi
    exact ih

/-- Both sides have the stubs of the services in their order. -/
theorem flatMap_bothSides {α : Type} (part : Item → List α) {services : List Service}
    {server client : Service → Except StubError (List Item)} {f g : Service → List α}
    (hserver : ∀ s items, server s = .ok items → items.flatMap part = f s)
    (hclient : ∀ s items, client s = .ok items → items.flatMap part = g s)
    {sides : Sources (List Item)} (h : bothSides services server client = .ok sides) :
    sides.server.flatMap part = services.flatMap f ∧
      sides.client.flatMap part = services.flatMap g := by
  rw [bothSides, bind_eq_ok_iff] at h
  obtain ⟨pairs, hpairs, h⟩ := h
  cases h
  rw [mapM_eq_ok_iff] at hpairs
  simp only [List.flatMap_assoc]
  induction hpairs with
  | nil => simp
  | cons hs _ ih =>
    obtain ⟨a, ha, hs⟩ := bind_eq_ok_iff.mp hs
    obtain ⟨b, hb, hs⟩ := bind_eq_ok_iff.mp hs
    obtain rfl := Except.ok.inj hs
    simp [hserver _ _ ha, hclient _ _ hb, ih]

theorem declared_bothSides {services : List Service}
    {server client : Service → Except StubError (List Item)} {f g : Service → List String}
    (hserver : ∀ s items, server s = .ok items → declared items = f s)
    (hclient : ∀ s items, client s = .ok items → declared items = g s)
    {sides : Sources (List Item)} (h : bothSides services server client = .ok sides) :
    declared sides.server = services.flatMap f ∧ declared sides.client = services.flatMap g := by
  simp only [declared, List.filterMap_eq_flatMap_toList] at hserver hclient ⊢
  exact flatMap_bothSides _ hserver hclient h

/-! ## Server -/

def serverNames (c : Classified) : List String :=
  c.call.flatMap (fun s => [stem s, stem s ++ "Method", stem s ++ "Server", handler s]) ++
    c.push.flatMap fun s => [stem s, stem s ++ "Emitter"]

def derivedNames (c : Classified) : List String :=
  c.call.flatMap (fun s => [stem s ++ "Method", stem s ++ "Server", handler s]) ++
    c.push.map fun s => stem s ++ "Emitter"

/-- The names made for calls, kind by kind. -/
theorem call_names_perm (services : List Service) :
    (services.flatMap fun s => [stem s ++ "Method", stem s ++ "Server", handler s]).Perm
      ((services.map fun s => stem s ++ "Method") ++
        ((services.map fun s => stem s ++ "Server") ++ services.map handler)) := by
  have hhandlers := (List.map_append_flatMap_perm services (fun s => stem s ++ "Server")
    fun s => [handler s]).symm
  rw [← List.map_eq_flatMap] at hhandlers
  exact (List.map_append_flatMap_perm services (fun s => stem s ++ "Method") _).symm.trans
    (hhandlers.append_left _)

theorem nodup_derivedNames_iff (c : Classified) :
    (derivedNames c).Nodup ↔ (c.call.map stem).Nodup ∧
      (c.call.map fun s => snakeCase s.name).Nodup ∧ (c.push.map stem).Nodup := by
  rw [derivedNames, ((call_names_perm c.call).append_right _).nodup_iff]
  have hserver (s t : Service) : stem s ++ "Method" ≠ stem t ++ "Server" :=
    append_ne_append (by decide) (by decide) (by decide) _ _
  have hhandler (s t : Service) : stem s ++ "Method" ≠ handler t :=
    append_ne_append (by decide) (by decide) (by decide) _ _
  have hemitter (s t : Service) : stem s ++ "Method" ≠ stem t ++ "Emitter" :=
    append_ne_append (by decide) (by decide) (by decide) _ _
  have hserver_handler (s t : Service) : stem s ++ "Server" ≠ handler t :=
    append_ne_append (by decide) (by decide) (by decide) _ _
  have hserver_emitter (s t : Service) : stem s ++ "Server" ≠ stem t ++ "Emitter" :=
    append_ne_append (by decide) (by decide) (by decide) _ _
  have hhandler_emitter (s t : Service) : handler s ≠ stem t ++ "Emitter" :=
    append_ne_append (by decide) (by decide) (by decide) _ _
  simp only [List.nodup_append, List.forall_mem_append, List.forall_mem_map, nodup_append_iff,
    nodup_handlers_iff, ne_eq, hserver, hhandler, hemitter, hserver_handler, hserver_emitter,
    hhandler_emitter, not_false_eq_true, implies_true, and_true]
  tauto

theorem nodup_serverNames_iff (c : Classified) :
    (serverNames c).Nodup ↔
      ((c.call ++ c.push).map stem).Nodup ∧ (c.call.map fun s => snakeCase s.name).Nodup ∧
        ∀ s ∈ c.call ++ c.push, stem s ∉ derivedNames c := by
  have hcall := (List.map_append_flatMap_perm c.call stem fun s =>
    [stem s ++ "Method", stem s ++ "Server", handler s]).symm
  have hpush := (List.map_append_flatMap_perm c.push stem fun s => [stem s ++ "Emitter"]).symm
  rw [← List.map_eq_flatMap] at hpush
  have hperm : (serverNames c).Perm ((c.call ++ c.push).map stem ++ derivedNames c) := by
    rw [List.map_append, derivedNames]
    refine (hcall.append hpush).trans ?_
    rw [List.append_assoc, List.append_assoc]
    apply List.Perm.append_left
    rw [← List.append_assoc, ← List.append_assoc]
    exact List.perm_append_comm.append_right _
  rw [hperm.nodup_iff, List.nodup_append, nodup_derivedNames_iff]
  constructor
  · rintro ⟨hstems, ⟨-, hsnake, -⟩, hapart⟩
    refine ⟨hstems, hsnake, ?_⟩
    intro s hs hmem
    exact hapart _ (List.mem_map_of_mem hs) _ hmem rfl
  · rintro ⟨hstems, hsnake, hapart⟩
    have hsplit := hstems
    rw [List.map_append, List.nodup_append] at hsplit
    refine ⟨hstems, ⟨hsplit.1, hsnake, hsplit.2.1⟩, ?_⟩
    intro name hname other hother heq
    obtain ⟨s, hs, rfl⟩ := List.mem_map.mp hname
    exact hapart s hs (heq ▸ hother)

/-! ## Client -/

def clientNames (c : Classified) : List String :=
  c.call.map (fun s => stem s ++ "Client") ++ c.push.map (fun s => stem s ++ "Subscriber") ++
    ["Services"]

theorem nodup_clientNames_iff (c : Classified) :
    (clientNames c).Nodup ↔ (c.call.map stem).Nodup ∧ (c.push.map stem).Nodup := by
  have hsubscriber (s t : Service) : stem s ++ "Client" ≠ stem t ++ "Subscriber" :=
    append_ne_append (by decide) (by decide) (by decide) _ _
  have hcall (s : Service) : stem s ++ "Client" ≠ "Services" := by
    apply ne_of_ending
    rw [ending_append _ (by decide)]
    decide
  have hpush (s : Service) : stem s ++ "Subscriber" ≠ "Services" := by
    apply ne_of_ending
    rw [ending_append _ (by decide)]
    decide
  simp only [clientNames, List.nodup_append, List.forall_mem_append, List.forall_mem_map,
    nodup_append_iff, ne_eq, hsubscriber, hcall, hpush, List.nodup_singleton,
    List.forall_mem_singleton, not_false_eq_true, implies_true, and_true]

/-! ## Bundle -/

def fieldNames (c : Classified) : List String :=
  (c.call.map fun s => snakeCase s.name) ++ c.push.map fun s =>
    if c.call.any (·.name == s.name) then snakeCase s.name ++ "_events" else snakeCase s.name

theorem outlines_bundle {c : Classified} {items : List Item}
    (h : bundle c.call c.push = .ok items) :
    outlines items = [(some "Services", fieldNames c), (none, ["new"])] := by
  obtain ⟨calls, hcalls, h⟩ := bind_eq_ok_iff.mp h
  obtain ⟨pushes, hpushes, h⟩ := bind_eq_ok_iff.mp h
  cases h
  have hcall : calls.map (·.name) = c.call.map fun s => snakeCase s.name := by
    apply map_eq_of_mapM hcalls
    intro s b hb
    obtain ⟨field, hfield, hb⟩ := bind_eq_ok_iff.mp hb
    obtain ⟨client, -, hb⟩ := bind_eq_ok_iff.mp hb
    cases hb
    exact eq_of_snakeIdentifier hfield
  have hpush : pushes.map (·.name) = c.push.map fun s =>
      if c.call.any (·.name == s.name) then snakeCase s.name ++ "_events"
      else snakeCase s.name := by
    apply map_eq_of_mapM hpushes
    intro s b hb
    obtain ⟨field, hfield, hb⟩ := bind_eq_ok_iff.mp hb
    obtain ⟨subscriber, -, hb⟩ := bind_eq_ok_iff.mp hb
    cases hb
    rw [eq_of_snakeIdentifier hfield]
  have hfields : fieldNames c = (calls ++ pushes).map (·.name) := by
    rw [List.map_append, hcall, hpush, fieldNames]
  rw [hfields]
  simp [outlines, Item.outline, Item.name?, Item.inside, registeringNew, plainFn, Member.name,
    Function.comp_def]

def withRole (services : List Service) : List Service :=
  services.filter fun s => s.hasRole .call || s.hasRole .push

def withBoth (services : List Service) : List Service :=
  services.filter fun s => s.hasRole .call && s.hasRole .push

theorem roles_perm (p q : Service → Bool) (f g : Service → String) (services : List Service) :
    ((services.filter p).map f ++ (services.filter q).map fun s => if p s then g s else f s).Perm
      ((services.filter fun s => p s || q s).map f ++
        (services.filter fun s => p s && q s).map g) := by
  induction services with
  | nil => exact .refl _
  | cons s services ih =>
    by_cases hp : p s = true <;> by_cases hq : q s = true
    · simp only [List.filter_cons, hp, hq, if_true, List.map_cons, Bool.or_self, Bool.and_self,
        List.cons_append]
      exact (List.perm_middle.trans (ih.cons _)).trans List.perm_middle.symm |>.cons _
    · simpa [List.filter_cons, hp, hq] using ih
    · simpa [List.filter_cons, hp, hq] using List.perm_middle.trans (ih.cons _)
    · simpa [List.filter_cons, hp, hq] using ih

/-- If services have names of their own, a field has the ending of events exactly if
its service has both roles. -/
theorem fieldNames_perm {services : List Service} (hnames : (services.map (·.name)).Nodup) :
    (fieldNames (classify services)).Perm
      (((withRole services).map fun s => snakeCase s.name) ++
        (withBoth services).map fun s => snakeCase s.name ++ "_events") := by
  have hpush : ((classify services).push.map fun s =>
      if (classify services).call.any (·.name == s.name) then snakeCase s.name ++ "_events"
      else snakeCase s.name) = (services.filter (·.hasRole .push)).map fun s =>
        if s.hasRole .call then snakeCase s.name ++ "_events" else snakeCase s.name := by
    apply List.map_congr_left
    intro s hs
    have hany : (classify services).call.any (·.name == s.name) = s.hasRole .call := by
      rw [Bool.eq_iff_iff, List.any_eq_true]
      constructor
      · rintro ⟨t, ht, hname⟩
        have hsame := List.inj_on_of_nodup_map hnames (List.mem_of_mem_filter ht)
          (List.mem_of_mem_filter hs) (by simpa using hname)
        exact hsame ▸ (List.mem_filter.mp ht).2
      · intro hrole
        exact ⟨s, List.mem_filter.mpr ⟨List.mem_of_mem_filter hs, hrole⟩, by simp⟩
    rw [hany]
  rw [fieldNames, hpush]
  exact roles_perm _ _ _ _ services

theorem nodup_fieldNames_iff {services : List Service} (hnames : (services.map (·.name)).Nodup) :
    (fieldNames (classify services)).Nodup ↔
      ((withRole services).map fun s => snakeCase s.name).Nodup ∧
        ∀ b ∈ withBoth services, ∀ s ∈ withRole services,
          snakeCase s.name ≠ snakeCase b.name ++ "_events" := by
  rw [(fieldNames_perm hnames).nodup_iff, List.nodup_append, nodup_append_iff]
  simp only [List.forall_mem_map]
  have hsub : (withBoth services).Sublist (withRole services) := by
    apply List.monotone_filter_right
    intro s
    cases s.hasRole .call <;> simp
  constructor
  · rintro ⟨hrole, -, hapart⟩
    exact ⟨hrole, fun b hb s hs => hapart s hs b hb⟩
  · rintro ⟨hrole, hapart⟩
    exact ⟨hrole, hrole.sublist (hsub.map _), fun s hs b hb => hapart b hb s hs⟩

/-! ## The names of both files -/

theorem names_of_sourceItems {st : Settings} {schema : Schema} {file : SchemaFile}
    {src : Sources (List Item)} (h : sourceItems st schema file = .ok src) :
    declared src.server = serverNames (classify file.services) ∧
      declared src.client = clientNames (classify file.services) ∧
      ∃ i ∈ src.client, i.name? = some "Services" ∧
        i.inside = fieldNames (classify file.services) := by
  obtain ⟨_, -, h⟩ := bind_eq_ok_iff.mp h
  obtain ⟨imports, himports, h⟩ := bind_eq_ok_iff.mp h
  obtain ⟨calls, hcalls, h⟩ := bind_eq_ok_iff.mp h
  obtain ⟨pushes, hpushes, h⟩ := bind_eq_ok_iff.mp h
  obtain ⟨bundled, hbundled, h⟩ := bind_eq_ok_iff.mp h
  cases h
  have hcall := declared_bothSides
    (f := fun s => [stem s, stem s ++ "Method", stem s ++ "Server", handler s])
    (g := fun s => [stem s ++ "Client"])
    (fun s items h => by rw [declared_eq, outlines_callServer h]; exact rfl)
    (fun s items h => by rw [declared_eq, outlines_callClient h]; exact rfl) hcalls
  have hpush := declared_bothSides
    (f := fun s => [stem s, stem s ++ "Emitter"]) (g := fun s => [stem s ++ "Subscriber"])
    (fun s items h => by rw [declared_eq, outlines_pushEmitter h]; exact rfl)
    (fun s items h => by rw [declared_eq, outlines_pushSubscriber h]; exact rfl) hpushes
  have hbundle := outlines_bundle hbundled
  have hdeclared : declared bundled = ["Services"] := by
    rw [declared_eq, hbundle]
    rfl
  refine ⟨?_, ?_, ?_⟩
  · rw [declared_append, declared_append, declared_imports himports, hcall.1, hpush.1]
    rfl
  · rw [declared_append, declared_append, declared_append, declared_imports himports, hcall.2,
      hpush.2, hdeclared, List.nil_append, ← List.map_eq_flatMap, ← List.map_eq_flatMap]
    rfl
  · have hmem : (some "Services", fieldNames (classify file.services)) ∈ outlines bundled := by
      rw [hbundle]
      simp
    obtain ⟨i, hi, houtline⟩ := List.mem_map.mp hmem
    rw [Item.outline, Prod.mk.injEq] at houtline
    exact ⟨i, by simp [hi], houtline⟩

/-- If services have names of their own, no name is in scope twice on the server's side
exactly if they are read as different names, none of which is put together from another,
and handled by functions of different names; on the client's side exactly if services of
one role are read as different names; and the bundle has distinct fields exactly if
services with a role differ in small letters, also from a service with both roles and
the ending of its events. -/
theorem files_are_distinct (st : Settings) (schema : Schema) (file : SchemaFile)
    (hnames : (file.services.map (·.name)).Nodup) (src : Sources (List Item))
    (h : sourceItems st schema file = .ok src) (c : Classified)
    (hc : c = classify file.services) :
    ((declared src.server).Nodup ↔
      ((c.call ++ c.push).map stem).Nodup ∧ (c.call.map fun s => snakeCase s.name).Nodup ∧
        ∀ s ∈ c.call ++ c.push, stem s ∉ derivedNames c) ∧
    ((declared src.client).Nodup ↔ (c.call.map stem).Nodup ∧ (c.push.map stem).Nodup) ∧
    ∃ i ∈ src.client, i.name? = some "Services" ∧
      (i.inside.Nodup ↔ ((withRole file.services).map fun s => snakeCase s.name).Nodup ∧
        ∀ b ∈ withBoth file.services, ∀ s ∈ withRole file.services,
          snakeCase s.name ≠ snakeCase b.name ++ "_events") := by
  obtain ⟨hserver, hclient, i, hi, hname, hfields⟩ := names_of_sourceItems h
  subst hc
  rw [hserver, hclient]
  refine ⟨nodup_serverNames_iff _, nodup_clientNames_iff _, i, hi, hname, ?_⟩
  rw [hfields]
  exact nodup_fieldNames_iff hnames

def defaults : Settings := ⟨(.absolute, [.mk "wsrpc" .none]), (.scope, [.mk "crate" .none])⟩

/-- A service of each kind, with one that has no role and would clash if it had. -/
def bank : SchemaFile :=
  ⟨"bank", [], [], [⟨"Bank", [⟨"open", .void, .void, []⟩], ["is_call"], []⟩,
    ⟨"Tick", [⟨"tock", .void, .void, []⟩], ["is_push"], []⟩, ⟨"bank", [], [], []⟩]⟩

theorem bank_is_distinct :
    (bank.services.map (·.name)).Nodup ∧ ∃ src, sourceItems defaults ⟨[bank]⟩ bank = .ok src ∧
      (declared src.server).Nodup ∧ (declared src.client).Nodup ∧
      ∃ i ∈ src.client, i.name? = some "Services" ∧ i.inside.Nodup := by
  have hnames : (bank.services.map (·.name)).Nodup := by decide
  obtain ⟨src, h⟩ := exists_of_isOk
    (by decide +kernel : (sourceItems defaults ⟨[bank]⟩ bank).isOk = true)
  obtain ⟨hserver, hclient, i, hi, hname, hfields⟩ :=
    files_are_distinct defaults ⟨[bank]⟩ bank hnames src h _ rfl
  exact ⟨hnames, src, h, hserver.mpr (by decide +kernel), hclient.mpr (by decide +kernel), i, hi,
    hname, hfields.mpr (by decide +kernel)⟩

def market : SchemaFile :=
  ⟨"market", [], [], [⟨"Fair", [], ["is_call", "is_push"], []⟩,
    ⟨"FairEvents", [], ["is_push"], []⟩]⟩

/-- The server's side has two traits of the name `Fair`, the bundle two fields of the
name `fair_events`. -/
theorem both_roles_clash :
    (market.services.map (·.name)).Nodup ∧
      ∃ src, sourceItems defaults ⟨[market]⟩ market = .ok src ∧ ¬ (declared src.server).Nodup ∧
        ∃ i ∈ src.client, i.name? = some "Services" ∧ ¬ i.inside.Nodup := by
  obtain ⟨src, h⟩ := exists_of_isOk
    (by decide +kernel : (sourceItems defaults ⟨[market]⟩ market).isOk = true)
  obtain ⟨hserver, hclient, i, hi, hname, hfields⟩ := names_of_sourceItems h
  refine ⟨by decide, src, h, ?_, i, hi, hname, ?_⟩
  · rw [hserver]
    decide +kernel
  · rw [hfields]
    decide +kernel

end Callwire.Stub
