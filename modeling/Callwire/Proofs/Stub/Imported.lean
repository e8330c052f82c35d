import Callwire.Proofs.Schema.Definers
import Callwire.Proofs.Source.Types
import Callwire.Proofs.Stub.Files
import Callwire.Proofs.Stub.Signatures

/-!
# Imports and signatures

A source file imports payload types that the signatures of its stubs name. What is imported
is told from all the methods of services with a role, what is named from the stubs alone:
the two differ by the responses of events, which are imported and never given.
-/

set_option autoImplicit false

namespace Callwire.Stub
open Source (Tokens)

def exchanged (c : Classified) : List PayloadType :=
  c.call.flatMap (fun s => s.methods.flatMap fun m => [m.request, m.response]) ++
    c.push.flatMap fun s => s.methods.map (·.request)

def unanswered (c : Classified) : List PayloadType :=
  c.push.flatMap fun s => s.methods.map (·.response)

def Spoken (items : List Item) (name : String) : Prop :=
  .path .scope [.plain name] ∈ givens items

def Item.uses : Item → List (Source.Path × List String × String)
  | .import _ root modules names => names.map (root, modules, ·)
  | .trait .. | .implementation .. | .enumeration .. | .record .. | .wrapper .. | .function .. => []

def uses (items : List Item) : List (Source.Path × List String × String) :=
  items.flatMap Item.uses

/-! ## Parts of a file -/

theorem mem_importItem {root : Source.Path} {i : Import} {item : Item}
    (h : importItem root i = .ok item) :
    ∃ modules, modulePath i.file = .ok modules ∧
      (∀ t ∈ i.types, ∃ n, identifier t = .ok n) ∧
      ∀ u, u ∈ item.uses ↔ ∃ t ∈ i.types, ∃ n, identifier t = .ok n ∧ u = (root, modules, n) := by
  obtain ⟨modules, hmodules, h⟩ := bind_eq_ok_iff.mp h
  obtain ⟨names, hnames, h⟩ := bind_eq_ok_iff.mp h
  obtain rfl := Except.ok.inj h
  refine ⟨modules, hmodules, ?_, ?_⟩
  · exact fun t ht => exists_of_mapM hnames ht
  · intro u
    rw [Item.uses, List.mem_map]
    simp only [mem_iff_of_mapM hnames]
    constructor
    · rintro ⟨n, ⟨t, ht, hn⟩, rfl⟩
      exact ⟨t, ht, n, hn, rfl⟩
    · rintro ⟨t, ht, n, hn, rfl⟩
      exact ⟨n, ⟨t, ht, hn⟩, rfl⟩

theorem givens_imports {root : Source.Path} {is : List Import} {items : List Item}
    (h : is.mapM (importItem root) = .ok items) : givens items = [] := by
  rw [givens, List.flatMap_eq_nil_iff]
  intro item hitem
  obtain ⟨i, -, hi⟩ := (mem_iff_of_mapM h).mp hitem
  obtain ⟨modules, -, hi⟩ := bind_eq_ok_iff.mp hi
  obtain ⟨names, -, hi⟩ := bind_eq_ok_iff.mp hi
  obtain rfl := Except.ok.inj hi
  rfl

section

variable {runtime : Tokens} {s : Service} {items : List Item}

theorem uses_callServer (h : callServer runtime s = .ok items) : uses items = [] := by
  obtain ⟨ps, -, rfl⟩ := eq_of_callServer h
  rfl

theorem uses_callClient (h : callClient runtime s = .ok items) : uses items = [] := by
  obtain ⟨ps, -, rfl⟩ := eq_of_callClient h
  rfl

theorem uses_pushEmitter (h : pushEmitter runtime s = .ok items) : uses items = [] := by
  obtain ⟨ps, -, rfl⟩ := eq_of_pushEmitter h
  rfl

theorem uses_pushSubscriber (h : pushSubscriber runtime s = .ok items) : uses items = [] := by
  obtain ⟨ps, -, rfl⟩ := eq_of_pushSubscriber h
  rfl

theorem uses_bundle {call push : List Service} (h : bundle call push = .ok items) :
    uses items = [] := by
  obtain ⟨calls, -, h⟩ := bind_eq_ok_iff.mp h
  obtain ⟨pushes, -, h⟩ := bind_eq_ok_iff.mp h
  obtain rfl := Except.ok.inj h
  rfl

end

theorem givens_exchanged (runtime : Tokens) (c : Classified) :
    (exchanged c).flatMap (payloadGivens runtime) =
      c.call.flatMap (callGivens runtime) ++ c.push.flatMap (pushGivens runtime) := by
  rw [exchanged, List.flatMap_append, List.flatMap_assoc, List.flatMap_assoc]
  simp only [List.flatMap_map, List.flatMap_assoc, List.flatMap_cons, List.flatMap_nil,
    List.append_nil]
  rfl

/-- Both sides have the imports of the file, and the signatures of its services. -/
theorem parts_of_sourceItems {st : Settings} {schema : Schema} {file : SchemaFile}
    {src : Sources (List Item)} (h : sourceItems st schema file = .ok src)
    {items : List Item} (hitems : items = src.server ∨ items = src.client) :
    ∃ imports, (SchemaFile.resolution file schema).imports.mapM (importItem st.root) = .ok imports ∧
      uses items = uses imports ∧
      ∀ t, t ∈ givens items ↔
        t ∈ (exchanged (classify file.services)).flatMap (payloadGivens st.runtimeTokens) := by
  obtain ⟨_, -, h⟩ := bind_eq_ok_iff.mp h
  obtain ⟨imports, himports, h⟩ := bind_eq_ok_iff.mp h
  obtain ⟨calls, hcalls, h⟩ := bind_eq_ok_iff.mp h
  obtain ⟨pushes, hpushes, h⟩ := bind_eq_ok_iff.mp h
  obtain ⟨bundled, hbundled, h⟩ := bind_eq_ok_iff.mp h
  cases h
  have himport : imports.flatMap Item.givens = [] := givens_imports himports
  have hcall := flatMap_bothSides Item.givens (fun _ _ => givens_callServer)
    (fun _ _ => givens_callClient) hcalls
  have hpush := flatMap_bothSides Item.givens (fun _ _ => givens_pushEmitter)
    (fun _ _ => givens_pushSubscriber) hpushes
  have hcallUses := flatMap_bothSides Item.uses (fun _ _ => uses_callServer)
    (fun _ _ => uses_callClient) hcalls
  have hpushUses := flatMap_bothSides Item.uses (fun _ _ => uses_pushEmitter)
    (fun _ _ => uses_pushSubscriber) hpushes
  have hbundle : bundled.flatMap Item.givens = [] := givens_bundle hbundled
  have hbundleUses : bundled.flatMap Item.uses = [] := uses_bundle hbundled
  refine ⟨imports, himports, ?_, ?_⟩
  · rcases hitems with rfl | rfl
    · simp [uses, hcallUses.1, hpushUses.1]
    · simp [uses, hcallUses.2, hpushUses.2, hbundleUses]
  · intro t
    rw [givens_exchanged]
    rcases hitems with rfl | rfl
    · rw [givens, List.flatMap_append, List.flatMap_append, himport, hcall.1, hpush.1]
      simp only [List.nil_append, List.mem_append, List.mem_flatMap, or_self]
    · rw [givens, List.flatMap_append, List.flatMap_append, List.flatMap_append, himport, hcall.2,
        hpush.2, hbundle, List.nil_append, List.append_nil]

/-! ## Imports of a file -/

theorem mem_exchanged {c : Classified} {p : PayloadType} :
    p ∈ exchanged c ↔
      (∃ s ∈ c.call, ∃ m ∈ s.methods, m.request = p ∨ m.response = p) ∨
        ∃ s ∈ c.push, ∃ m ∈ s.methods, m.request = p := by
  simp [exchanged, eq_comm]

theorem mem_unanswered {c : Classified} {p : PayloadType} :
    p ∈ unanswered c ↔ ∃ s ∈ c.push, ∃ m ∈ s.methods, m.response = p := by
  simp [unanswered]

theorem mem_referenced_iff {c : Classified} {t : String} :
    t ∈ Imports.referenced (c.call ++ c.push) ↔
      .named t ∈ exchanged c ∨ .named t ∈ unanswered c := by
  simp only [Imports.mem_referenced, mem_exchanged, mem_unanswered, List.mem_append, or_and_right,
    exists_or, and_or_left]
  exact or_or_or_comm.trans or_assoc.symm

theorem payloadGivens_of_identifier {t n : String} (hn : identifier t = .ok n)
    (runtime : Tokens) : payloadGivens runtime (.named t) = [.path .scope [.plain n]] := by
  have htype : Source.Ty.ofString? t = some (.path .scope [.plain n]) :=
    Source.ofString?_of_nameOf? (identifier_eq_ok_iff.mp hn)
  have hpayload : payloadType runtime (.named t) =
      .ok (some (.given (.path .scope [.plain n]))) := by
    unfold payloadType
    simp only [htype]
  rw [payloadGivens, hpayload]
  rfl

variable {st : Settings} {schema : Schema} {file : SchemaFile} {src : Sources (List Item)}
  {items : List Item}

theorem spoken_of_exchanged (h : sourceItems st schema file = .ok src)
    (hitems : items = src.server ∨ items = src.client) {t n : String}
    (ht : .named t ∈ exchanged (classify file.services)) (hn : identifier t = .ok n) :
    Spoken items n := by
  obtain ⟨-, -, -, hgivens⟩ := parts_of_sourceItems h hitems
  rw [Spoken, hgivens, List.mem_flatMap]
  refine ⟨_, ht, ?_⟩
  rw [payloadGivens_of_identifier hn]
  exact List.mem_singleton_self _

/-- The types that methods have, and what is imported for them. -/
theorem attributed_of_sourceItems (h : sourceItems st schema file = .ok src)
    (hitems : items = src.server ∨ items = src.client) :
    ∃ imports, Imports.Attributed file schema
        (Imports.referenced ((classify file.services).call ++ (classify file.services).push))
        imports ∧
      (∀ i ∈ imports, ∃ item, importItem st.root i = .ok item) ∧
      ∀ u, u ∈ uses items ↔ ∃ i ∈ imports, ∃ item, importItem st.root i = .ok item ∧
        u ∈ item.uses := by
  obtain ⟨imported, himported, huses, -⟩ := parts_of_sourceItems h hitems
  refine ⟨_, Imports.attributed_resolve (Imports.rising_rising _), ?_, ?_⟩
  · exact fun i hi => exists_of_mapM himported hi
  · intro u
    rw [huses, uses, List.mem_flatMap]
    simp only [mem_iff_of_mapM himported]
    constructor
    · rintro ⟨item, ⟨i, hi, hitem⟩, hu⟩
      exact ⟨i, hi, item, hitem, hu⟩
    · rintro ⟨i, hi, item, hitem, hu⟩
      exact ⟨item, ⟨i, hi, hitem⟩, hu⟩

theorem uses_of_definer (h : sourceItems st schema file = .ok src)
    (hitems : items = src.server ∨ items = src.client) {t : String} {f : SchemaFile}
    (ht : .named t ∈ exchanged (classify file.services) ∨
      .named t ∈ unanswered (classify file.services))
    (hf : Imports.definer? file schema t = some f) :
    ∃ modules n, modulePath f.name = .ok modules ∧ identifier t = .ok n ∧
      (st.root, modules, n) ∈ uses items := by
  obtain ⟨imports, hattributed, hexists, huses⟩ := attributed_of_sourceItems h hitems
  obtain ⟨i, hi, hfile, hmem, -⟩ := hattributed.once t (mem_referenced_iff.mpr ht) f hf
  obtain ⟨item, hitem⟩ := hexists i hi
  obtain ⟨modules, hmodules, hidentifier, huse⟩ := mem_importItem hitem
  obtain ⟨n, hn⟩ := hidentifier t hmem
  rw [hfile] at hmodules
  exact ⟨modules, n, hmodules, hn, (huses _).mpr
    ⟨i, hi, item, hitem, (huse _).mpr ⟨t, hmem, n, hn, rfl⟩⟩⟩

theorem definer_of_uses (h : sourceItems st schema file = .ok src)
    (hitems : items = src.server ∨ items = src.client) {u : Source.Path × List String × String}
    (hu : u ∈ uses items) :
    ∃ t f, (.named t ∈ exchanged (classify file.services) ∨
        .named t ∈ unanswered (classify file.services)) ∧
      Imports.definer? file schema t = some f ∧ identifier t = .ok u.2.2 ∧
      modulePath f.name = .ok u.2.1 ∧ u.1 = st.root := by
  obtain ⟨imports, hattributed, -, huses⟩ := attributed_of_sourceItems h hitems
  obtain ⟨i, hi, item, hitem, hu⟩ := (huses u).mp hu
  obtain ⟨modules, hmodules, -, huse⟩ := mem_importItem hitem
  obtain ⟨t, ht, n, hn, rfl⟩ := (huse u).mp hu
  obtain ⟨hreferenced, f, hf, hfile⟩ := hattributed.only i hi t ht
  rw [hfile] at hmodules
  exact ⟨t, f, mem_referenced_iff.mp hreferenced, hf, hn, hmodules, rfl⟩

/-- The types in signatures are those of requests and of responses of calls; each is imported
from the first file that defines it. Beside these only responses of events are imported: so
signatures name all imports exactly if they name those. -/
theorem imports_are_spoken (st : Settings) (schema : Schema) (file : SchemaFile)
    (src : Sources (List Item)) (h : sourceItems st schema file = .ok src) (c : Classified)
    (hc : c = classify file.services) (items : List Item)
    (hitems : items = src.server ∨ items = src.client) :
    (∀ t, t ∈ givens items ↔ t ∈ (exchanged c).flatMap (payloadGivens st.runtimeTokens)) ∧
    (∀ t f, .named t ∈ exchanged c → Imports.definer? file schema t = some f →
      ∃ modules n, modulePath f.name = .ok modules ∧ identifier t = .ok n ∧
        (st.root, modules, n) ∈ uses items ∧ Spoken items n) ∧
    (∀ u ∈ uses items, Spoken items u.2.2 ∨ ∃ t f, .named t ∈ unanswered c ∧
      Imports.definer? file schema t = some f ∧ identifier t = .ok u.2.2) ∧
    ((∀ u ∈ uses items, Spoken items u.2.2) ↔
      ∀ t f n, .named t ∈ unanswered c → Imports.definer? file schema t = some f →
        identifier t = .ok n → Spoken items n) := by
  subst hc
  have hspoken : ∀ u ∈ uses items, Spoken items u.2.2 ∨
      ∃ t f, .named t ∈ unanswered (classify file.services) ∧
        Imports.definer? file schema t = some f ∧ identifier t = .ok u.2.2 := by
    intro u hu
    obtain ⟨t, f, ht | ht, hf, hn, -, -⟩ := definer_of_uses h hitems hu
    · exact .inl (spoken_of_exchanged h hitems ht hn)
    · exact .inr ⟨t, f, ht, hf, hn⟩
  obtain ⟨-, -, -, hgivens⟩ := parts_of_sourceItems h hitems
  refine ⟨hgivens, ?_, hspoken, ?_, ?_⟩
  · intro t f ht hf
    obtain ⟨modules, n, hmodules, hn, huse⟩ := uses_of_definer h hitems (.inl ht) hf
    exact ⟨modules, n, hmodules, hn, huse, spoken_of_exchanged h hitems ht hn⟩
  · intro hall t f n ht hf hn
    obtain ⟨modules, n', -, hn', huse⟩ := uses_of_definer h hitems (.inr ht) hf
    rw [hn] at hn'
    cases hn'
    exact hall _ huse
  · intro hall u hu
    rcases hspoken u hu with hsaid | ⟨t, f, ht, hf, hn⟩
    · exact hsaid
    · exact hall t f _ ht hf hn

/-- A call with a type of the file itself and one that another file defines, and an event
whose response is the request of the call. -/
def kiosk : SchemaFile :=
  ⟨"kiosk", ["Order"], ["prices"],
    [⟨"Kiosk", [⟨"buy", .named "Order", .named "Price", []⟩], ["is_call"], []⟩,
      ⟨"Sale", [⟨"start", .named "Price", .named "Order", []⟩], ["is_push"], []⟩]⟩

def prices : SchemaFile := ⟨"prices", ["Price"], [], []⟩

theorem kiosk_imports_are_spoken :
    ∃ src, sourceItems defaults ⟨[kiosk, prices]⟩ kiosk = .ok src ∧
      (∀ u ∈ uses src.server, Spoken src.server u.2.2) ∧
      ∀ u ∈ uses src.client, Spoken src.client u.2.2 := by
  obtain ⟨src, h⟩ := exists_of_isOk
    (by decide +kernel : (sourceItems defaults ⟨[kiosk, prices]⟩ kiosk).isOk = true)
  have hall (items : List Item) (hitems : items = src.server ∨ items = src.client) :
      ∀ u ∈ uses items, Spoken items u.2.2 := by
    obtain ⟨-, hexchanged, -, hiff⟩ :=
      imports_are_spoken defaults ⟨[kiosk, prices]⟩ kiosk src h _ rfl items hitems
    obtain ⟨-, order, -, horder, -, hsaid⟩ := hexchanged "Order" kiosk (by decide) rfl
    apply hiff.mpr
    intro t f n ht _ hn
    have hresponses : unanswered (classify kiosk.services) = [.named "Order"] := by decide
    rw [hresponses, List.mem_singleton] at ht
    cases ht
    rw [horder] at hn
    cases hn
    exact hsaid
  exact ⟨src, h, hall _ (.inl rfl), hall _ (.inr rfl)⟩

/-- An event with a response of a type that nothing else is of. -/
def ticker : SchemaFile :=
  ⟨"ticker", ["Msg"], [], [⟨"Ticker", [⟨"tick", .void, .named "Msg", []⟩], ["is_push"], []⟩]⟩

theorem response_of_event_is_imported :
    ∃ src, sourceItems defaults ⟨[ticker]⟩ ticker = .ok src ∧
      ∀ items, items = src.server ∨ items = src.client →
        (defaults.root, ["ticker"], "Msg") ∈ uses items ∧ ¬ Spoken items "Msg" := by
  obtain ⟨src, h⟩ := exists_of_isOk
    (by decide +kernel : (sourceItems defaults ⟨[ticker]⟩ ticker).isOk = true)
  refine ⟨src, h, ?_⟩
  intro items hitems
  have hmodules : modulePath "ticker" = .ok ["ticker"] := by decide +kernel
  have hmsg : identifier "Msg" = .ok "Msg" := by decide +kernel
  constructor
  · obtain ⟨modules, n, hmodules', hn, huse⟩ :=
      uses_of_definer h hitems (t := "Msg") (f := ticker) (.inr (by decide)) rfl
    cases hmodules.symm.trans hmodules'
    cases hmsg.symm.trans hn
    exact huse
  · obtain ⟨-, -, -, hgivens⟩ := parts_of_sourceItems h hitems
    have hexchanged : exchanged (classify ticker.services) = [.void] := by decide
    rw [Spoken, hgivens, hexchanged]
    exact List.not_mem_nil

end Callwire.Stub
