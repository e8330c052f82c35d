import Callwire.Proofs.Stub.Outlines
import Callwire.Proofs.Text.Capitals

/-!
# Names in one scope

Services are checked for methods with the same words in small letters. That
keeps the functions and fields of the stubs apart, the variants of the method
enumeration only as far as capitals show where a word begins, and says nothing
about the constructor of a client.
-/

set_option autoImplicit false

namespace Callwire.Stub
open Source (Tokens)
open Text (snakeCase camelCase HasLetteredWords)

variable {runtime : Tokens} {s : Service} {items : List Item}

def ToldApart (items : List Item) : Prop := ∀ i ∈ items, i.inside.Nodup

theorem toldApart_iff : ToldApart items ↔ ∀ o ∈ outlines items, o.2.Nodup := by
  simp [ToldApart, outlines, Item.outline]

theorem fnNames_nodup (h : s.validate = .ok ()) : (fnNames s).Nodup :=
  ((Service.validate_eq_ok_iff s).mp h).2.2

theorem variantNames_nodup (h : s.validate = .ok ())
    (hwords : ∀ name ∈ s.wireNames, HasLetteredWords name) : (variantNames s).Nodup := by
  have hsnake : (s.wireNames.map snakeCase).Nodup := fnNames_nodup h
  rw [variantNames, List.nodup_map_iff_inj_on (List.Nodup.of_map _ hsnake)]
  intro a ha b hb hcamel
  exact List.inj_on_of_nodup_map hsnake ha hb
    (Text.snakeCase_eq_of_camelCase (hwords a ha) (hwords b hb) hcamel)

theorem nodup_subscribe {names : List String} (h : names.Nodup) :
    (names.map ("on_" ++ ·)).Nodup := by
  apply h.map
  intro a b hab
  have := congrArg String.toList hab
  exact String.toList_inj.mp (by simpa using this)

/-- No function that subscribes is named as the constructor. -/
theorem new_ne_subscribe (name : String) : "on_" ++ name ≠ "new" := by
  intro h
  have := congrArg String.toList h
  simp at this

/-! ## Main result -/

/-- The names inside the stubs of a service that passes the check are distinct, but for
variants with the same camel case, which names with lettered words do not have, and for a
method of a client that is named as its constructor. -/
theorem scopes_are_distinct (runtime : Tokens) (s : Service) (h : s.validate = .ok ()) :
    (∀ items, callServer runtime s = .ok items →
      (ToldApart items ↔ (s.wireNames.map camelCase).Nodup) ∧
        ∀ i ∈ items, i.inside.Nodup ∨ i.inside = s.wireNames.map camelCase) ∧
    (∀ items, callClient runtime s = .ok items →
      (ToldApart items ↔ ∀ name ∈ s.wireNames, snakeCase name ≠ "new")) ∧
    (∀ items, pushEmitter runtime s = .ok items → ToldApart items) ∧
    (∀ items, pushSubscriber runtime s = .ok items → ToldApart items) ∧
    ((∀ name ∈ s.wireNames, HasLetteredWords name) → (s.wireNames.map camelCase).Nodup) := by
  have hfns := fnNames_nodup h
  refine ⟨?_, ?_, ?_, ?_, variantNames_nodup h⟩
  · intro items hitems
    have houtlines := outlines_callServer hitems
    constructor
    · rw [toldApart_iff, houtlines]
      simp [hfns, variantNames]
    · intro i hi
      have hall : ∀ o ∈ outlines items, o.2.Nodup ∨ o.2 = variantNames s := by
        rw [houtlines]
        simp [hfns]
      exact hall i.outline (List.mem_map_of_mem hi)
  · intro items hitems
    rw [toldApart_iff, outlines_callClient hitems]
    have hnew : "new" ∉ fnNames s ↔ ∀ name ∈ s.wireNames, snakeCase name ≠ "new" := by
      simp [fnNames]
    simp [hfns, hnew]
  · intro items hitems
    rw [toldApart_iff, outlines_pushEmitter hitems]
    simp [hfns]
  · intro items hitems
    rw [toldApart_iff, outlines_pushSubscriber hitems]
    simp [hfns, nodup_subscribe hfns, new_ne_subscribe]

/-- A service with digits inside its words and marks between them. -/
def ledger : Service :=
  ⟨"Log", [⟨"openIt", .void, .void, []⟩, ⟨"is-v2", .void, .void, []⟩], [], []⟩

theorem ledger_scopes_are_distinct :
    ledger.validate = .ok () ∧
      (∃ items, callServer [.name "wsrpc"] ledger = .ok items ∧ ToldApart items) ∧
      (∃ items, callClient [.name "wsrpc"] ledger = .ok items ∧ ToldApart items) ∧
      (∃ items, pushEmitter [.name "wsrpc"] ledger = .ok items ∧ ToldApart items) ∧
      ∃ items, pushSubscriber [.name "wsrpc"] ledger = .ok items ∧ ToldApart items := by
  have hvalid : ledger.validate = .ok () := by decide +kernel
  obtain ⟨hserver, hclient, hemitter, hsubscriber, hvariants⟩ :=
    scopes_are_distinct [.name "wsrpc"] ledger hvalid
  obtain ⟨server, h1⟩ := exists_of_isOk
    (by decide +kernel : (callServer [.name "wsrpc"] ledger).isOk = true)
  obtain ⟨client, h2⟩ := exists_of_isOk
    (by decide +kernel : (callClient [.name "wsrpc"] ledger).isOk = true)
  obtain ⟨emitter, h3⟩ := exists_of_isOk
    (by decide +kernel : (pushEmitter [.name "wsrpc"] ledger).isOk = true)
  obtain ⟨subscriber, h4⟩ := exists_of_isOk
    (by decide +kernel : (pushSubscriber [.name "wsrpc"] ledger).isOk = true)
  exact ⟨hvalid, ⟨server, h1, (hserver server h1).1.mpr (hvariants (by decide +kernel))⟩,
    ⟨client, h2, (hclient client h2).mpr (by decide +kernel)⟩,
    ⟨emitter, h3, hemitter emitter h3⟩, ⟨subscriber, h4, hsubscriber subscriber h4⟩⟩

/-- The names differ in small letters, and the capitals hide where a word begins. -/
def numbered : Service :=
  ⟨"Numbered", [⟨"a1", .void, .void, []⟩, ⟨"a_1", .void, .void, []⟩], [], []⟩

def factory : Service := ⟨"Factory", [⟨"new", .void, .void, []⟩], [], []⟩

theorem words_of_digits_and_new_clash :
    numbered.validate = .ok () ∧ factory.validate = .ok () ∧
      (∃ items, callServer [.name "wsrpc"] numbered = .ok items ∧ ¬ ToldApart items) ∧
      ∃ items, callClient [.name "wsrpc"] factory = .ok items ∧ ¬ ToldApart items := by
  refine ⟨by decide +kernel, by decide +kernel, ?_, ?_⟩
  · obtain ⟨items, h⟩ := exists_of_isOk
      (by decide +kernel : (callServer [.name "wsrpc"] numbered).isOk = true)
    refine ⟨items, h, ?_⟩
    rw [toldApart_iff, outlines_callServer h]
    decide +kernel
  · obtain ⟨items, h⟩ := exists_of_isOk
      (by decide +kernel : (callClient [.name "wsrpc"] factory).isOk = true)
    refine ⟨items, h, ?_⟩
    rw [toldApart_iff, outlines_callClient h]
    decide +kernel

end Callwire.Stub
