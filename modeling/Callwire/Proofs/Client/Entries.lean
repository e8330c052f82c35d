import Callwire.Proofs.Client.Operations

/-!
# Entries under one number

The entries of the table of pending calls that have one number, and what the
operations make of them. Entries under other numbers have no part in it.
-/

set_option autoImplicit false

namespace Callwire.Calls

def entries (c : Calls) (n : Nat) : List PendingCall := c.pending.filter (·.id == n)

theorem find?_eq_head? (c : Calls) (n : Nat) : c.find? n = (c.entries n).head? :=
  List.head?_filter.symm

theorem entries_without_self (c : Calls) (n : Nat) : (c.without n).entries n = [] := by
  simp only [entries, without, List.filter_filter, List.filter_eq_nil_iff]
  intro p _
  simp

theorem entries_without_other (c : Calls) {m n : Nat} (h : m ≠ n) :
    (c.without m).entries n = c.entries n := by
  simp only [entries, without, List.filter_filter]
  apply List.filter_congr
  intro p _
  by_cases hp : p.id = n
  · simp [hp, h.symm]
  · simp [hp]

theorem entries_expire {ε : Type} (c : Calls) (t : Instant) (n : Nat) :
    (c.expire (ε := ε) t).1.entries n =
      ((c.entries n).filter (!·.abandoned)).filter (!·.isDue t) := by
  simp only [entries, expire, List.filter_filter]
  apply List.filter_congr
  intro p _
  cases p.isDue t <;> cases p.abandoned <;> simp

theorem entries_abandon (c : Calls) (caller n : Nat) :
    (c.abandon caller).entries n =
      (c.entries n).map fun p => if p.caller = caller then { p with abandoned := true } else p := by
  simp only [entries, abandon, List.filter_map]
  congr 1
  apply List.filter_congr
  intro p _
  simp only [Function.comp]
  split_ifs <;> rfl

theorem isDue_iff (p : PendingCall) (t : Instant) :
    p.isDue t = true ↔ ∃ d ∈ p.deadline, d ≤ t := by
  unfold PendingCall.isDue
  cases p.deadline <;> simp

/-- Results that come from entries come from those under one number. -/
theorem resultsFor_entries {ε : Type} {caller n : Nat} {l : List PendingCall}
    (f : PendingCall → List (Effect ε))
    (h : ∀ p ∈ l, p.id ≠ n → resultsFor caller (f p) = []) :
    resultsFor caller (l.flatMap f) =
      (l.filter (·.id == n)).flatMap fun p => resultsFor caller (f p) := by
  rw [resultsFor_flatMap]
  induction l with
  | nil => rfl
  | cons p l ih =>
    rw [List.flatMap_cons, ih fun q hq => h q (List.mem_cons_of_mem _ hq), List.filter_cons]
    by_cases hp : p.id = n
    · simp [hp]
    · rw [h p (by simp) hp]
      simp [hp]

section
variable {c : Calls} {calls : List Call} {p : PendingCall}

structure Own (c : Calls) (p : PendingCall) : Prop where
  pos : 0 < p.id
  le : p.id ≤ Frame.maxId
  others : ∀ q ∈ c.pending, q.id ≠ p.id → q.caller ≠ p.caller

theorem index_of_caller (hn : (calls.map (·.caller)).Nodup) {i j : Nat} {d e : Call}
    (hi : calls[i]? = some d) (hj : calls[j]? = some e) (h : d.caller = e.caller) : i = j := by
  obtain ⟨hlt, -⟩ := List.getElem?_eq_some_iff.mp hi
  apply (List.getElem?_inj (by rw [List.length_map]; exact hlt) hn).mp
  rw [List.getElem?_map, List.getElem?_map, hi, hj, Option.map_some, Option.map_some, h]

theorem Numbered.own (h : Numbered c calls) (hn : (calls.map (·.caller)).Nodup) {call : Call}
    (hpos : 0 < p.id) (hle : p.id ≤ Frame.maxId) (hcall : calls[p.id - 1]? = some call)
    (hcaller : call.caller = p.caller) : Own c p := by
  refine ⟨hpos, hle, fun q hq hid heq => ?_⟩
  obtain ⟨hq0, -, d, hd, hdc⟩ := h.pending q hq
  have hij := index_of_caller hn hd hcall (hdc.trans (heq.trans hcaller.symm))
  omega

end

end Callwire.Calls
