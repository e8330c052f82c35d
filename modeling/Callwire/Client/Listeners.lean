/-!
# Listeners

Callbacks by the name of their push event, in the order of registration.
-/

set_option autoImplicit false

namespace Callwire

structure Listeners (κ : Type) where
  entries : List (String × κ)

namespace Listeners

variable {κ : Type}

def empty : Listeners κ := ⟨[]⟩

def register (l : Listeners κ) (name : String) (k : κ) : Listeners κ :=
  ⟨l.entries ++ [(name, k)]⟩

def of (l : Listeners κ) (name : String) : List κ :=
  (l.entries.filter (·.1 == name)).map (·.2)

theorem of_register (l : Listeners κ) (name n : String) (k : κ) :
    (l.register name k).of n = if name = n then l.of n ++ [k] else l.of n := by
  unfold of register
  by_cases h : name = n <;> simp [h]

end Listeners

end Callwire
