/-!
# Method tables

From the names on the wire to the methods of a service. No two methods may share
a name.
-/

set_option autoImplicit false

namespace Callwire

structure DuplicateMethod where
  name : String
  deriving DecidableEq, Repr

def DuplicateMethod.message (d : DuplicateMethod) : String := "duplicate method " ++ d.name

structure MethodTable (M : Type) where
  entries : List (String × M)

namespace MethodTable

variable {M : Type}

def get? (t : MethodTable M) (name : String) : Option M := t.entries.lookup name

def size (t : MethodTable M) : Nat := t.entries.length

def isEmpty (t : MethodTable M) : Bool := t.entries.isEmpty

def add (name : M → String) (t : MethodTable M) : List M → Except DuplicateMethod (MethodTable M)
  | [] => .ok t
  | m :: rest =>
    if (t.get? (name m)).isSome then .error ⟨name m⟩
    else add name ⟨t.entries ++ [(name m, m)]⟩ rest

def ofList (name : M → String) (methods : List M) : Except DuplicateMethod (MethodTable M) :=
  add name ⟨[]⟩ methods

end MethodTable

end Callwire
