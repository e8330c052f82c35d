import Callwire.Text.Quoted

/-!
# Values

A store of values of any type under text keys, kept beside a socket. A value is
read back with the type it was stored with and with no other.
-/

set_option autoImplicit false

namespace Callwire

class Universe (T : Type) where
  type : T → Type

structure Stored (T : Type) [Universe T] where
  code : T
  value : Universe.type code

structure Values (T : Type) [Universe T] where
  entries : List (String × Stored T)

namespace Values

variable {T : Type} [Universe T] [DecidableEq T]

def empty : Values T := ⟨[]⟩

def keys (v : Values T) : List String := v.entries.map (·.1)

def without (key : String) (entries : List (String × Stored T)) : List (String × Stored T) :=
  entries.filter fun e => e.1 != key

def set (v : Values T) (key : String) (code : T) (value : Universe.type code) : Values T :=
  ⟨without key v.entries ++ [(key, ⟨code, value⟩)]⟩

def get (v : Values T) (key : String) (code : T) : Option (Universe.type code) :=
  match v.entries.lookup key with
  | some s => if h : s.code = code then some (h ▸ s.value) else none
  | none => none

def take (v : Values T) (key : String) (code : T) : Values T × Option (Universe.type code) :=
  match v.get key code with
  | some x => (⟨without key v.entries⟩, some x)
  | none => (v, none)

def inspected (v : Values T) : String :=
  "\x7b" ++ ", ".intercalate (v.keys.map Text.quoted) ++ "\x7d"

end Values

class Carrier (S : Type) (T : outParam Type) [Universe T] where
  values : S → Values T
  setValues : S → Values T → S

namespace Carrier

variable {S T : Type} [Universe T] [DecidableEq T] [Carrier S T]

instance : Carrier (Values T) T := ⟨id, fun _ v => v⟩

def set (s : S) (key : String) (code : T) (value : Universe.type code) : S :=
  setValues s ((values s).set key code value)

def get (s : S) (key : String) (code : T) : Option (Universe.type code) :=
  (values s).get key code

def take (s : S) (key : String) (code : T) : S × Option (Universe.type code) :=
  let (v, x) := (values s).take key code
  (setValues s v, x)

end Carrier

end Callwire
