import Callwire.Schema.Service

/-!
# Schema files

A schema is a list of files with distinct names. A file defines payload types,
refers to other files and describes services.
-/

set_option autoImplicit false

namespace Callwire

structure SchemaFile where
  name : String
  types : List String
  references : List String
  services : List Service
  deriving DecidableEq, Repr

def SchemaFile.defines (f : SchemaFile) (type : String) : Bool := f.types.contains type

structure Schema where
  files : List SchemaFile
  deriving Repr

namespace Schema

def empty : Schema := ⟨[]⟩

def put (f : SchemaFile) : List SchemaFile → List SchemaFile
  | [] => [f]
  | g :: rest => if g.name = f.name then f :: rest else g :: put f rest

def add (s : Schema) (f : SchemaFile) : Schema := ⟨put f s.files⟩

def ofFiles (files : List SchemaFile) : Schema := files.foldl add empty

def get? (s : Schema) (name : String) : Option SchemaFile := s.files.find? (·.name == name)

theorem put_names (f : SchemaFile) (files : List SchemaFile) :
    (put f files).map (·.name) =
      if f.name ∈ files.map (·.name) then files.map (·.name)
      else files.map (·.name) ++ [f.name] := by
  induction files with
  | nil => rfl
  | cons g rest ih =>
    by_cases h : g.name = f.name
    · simp [put, h]
    · have h' : f.name ≠ g.name := fun e => h e.symm
      simp only [put, h, if_false, List.map_cons, ih, List.mem_cons, h', false_or]
      split <;> simp

end Schema

end Callwire
