import Callwire.Schema.File

/-!
# Imports

From which file each payload type is imported: the first that defines it, the
importing file itself first and then the files it refers to.
-/

set_option autoImplicit false

namespace Callwire

structure Import where
  file : String
  types : List String
  deriving DecidableEq, Repr

structure Resolution where
  imports : List Import
  missing : List String
  deriving DecidableEq, Repr

namespace Imports

def insert (name : String) : List String → List String
  | [] => [name]
  | n :: rest =>
    if name < n then name :: n :: rest
    else if name = n then n :: rest
    else n :: insert name rest

def rising (names : List String) : List String := names.foldl (fun set n => insert n set) []

def namesOf (methods : List Method) : List String :=
  (methods.flatMap fun m => [m.request, m.response]).filterMap fun
    | .named name => some name
    | _ => none

def referenced (services : List Service) : List String :=
  rising (services.flatMap fun s => namesOf s.methods)

def follow (schema : Schema) (seen : List String) : List String → List SchemaFile × List String
  | [] => ([], [])
  | r :: rest =>
    if seen.contains r then follow schema seen rest
    else
      match schema.get? r with
      | some f => let (files, missing) := follow schema (r :: seen) rest; (f :: files, missing)
      | none => let (files, missing) := follow schema seen rest; (files, r :: missing)

def share : List SchemaFile → List String → List Import
  | [], _ => []
  | f :: rest, types =>
    let own := types.filter f.defines
    let others := share rest (types.filter fun t => !f.defines t)
    if own.isEmpty then others else ⟨f.name, own⟩ :: others

/-- Types no file defines are left out, and references are followed one step
only. -/
def resolve (file : SchemaFile) (schema : Schema) (types : List String) : Resolution :=
  let (files, missing) := follow schema [file.name] file.references
  ⟨share (file :: files) types, missing⟩

def warning (file reference : String) : String :=
  "schema file " ++ Text.quoted reference ++ " referenced by " ++ Text.quoted file ++
    " not found, skipping"

end Imports

end Callwire
