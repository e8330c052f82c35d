import Callwire.Stub.Server
import Callwire.Stub.Client
import Callwire.Schema.Imports
import Callwire.Stub.CodeText
import Callwire.Layout.File

/-!
# Source files of a schema file

A schema file becomes two source files, one with the server's stubs and one
with the client's. Both import the payload types the services name.
-/

set_option autoImplicit false

namespace Callwire.Stub
open Source (Tokens Path pathOf?)

/-! ## Modules of payload types -/

def withoutExtension (file : List Char) : List Char :=
  let ending := file.reverse.takeWhile (· ≠ '.')
  if file.contains '.' && !ending.contains '/' then file.take (file.length - ending.length - 1)
  else file

def segmentsOf (path : List Char) : List String :=
  ((path.splitOn '/').filter (!·.isEmpty)).map String.ofList

def modulePath (file : String) : Except StubError (List String) := do
  let names ← (segmentsOf (withoutExtension file.toList)).mapM snakeIdentifier
  if names.isEmpty then .error (.invalidIdentifier file) else .ok names

def importItem (root : Path) (i : Import) : Except StubError Item := do
  let modules ← modulePath i.file
  let names ← i.types.mapM identifier
  return .import [.allow "unused_imports"] root modules names

/-! ## Settings -/

structure Settings where
  runtime : Path
  root : Path

def pathOf (text : String) : Except StubError Path :=
  (pathOf? text).elim (.error (.invalidType text)) .ok

def Settings.ofTexts (runtime root : String) : Except StubError Settings := do
  return ⟨← pathOf runtime, ← pathOf root⟩

/-! ## Items -/

structure Sources (α : Type) where
  server : α
  client : α

def bothSides (services : List Service) (server client : Service → Except StubError (List Item)) :
    Except StubError (Sources (List Item)) := do
  let pairs ← services.mapM fun s => do return (← server s, ← client s)
  return ⟨pairs.flatMap (·.1), pairs.flatMap (·.2)⟩

def SchemaFile.resolution (file : SchemaFile) (schema : Schema) : Resolution :=
  let c := classify file.services
  Imports.resolve file schema (Imports.referenced (c.call ++ c.push))

def Settings.runtimeTokens (s : Settings) : Tokens := Source.Path.tokens s.runtime

def sourceItems (s : Settings) (schema : Schema) (file : SchemaFile) :
    Except StubError (Sources (List Item)) := do
  file.services.forM Service.validate
  let c := classify file.services
  let imports ← (SchemaFile.resolution file schema).imports.mapM (importItem s.root)
  let calls ← bothSides c.call (callServer s.runtimeTokens) (callClient s.runtimeTokens)
  let pushes ← bothSides c.push (pushEmitter s.runtimeTokens) (pushSubscriber s.runtimeTokens)
  let services ← bundle c.call c.push
  return ⟨imports ++ calls.server ++ pushes.server,
    imports ++ calls.client ++ pushes.client ++ services⟩

/-! ## Source text -/

def header : String := "// THIS FILE WAS AUTOMATICALLY GENERATED\n// DO NOT MODIFY!\n\n"

def fileText (s : Settings) (items : List Item) : Except StubError String := do
  let row := itemTokens ⟨s.runtimeTokens, [.name "pub"]⟩ items
  let file ← (Source.File.ofTokens? row).elim (.error .unreadable) .ok
  let text ← (Layout.fileText file).mapError .unprintable
  return header ++ text

def sourceFiles (s : Settings) (schema : Schema) (name : String) :
    Except StubError (Sources String) := do
  let file ← (schema.get? name).elim (.error (.unknownFile name)) .ok
  let items ← sourceItems s schema file
  return ⟨← fileText s items.server, ← fileText s items.client⟩

end Callwire.Stub
