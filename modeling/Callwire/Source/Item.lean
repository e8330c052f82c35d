import Callwire.Source.Expression

/-!
# Items

Declarations of functions, types, traits, implementations, modules and what
else stands at the top of a source text or in a block. The items of a module
are kept as rows of trees.
-/

set_option autoImplicit false

namespace Callwire.Source

/-! ## Functions -/

/-- A parameter of a function: `self`, a pattern with its type, or three dots
for any number of others. `isRef` of a receiver holds the lifetime. -/
inductive Param
  | receiver (marks : List Mark) (isRef : Option (Option String)) (isMut : Bool) (t : Option Ty)
  | typed (marks : List Mark) (p : Pattern) (t : Ty)
  | dots (marks : List Mark) (p : Option Pattern)

def Param.isReceiver : Param → Bool
  | .receiver .. => true
  | _ => false

structure Signature where
  isConst : Bool
  isAsync : Bool
  isUnsafe : Bool
  convention : Convention
  name : String
  generics : Generics
  params : List Param
  trailing : Bool
  output : Option Ty
  demands : Demands

structure Body where
  inner : List Mark
  statements : List Stmt

def Param.tokens : Param → Tokens
  | .receiver marks isRef isMut t =>
    markTokens marks ++
      (isRef.map fun life => op "&" ++ (life.map lifetime).getD []).getD [] ++
      wordIf isMut "mut" ++ .name "self" :: (t.map fun t => op ":" ++ t.tokens).getD []
  | .typed marks p t => markTokens marks ++ p.tokens ++ op ":" ++ t.tokens
  | .dots marks p =>
    markTokens marks ++ (p.map fun p => p.tokens ++ op ":").getD [] ++ op "..."

def Signature.tokens (f : Signature) : Tokens :=
  wordIf f.isConst "const" ++ wordIf f.isAsync "async" ++ wordIf f.isUnsafe "unsafe" ++
    f.convention.tokens ++ .name "fn" :: .name f.name :: f.generics.tokens ++
    round (separated f.trailing (f.params.map Param.tokens)) :: arrow f.output ++ f.demands.tokens

def Body.tokens (b : Body) : Tree := curly (markTokens b.inner ++ stmtTokens b.statements)

/-! ## Types -/

structure Field where
  marks : List Mark
  visibility : Visibility
  name : Option String
  t : Ty

inductive Fields
  | unit
  | named (fields : List Field) (trailing : Bool)
  | plain (fields : List Field) (trailing : Bool)

structure Variant where
  marks : List Mark
  name : String
  fields : Fields
  value : Option Expr

def Field.tokens (f : Field) : Tokens :=
  markTokens f.marks ++ f.visibility.tokens ++ (f.name.map fun n => .name n :: op ":").getD [] ++
    f.t.tokens

def Fields.tokens : Fields → Tokens
  | .unit => []
  | .named fields trailing => [curly (separated trailing (fields.map Field.tokens))]
  | .plain fields trailing => [round (separated trailing (fields.map Field.tokens))]

def Variant.tokens (v : Variant) : Tokens :=
  markTokens v.marks ++ .name v.name :: v.fields.tokens ++ valueTokens v.value

/-! ## Members of traits, implementations and foreign modules -/

inductive Member
  | const (marks : List Mark) (visibility : Visibility) (isDefault : Bool) (name : String)
      (t : Ty) (value : Option Expr)
  | static (marks : List Mark) (visibility : Visibility) (isMut : Bool) (name : String) (t : Ty)
  | function (marks : List Mark) (visibility : Visibility) (isDefault : Bool)
      (signature : Signature) (body : Option Body)
  | type (marks : List Mark) (visibility : Visibility) (isDefault : Bool) (name : String)
      (generics : Generics) (bounds : List Bound) (trailing : Bool) (t : Option Ty)
      (demands : Demands)
  | macroCall (marks : List Mark) (m : MacroCall) (semi : Bool)
  | verbatim (row : Tokens)

def Member.tokens : Member → Tokens
  | .const marks visibility isDefault name t value =>
    markTokens marks ++ visibility.tokens ++ wordIf isDefault "default" ++ .name "const" ::
      .name name :: op ":" ++ t.tokens ++ valueTokens value ++ op ";"
  | .static marks visibility isMut name t =>
    markTokens marks ++ visibility.tokens ++ .name "static" :: wordIf isMut "mut" ++
      .name name :: op ":" ++ t.tokens ++ op ";"
  | .function marks visibility isDefault signature body =>
    markTokens marks ++ visibility.tokens ++ wordIf isDefault "default" ++ signature.tokens ++
      (body.map fun b => [b.tokens]).getD (op ";")
  | .type marks visibility isDefault name generics bounds trailing t demands =>
    markTokens marks ++ visibility.tokens ++ wordIf isDefault "default" ++ .name "type" ::
      .name name :: generics.tokens ++ colonTokens trailing (boundRows bounds) ++
      (t.map fun t => op "=" ++ t.tokens).getD [] ++ demands.tokens ++ op ";"
  | .macroCall marks m semi => markTokens marks ++ m.tokens ++ opIf semi ";"
  | .verbatim row => row

/-! ## Items -/

inductive UseTree
  | path (name : String) (tree : UseTree)
  | name (name : String)
  | renamed (name : String) (newName : String)
  | glob
  | group (trees : List UseTree) (trailing : Bool)

mutual

def UseTree.tokens : UseTree → Tokens
  | .path name tree => .name name :: op "::" ++ tree.tokens
  | .name n => [.name n]
  | .renamed n newName => [.name n, .name "as", .name newName]
  | .glob => op "*"
  | .group trees trailing => [curly (separated trailing (useRows trees))]

def useRows : List UseTree → List Tokens
  | [] => []
  | t :: rest => t.tokens :: useRows rest

end

structure Trait where
  marks : List Mark
  visibility : Visibility
  isUnsafe : Bool
  isAuto : Bool
  name : String
  generics : Generics
  supers : List Bound
  trailing : Bool
  demands : Demands
  inner : List Mark
  members : List Member

structure Implemented where
  isNegative : Bool
  path : Path

inductive ItemKind
  | const (name : String) (t : Ty) (value : Expr)
  | static (isMut : Bool) (name : String) (t : Ty) (value : Expr)
  | function (signature : Signature) (body : Body)
  | use (isAbsolute : Bool) (tree : UseTree)
  | type (name : String) (generics : Generics) (demands : Demands) (t : Ty)
  | record (name : String) (generics : Generics) (demands : Demands) (fields : Fields)
  | union (name : String) (generics : Generics) (demands : Demands) (fields : Fields)
  | enumeration (name : String) (generics : Generics) (demands : Demands)
      (variants : List Variant) (trailing : Bool)
  | traitAlias (name : String) (generics : Generics) (bounds : List Bound) (trailing : Bool)
      (demands : Demands)
  | implementation (isDefault : Bool) (isUnsafe : Bool) (generics : Generics)
      (implemented : Option Implemented) (self : Ty) (demands : Demands) (inner : List Mark)
      (members : List Member)
  | foreign (isUnsafe : Bool) (convention : Convention) (inner : List Mark)
      (members : List Member)
  | module (isUnsafe : Bool) (name : String) (inner : List Mark) (items : Option (List Tokens))
  | externCrate (name : String) (newName : Option String)
  | macroCall (m : MacroCall) (name : Option String) (semi : Bool)

inductive Item
  | plain (marks : List Mark) (visibility : Visibility) (kind : ItemKind)
  | trait (t : Trait)
  | verbatim (row : Tokens)

structure TypeDeclaration where
  marks : List Mark
  name : String
  generics : Generics
  demands : Demands

def memberTokens (inner : List Mark) (members : List Member) : Tree :=
  curly (markTokens inner ++ members.flatMap Member.tokens)

def recordTokens (demands : Demands) : Fields → Tokens
  | .unit => demands.tokens ++ op ";"
  | .named fields trailing => demands.tokens ++ (Fields.named fields trailing).tokens
  | .plain fields trailing => (Fields.plain fields trailing).tokens ++ demands.tokens ++ op ";"

def ItemKind.tokens : ItemKind → Tokens
  | .const name t value =>
    .name "const" :: .name name :: op ":" ++ t.tokens ++ op "=" ++ value.tokens ++ op ";"
  | .static isMut name t value =>
    .name "static" :: wordIf isMut "mut" ++ .name name :: op ":" ++ t.tokens ++ op "=" ++
      value.tokens ++ op ";"
  | .function signature body => signature.tokens ++ [body.tokens]
  | .use isAbsolute tree => .name "use" :: opIf isAbsolute "::" ++ tree.tokens ++ op ";"
  | .type name generics demands t =>
    .name "type" :: .name name :: generics.tokens ++ demands.tokens ++ op "=" ++ t.tokens ++ op ";"
  | .record name generics demands fields =>
    .name "struct" :: .name name :: generics.tokens ++ recordTokens demands fields
  | .union name generics demands fields =>
    .name "union" :: .name name :: generics.tokens ++ demands.tokens ++ fields.tokens
  | .enumeration name generics demands variants trailing =>
    .name "enum" :: .name name :: generics.tokens ++ demands.tokens ++
      [curly (separated trailing (variants.map Variant.tokens))]
  | .traitAlias name generics bounds trailing demands =>
    .name "trait" :: .name name :: generics.tokens ++ op "=" ++ plus trailing (boundRows bounds) ++
      demands.tokens ++ op ";"
  | .implementation isDefault isUnsafe generics implemented self demands inner members =>
    wordIf isDefault "default" ++ wordIf isUnsafe "unsafe" ++ .name "impl" :: generics.tokens ++
      (implemented.map fun i => opIf i.isNegative "!" ++ Path.tokens i.path ++
        [.name "for"]).getD [] ++
      self.tokens ++ demands.tokens ++ [memberTokens inner members]
  | .foreign isUnsafe convention inner members =>
    wordIf isUnsafe "unsafe" ++ convention.tokens ++ [memberTokens inner members]
  | .module isUnsafe name inner items =>
    wordIf isUnsafe "unsafe" ++ .name "mod" :: .name name ::
      (items.map fun rows => [curly (markTokens inner ++ rows.flatten)]).getD (op ";")
  | .externCrate name newName =>
    [.name "extern", .name "crate", .name name] ++
      (newName.map fun n => [Tree.name "as", .name n]).getD [] ++ op ";"
  | .macroCall m name semi =>
    m.path.tokens ++ op "!" ++ (name.map Tree.name).toList ++ .group m.bracket m.body ::
      opIf semi ";"

def Trait.tokens (t : Trait) : Tokens :=
  markTokens t.marks ++ t.visibility.tokens ++ wordIf t.isUnsafe "unsafe" ++
    wordIf t.isAuto "auto" ++ .name "trait" :: .name t.name :: t.generics.tokens ++
    colonTokens t.trailing (boundRows t.supers) ++ t.demands.tokens ++
    [memberTokens t.inner t.members]

def Item.tokens : Item → Tokens
  | .plain marks visibility kind => markTokens marks ++ visibility.tokens ++ kind.tokens
  | .trait t => t.tokens
  | .verbatim row => row

def Item.type? : Item → Option TypeDeclaration
  | .plain marks _ (.record name generics demands _) => some ⟨marks, name, generics, demands⟩
  | .plain marks _ (.union name generics demands _) => some ⟨marks, name, generics, demands⟩
  | .plain marks _ (.enumeration name generics demands _ _) =>
    some ⟨marks, name, generics, demands⟩
  | _ => none

end Callwire.Source
