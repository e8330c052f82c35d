import Callwire.Stub.Code

/-!
# Stubs as token trees

How stubs are written where they go to a compiler. The path of the runtime and
the visibility are chosen here.
-/

set_option autoImplicit false

namespace Callwire.Stub
open Source (Tokens Tree op comma round square curly separated below lifetime string plus wordIf)

structure Setting where
  runtime : Tokens
  visibility : Tokens

def pathTokens (s : Setting) (root : Root) (rows : List Tokens) : Tokens :=
  match root with
  | .scope => (below rows).drop 2
  | .absolute => below rows
  | .runtime => s.runtime ++ below rows

def namesTokens (s : Setting) (root : Root) (names : List String) : Tokens :=
  pathTokens s root (names.map fun n => [.name n])

def closeAngle (isTight : Bool) (inner : Tokens) : Tokens :=
  match isTight, inner.getLast? with
  | true, some (.mark '>' false) => inner.dropLast ++ op ">>"
  | _, _ => inner ++ op ">"

mutual

def Ty.tokens (s : Setting) : Ty → Tokens
  | .given t => t.tokens
  | .path root segments => pathTokens s root (segmentRows s segments)
  | .ref life isMut t =>
    op "&" ++ (life.map lifetime).getD [] ++ wordIf isMut "mut" ++ t.tokens s
  | .slice t => [square (t.tokens s)]
  | .unit => [round []]

def segmentRows (s : Setting) : List Segment → List Tokens
  | [] => []
  | .mk name [] _ :: rest => [.name name] :: segmentRows s rest
  | .mk name args isTight :: rest =>
    (.name name :: op "<" ++ closeAngle isTight (separated false (tyRows s args))) ::
      segmentRows s rest

def tyRows (s : Setting) : List Ty → List Tokens
  | [] => []
  | t :: rest => t.tokens s :: tyRows s rest

end

def arrowTokens (s : Setting) : Option Ty → Tokens
  | some t => op "->" ++ t.tokens s
  | none => []

mutual

def Expr.tokens (s : Setting) : Expr → Tokens
  | .path root names => namesTokens s root names
  | .qualified t root traitNames name =>
    op "<" ++ t.tokens s ++ .name "as" :: namesTokens s root traitNames ++
      op ">" ++ op "::" ++ [.name name]
  | .literal text => [string text]
  | .call f args trailing =>
    f.tokens s ++ [round (separated trailing (exprRows s args))]
  | .method receiver name args trailing =>
    receiver.tokens s ++ op "." ++
      [.name name, round (separated trailing (exprRows s args))]
  | .field e name => e.tokens s ++ op "." ++ [.name name]
  | .wrapped e name args =>
    e.tokens s ++ op "." ++
      [.literal "0.", .name name, round (separated false (exprRows s args))]
  | .attempt e => e.tokens s ++ op "?"
  | .await e => e.tokens s ++ op "." ++ [.name "await"]
  | .ref isMut e => op "&" ++ wordIf isMut "mut" ++ e.tokens s
  | .deref e => op "*" ++ e.tokens s
  | .paren e => [round (e.tokens s)]
  | .unit => [round []]
  | .array elems => [square (separated false (exprRows s elems))]
  | .record name fields trailing =>
    [.name name, curly (separated trailing (fieldRows s fields))]
  | .ignoring t e =>
    .name "move" :: op "|" ++ .name "_" :: op ":" ++ t.tokens s ++ op "|" ++ e.tokens s
  | .cases e arms => .name "match" :: e.tokens s ++ [curly (armTokens s arms)]

def exprRows (s : Setting) : List Expr → List Tokens
  | [] => []
  | e :: rest => e.tokens s :: exprRows s rest

def fieldRows (s : Setting) : List (String × Option Expr) → List Tokens
  | [] => []
  | (name, none) :: rest => [.name name] :: fieldRows s rest
  | (name, some e) :: rest => (.name name :: op ":" ++ e.tokens s) :: fieldRows s rest

def armTokens (s : Setting) : List Arm → Tokens
  | [] => []
  | .value pattern e :: rest =>
    namesTokens s .scope pattern ++ op "=>" ++ e.tokens s ++ comma :: armTokens s rest
  | .block pattern body :: rest =>
    namesTokens s .scope pattern ++ op "=>" ++ curly (stmtTokens s body) :: armTokens s rest

def stmtTokens (s : Setting) : List Stmt → Tokens
  | [] => []
  | .bind name e :: rest =>
    .name "let" :: .name name :: op "=" ++ e.tokens s ++ op ";" ++ stmtTokens s rest
  | .run e :: rest => e.tokens s ++ op ";" ++ stmtTokens s rest
  | .result e :: rest => e.tokens s ++ stmtTokens s rest
  | .shared name t e :: rest =>
    .name "static" :: .name name :: op ":" ++ t.tokens s ++ op "=" ++ e.tokens s ++
      op ";" ++ stmtTokens s rest

end

def Attribute.tokens : Attribute → Tokens
  | .doc line => op "#" ++ [square (.name "doc" :: op "=" ++ [string line])]
  | .note line => op "#" ++ [square (.name "doc" :: op "=" ++ [.literal ("r\"" ++ line ++ "\"")])]
  | .derive names =>
    op "#" ++ [square [.name "derive", round (separated false (names.map fun n => [.name n]))]]
  | .allow lint => op "#" ++ [square [.name "allow", round [.name lint]]]

def attributeTokens (attributes : List Attribute) : Tokens :=
  attributes.flatMap Attribute.tokens

def Bound.tokens (s : Setting) : Bound → Tokens
  | .life name => lifetime name
  | .trait isMaybe root names => (if isMaybe then op "?" else []) ++ namesTokens s root names
  | .callback inputs => [.name "Fn", round (separated false (inputs.map (·.tokens s)))]

def boundTokens (s : Setting) (bounds : List Bound) : Tokens :=
  plus false (bounds.map (·.tokens s))

def TypeParam.tokens (s : Setting) (p : TypeParam) : Tokens :=
  .name p.name :: if p.bounds.isEmpty then [] else op ":" ++ boundTokens s p.bounds

def genericTokens (s : Setting) : List TypeParam → Tokens
  | [] => []
  | params => op "<" ++ separated false (params.map (·.tokens s)) ++ op ">"

def demandTokens (s : Setting) : List Demand → Tokens
  | [] => []
  | demands => .name "where" ::
    separated true (demands.map fun d => d.t.tokens s ++ op ":" ++ boundTokens s d.bounds)

def Param.tokens (s : Setting) : Param → Tokens
  | .self isRef isMut =>
    (if isRef then op "&" else []) ++ wordIf isMut "mut" ++ [.name "self"]
  | .typed name t => .name name :: op ":" ++ t.tokens s

def Signature.tokens (s : Setting) (f : Signature) : Tokens :=
  wordIf f.isAsync "async" ++ .name "fn" :: .name f.name ::
    genericTokens s f.generics ++ round (separated f.trailing (f.params.map (·.tokens s))) ::
    arrowTokens s f.output ++ demandTokens s f.demands

def Member.tokens (s : Setting) : Member → Tokens
  | .constant name t e =>
    .name "const" :: .name name :: op ":" ++ t.tokens s ++ op "=" ++ e.tokens s ++ op ";"
  | .alias name t => .name "type" :: .name name :: op "=" ++ t.tokens s ++ op ";"
  | .function attributes visible signature body =>
    attributeTokens attributes ++ (if visible then s.visibility else []) ++
      signature.tokens s ++ [curly (stmtTokens s body)]

def Field.tokens (s : Setting) (f : Field) : Tokens :=
  (if f.visible then s.visibility else []) ++ .name f.name :: op ":" ++ f.t.tokens s

def Variant.tokens (v : Variant) : Tokens := attributeTokens v.attributes ++ [.name v.name]

def Item.tokens (s : Setting) : Item → Tokens
  | .import attributes root modules names =>
    attributeTokens attributes ++ .name "use" :: Source.Path.tokens root ++
      below (modules.map fun m => [.name m]) ++ op "::" ++
      curly (separated false (names.map fun n => [.name n])) :: op ";"
  | .trait attributes name methods =>
    attributeTokens attributes ++ s.visibility ++ [.name "trait", .name name,
      curly (methods.flatMap fun (docs, f) => attributeTokens docs ++ f.tokens s ++ op ";")]
  | .implementation generics implemented self demands members =>
    .name "impl" :: genericTokens s generics ++
      (implemented.map fun (root, names) => namesTokens s root names ++ [.name "for"]).getD [] ++
      self.tokens s ++ demandTokens s demands ++
      [curly (members.flatMap (·.tokens s))]
  | .enumeration attributes name variants =>
    attributeTokens attributes ++ s.visibility ++ [.name "enum", .name name,
      curly (separated true (variants.map (·.tokens)))]
  | .record attributes name generics fields =>
    attributeTokens attributes ++ s.visibility ++ .name "struct" :: .name name ::
      genericTokens s generics ++ [curly (separated true (fields.map (·.tokens s)))]
  | .wrapper attributes name param =>
    attributeTokens attributes ++ s.visibility ++ .name "struct" :: .name name ::
      op "<" ++ .name param :: op ">" ++ round [.name "pub", .name param] :: op ";"
  | .function attributes signature body =>
    attributeTokens attributes ++ s.visibility ++ signature.tokens s ++
      [curly (stmtTokens s body)]

def itemTokens (s : Setting) (items : List Item) : Tokens := items.flatMap (·.tokens s)

end Callwire.Stub
