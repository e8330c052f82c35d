import Callwire.Layout.Expression
import Callwire.Source.Item

/-!
# Items as documents

Declarations with what they consist of, each member on lines of its own.
-/

set_option autoImplicit false

namespace Callwire.Layout
open Source

/-! ## Functions -/

def receiverDocs (r : Rows) (isRef : Option (Option String)) (isMut : Bool) (t : Option Ty) :
    List Doc :=
  text ((isRef.map fun life => "&" ++ (life.map fun n => "'" ++ n ++ " ").getD "").getD "") ++
    wordIf isMut "mut" ++ text "self" ++ (t.map fun t => text ": " ++ tyDocs r .type t).getD []

def fnParamDocs (r : Rows) : Param → List Doc
  | .receiver marks isRef isMut t => marksDocs r marks ++ receiverDocs r isRef isMut t
  | .typed marks p t => marksDocs r marks ++ patternDocs r p ++ text ": " ++ tyDocs r .type t
  | .dots marks p =>
    marksDocs r marks ++ (p.map fun p => patternDocs r p ++ text ": ").getD [] ++ text "..."

def takesDots (params : List Param) : Bool :=
  match params.getLast? with
  | some (.dots ..) => true
  | _ => false

def signatureDocs (r : Rows) (f : Signature) : List Doc :=
  wordIf f.isConst "const" ++ wordIf f.isAsync "async" ++ wordIf f.isUnsafe "unsafe" ++
    conventionDocs f.convention ++ text ("fn " ++ f.name) ++ genericsDocs r f.generics ++
    text "(" ++ joint ++
    listedUpTo (takesDots f.params) 0 (f.params.map (fnParamDocs r)) ++ text ")" ++
    block (-step) (outputDocs r f.output)

def bodyDocs (r : Rows) (b : Body) : List Doc := marksDocs r b.inner ++ stmtDocs r b.statements

def functionDocs (r : Rows) (front : List Doc) (f : Signature) (body : Option Body) : List Doc :=
  match body with
  | some b => bracedAfter (front ++ signatureDocs r f ++ demandsBeforeBody r f.demands) (bodyDocs r b)
  | none => block step (front ++ signatureDocs r f ++ demandsBeforeEnd r f.demands) ++ hardBreak

/-! ## Types -/

def fieldDocs (r : Rows) (f : Field) : List Doc :=
  marksDocs r f.marks ++ visibilityDocs f.visibility ++
    text ((f.name.map (· ++ ": ")).getD "") ++ tyDocs r .type f.t

def commaLines (rows : List (List Doc)) : List Doc :=
  rows.flatMap fun row => row ++ text "," ++ hardBreak

def plainFieldDocs (r : Rows) (fields : List Field) : List Doc :=
  text "(" ++ listed step (fields.map (fieldDocs r)) ++ text ")"

def variantDocs (r : Rows) (v : Variant) : List Doc :=
  marksDocs r v.marks ++ text v.name ++
    (match v.fields with
      | .unit => []
      | .named fields _ =>
        text " \x7b" ++ block step (outdented (space ++ commaRows 1 (fields.map (fieldDocs r)))) ++
          text "\x7d"
      | .plain fields _ => plainFieldDocs r fields) ++
    (v.value.map fun e => text " = " ++ exprDocs r .inner e).getD []

def recordItemDocs (r : Rows) (front : List Doc) (demands : Demands) : Fields → List Doc
  | .unit => block step (front ++ demandsBeforeEnd r demands) ++ hardBreak
  | .plain fields _ =>
    block step (front ++ plainFieldDocs r fields ++ demandsBeforeEnd r demands) ++ hardBreak
  | .named fields _ =>
    bracedAfter (front ++ demandsBeforeBody r demands) (commaLines (fields.map (fieldDocs r)))

/-! ## Members -/

def constantDocs (r : Rows) (front : List Doc) (name : String) (t : Ty) (value : Option Expr) :
    List Doc :=
  block 0 (front ++ text (name ++ ": ") ++ tyDocs r .type t ++ valueDocs r value ++ text ";") ++
    hardBreak

def memberDocs (r : Rows) (kind : String) : Member → List Doc
  | .const marks visibility isDefault name t value =>
    marksDocs r marks ++
      constantDocs r (visibilityDocs visibility ++ wordIf isDefault "default" ++ text "const ")
        name t value
  | .static marks visibility isMut name t =>
    marksDocs r marks ++
      constantDocs r (visibilityDocs visibility ++ text "static " ++ wordIf isMut "mut") name t none
  | .function marks visibility isDefault signature body =>
    marksDocs r marks ++
      functionDocs r (visibilityDocs visibility ++ wordIf isDefault "default") signature body
  | .type marks visibility isDefault name generics bounds _ t demands =>
    marksDocs r marks ++
      block step (visibilityDocs visibility ++ wordIf isDefault "default" ++
        text ("type " ++ name) ++ genericsDocs r generics ++ boundDocs ": " (boundDocRows r bounds) ++
        (t.map fun t => text " = " ++ joint ++ fill (-step) (tyDocs r .type t)).getD [] ++
        demandsInLine r demands) ++ hardBreak
  | .macroCall marks m semi => marksDocs r marks ++ macroCallDocs m none semi ++ hardBreak
  | .verbatim row => if row.isEmpty then hardBreak else [withoutLayout kind row]

/-! ## Imports -/

def needsNoBrackets : UseTree → Bool
  | .name n => n != "self"
  | .renamed n _ => n != "self"
  | _ => true

def endsInGroup : UseTree → Bool
  | .path _ t => endsInGroup t
  | .group .. => true
  | _ => false

def importRows : List UseTree → List (List Doc) → List Doc
  | _, [] => []
  | _, [row] => row
  | t :: trees, row :: rest =>
    row ++ text "," ++ (if endsInGroup t then hardBreak else space) ++ importRows trees rest
  | [], rows => filledRows rows

mutual

def useDocs : UseTree → List Doc
  | .path n t => text (n ++ "::") ++ useDocs t
  | .name n => text n
  | .renamed n newName => text (n ++ " as " ++ newName)
  | .glob => text "*"
  | .group trees _ =>
    let rows := useDocRows trees
    if trees.isEmpty then text "\x7b\x7d"
    else if trees.length = 1 && trees.all needsNoBrackets then rows.flatten
    else
      block step (text "\x7b" ++ softBreak ++ fill 0 (importRows trees rows) ++
        outdented (lastComma 0) ++ text "\x7d")

def useDocRows : List UseTree → List (List Doc)
  | [] => []
  | t :: rest => useDocs t :: useDocRows rest

end

/-! ## Items -/

def implementedDocs (r : Rows) (i : Implemented) : List Doc :=
  text (if i.isNegative then "!" else "") ++
    pathDocs i.path.1 (segmentDocRows r .type i.path.2) ++ space ++ text "for "

def kindDocs (r : Rows) (visibility : List Doc) : ItemKind → List Doc
  | .const name t value => constantDocs r (visibility ++ text "const ") name t (some value)
  | .static isMut name t value =>
    constantDocs r (visibility ++ text "static " ++ wordIf isMut "mut") name t (some value)
  | .function signature body => functionDocs r visibility signature (some body)
  | .use isAbsolute tree =>
    visibility ++ text (if isAbsolute then "use ::" else "use ") ++ useDocs tree ++ text ";" ++
      hardBreak
  | .type name generics demands t =>
    block step (visibility ++ text ("type " ++ name) ++ genericsDocs r generics ++
      demandsBeforeValue r demands ++ text "= " ++ joint ++ fill (-step) (tyDocs r .type t) ++
      text ";") ++ hardBreak
  | .record name generics demands fields =>
    recordItemDocs r (visibility ++ text ("struct " ++ name) ++ genericsDocs r generics) demands
      fields
  | .union name generics demands fields =>
    recordItemDocs r (visibility ++ text ("union " ++ name) ++ genericsDocs r generics) demands
      fields
  | .enumeration name generics demands variants _ =>
    bracedAfter
      (visibility ++ text ("enum " ++ name) ++ genericsDocs r generics ++
        demandsBeforeBody r demands)
      (commaLines (variants.map (variantDocs r)))
  | .traitAlias name generics bounds _ demands =>
    block step (visibility ++ text ("trait " ++ name) ++ genericsDocs r generics ++ text " = " ++
      joint ++ boundDocs "" (boundDocRows r bounds) ++ demandsBeforeEnd r demands) ++ hardBreak
  | .implementation isDefault isUnsafe generics implemented self demands inner members =>
    bracedAfter
      (fill (-step)
        (block step (wordIf isDefault "default" ++ wordIf isUnsafe "unsafe" ++ text "impl" ++
          genericsDocs r generics) ++ text " " ++
          (implemented.map (implementedDocs r)).getD [] ++ tyDocs r .type self) ++
        demandsBeforeBody r demands)
      (marksDocs r inner ++ members.flatMap (memberDocs r "ImplItem"))
  | .foreign isUnsafe convention inner members =>
    bracedAfter (wordIf isUnsafe "unsafe" ++ conventionDocs convention)
      (marksDocs r inner ++ members.flatMap (memberDocs r "ForeignItem"))
  | .module isUnsafe name inner items =>
    let front := visibility ++ wordIf isUnsafe "unsafe" ++ text ("mod " ++ name)
    match items with
    | some rows => bracedAfter (front ++ text " ") (marksDocs r inner ++ rows.flatMap r.item)
    | none => block step (front ++ text ";") ++ hardBreak
  | .externCrate name newName =>
    visibility ++
      text ("extern crate " ++ name ++ (newName.map (" as " ++ ·)).getD "" ++ ";") ++ hardBreak
  | .macroCall m name _ => macroCallDocs m name (m.bracket != .curly) ++ hardBreak

def traitDocs (r : Rows) (t : Trait) : List Doc :=
  marksDocs r t.marks ++
    bracedAfter
      (visibilityDocs t.visibility ++ wordIf t.isUnsafe "unsafe" ++ wordIf t.isAuto "auto" ++
        text ("trait " ++ t.name) ++ genericsDocs r t.generics ++
        (if t.supers.isEmpty then []
          else text ": " ++ joinedDocs " + " (boundDocRows r t.supers)) ++
        demandsBeforeBody r t.demands)
      (marksDocs r t.inner ++ t.members.flatMap (memberDocs r "TraitItem"))

def itemDocs (r : Rows) : Item → List Doc
  | .plain marks visibility kind => marksDocs r marks ++ kindDocs r (visibilityDocs visibility) kind
  | .trait t => traitDocs r t
  | .verbatim row => if row.isEmpty then hardBreak else [withoutLayout "Item" row]

end Callwire.Layout
