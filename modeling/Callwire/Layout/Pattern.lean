import Callwire.Layout.Type
import Callwire.Source.Pattern

/-!
# Patterns as documents

Alternatives get a line each if one of them is more than a literal.
-/

set_option autoImplicit false

namespace Callwire.Layout
open Source

def isSlight : Pattern → Bool
  | .wild => true
  | .value _ [.literal _] => true
  | .value _ [.mark '-' _, .literal _] => true
  | .value _ [.name n] => n == "true" || n == "false"
  | _ => false

def caseDocs : List (List Doc) → List Doc
  | [] => []
  | [row] => row
  | row :: rest => row ++ space ++ text "| " ++ caseDocs rest

def componentDocs (trailing : Bool) : List (List Doc) → List Doc
  | [row] =>
    block step (outdented (softBreak ++ row ++ (if trailing then text "," else []) ++ softBreak))
  | rows => listed step rows

def sliceDocs : List (List Doc) → List Doc := commaRows 0

def fieldsDocs (rows : List (List Doc)) (rest : Option (List Doc)) : List Doc :=
  match rest with
  | none => commaRows 1 rows
  | some rest => rows.flatMap (fun row => row ++ text "," ++ space) ++ rest ++ space

mutual

def patternDocs (r : Rows) : Pattern → List Doc
  | .marked marks p => marksDocs r marks ++ patternDocs r p
  | .wild => text "_"
  | .rest => text ".."
  | .value _ row => r.expr row
  | .bind isRef isMut name inner =>
    wordIf isRef "ref" ++ wordIf isMut "mut" ++ text name ++ boundToDocs r inner
  | .reference isMut p => text "&" ++ wordIf isMut "mut" ++ patternDocs r p
  | .paren p => text "(" ++ patternDocs r p ++ text ")"
  | .tuple elems trailing =>
    text "(" ++ componentDocs trailing (patternDocRows r elems) ++ text ")"
  | .slice elems _ => text "[" ++ sliceDocs (patternDocRows r elems) ++ text "]"
  | .either _ cases =>
    box 0 (if cases.all isSlight then .filled else .all) (caseDocs (patternDocRows r cases))
  | .wrapped path elems _ =>
    tyDocs r .value path ++ text "(" ++ listed step (patternDocRows r elems) ++ text ")"
  | .record path fields _ rest =>
    block step (tyDocs r .value path ++ text " \x7b" ++
      outdented (spaceInside ++
        fieldsDocs (fieldPatternDocRows r fields)
          (rest.map fun marks => marksDocs r marks ++ text ".."))) ++ text "\x7d"
  | .typed p t => patternDocs r p ++ text ": " ++ tyDocs r .type t
  | .verbatim row => [withoutLayout "Pat" row]

def boundToDocs (r : Rows) : Option Pattern → List Doc
  | some p => text " @ " ++ patternDocs r p
  | none => []

def patternDocRows (r : Rows) : List Pattern → List (List Doc)
  | [] => []
  | p :: rest => patternDocs r p :: patternDocRows r rest

def fieldPatternDocRows (r : Rows) : List FieldPattern → List (List Doc)
  | [] => []
  | .mk marks component p :: rest =>
    (marksDocs r marks ++ text ((component.map (·.text ++ ": ")).getD "") ++ patternDocs r p) ::
      fieldPatternDocRows r rest

end

end Callwire.Layout
