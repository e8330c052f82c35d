import Callwire.Layout.Attribute
import Callwire.Source.Type

/-!
# Types as documents

Arguments of a path stay in the line or get a line each. In the path of a
value two colons precede them.
-/

set_option autoImplicit false

namespace Callwire.Layout
open Source

inductive Place
  | type
  | value
  deriving DecidableEq

def belowDocs : List (List Doc) → List Doc
  | [] => []
  | row :: rest => text "::" ++ row ++ belowDocs rest

def pathDocs (start : Start) : List (List Doc) → List Doc
  | [] => []
  | row :: rest => (if start = .absolute then text "::" else []) ++ row ++ belowDocs rest

def joinedDocs (between : String) : List (List Doc) → List Doc
  | [] => []
  | [row] => row
  | row :: rest => row ++ text between ++ joinedDocs between rest

def boundDocs (front : String) : List (List Doc) → List Doc
  | [] => []
  | row :: rest => text front ++ row ++ rest.flatMap fun r => space ++ text "+ " ++ r

def constDocs (r : Rows) (value : Tokens) : List Doc :=
  match value with
  | [_] => r.expr value
  | [.mark '-' _, .literal _] => r.expr value
  | _ => text "\x7b" ++ r.expr value ++ text "\x7d"

def capturedDocs : Captured → List Doc
  | .life n => text ("'" ++ n)
  | .name n => text n

def binderDocs (r : Rows) : Option Tokens → List Doc
  | some row => r.binder row
  | none => []

def functionHeadDocs (r : Rows) (h : FunctionHead) : List Doc :=
  binderDocs r h.binder ++ wordIf h.isUnsafe "unsafe" ++ conventionDocs h.convention ++ text "fn"

def endsInDots (params : List BareParam) : Bool :=
  match params.getLast? with
  | some (.mk _ _ none) => true
  | _ => false

mutual

def tyDocs (r : Rows) (place : Place) : Ty → List Doc
  | .path start segments => pathDocs start (segmentDocRows r place segments)
  | .qualified self start traitPath rest =>
    text "<" ++ tyDocs r .type self ++
      (if traitPath.isEmpty then []
        else text " as " ++ pathDocs start (segmentDocRows r .type traitPath)) ++
      text ">" ++ belowDocs (segmentDocRows r place rest)
  | .tuple elems _ => text "(" ++ tupleRows (tyDocRows r elems) ++ text ")"
  | .paren t => text "(" ++ tyDocs r .type t ++ text ")"
  | .slice t => text "[" ++ tyDocs r .type t ++ text "]"
  | .array t length => text "[" ++ tyDocs r .type t ++ text "; " ++ r.expr length ++ text "]"
  | .reference life isMut t =>
    text ("&" ++ (life.map fun n => "'" ++ n ++ " ").getD "") ++ wordIf isMut "mut" ++
      tyDocs r .type t
  | .pointer isMut t => text (if isMut then "*mut " else "*const ") ++ tyDocs r .type t
  | .function head params _ output =>
    functionHeadDocs r head ++ text "(" ++
      listedUpTo (endsInDots params) step (paramDocRows r params) ++ text ")" ++
      outputDocs r output
  | .never => text "!"
  | .infer => text "_"
  | .traitObject _ bounds _ => text "dyn " ++ joinedDocs " + " (boundDocRows r bounds)
  | .implTrait bounds _ => text "impl " ++ joinedDocs " + " (boundDocRows r bounds)
  | .macroCall m => macroCallDocs m none false
  | .verbatim row => [withoutLayout "Type" row]

def tyDocRows (r : Rows) : List Ty → List (List Doc)
  | [] => []
  | t :: rest => tyDocs r .type t :: tyDocRows r rest

def paramDocRows (r : Rows) : List BareParam → List (List Doc)
  | [] => []
  | .mk marks name t :: rest =>
    (marksDocs r marks ++ text ((name.map (· ++ ": ")).getD "") ++ dotsOrTyDocs r t) ::
      paramDocRows r rest

def dotsOrTyDocs (r : Rows) : Option Ty → List Doc
  | some t => tyDocs r .type t
  | none => text "..."

def segmentDocRows (r : Rows) (place : Place) : List Segment → List (List Doc)
  | [] => []
  | .mk name args :: rest => (text name ++ argumentsDocs r place args) :: segmentDocRows r place rest

def argumentsDocs (r : Rows) (place : Place) : Arguments → List Doc
  | .none => []
  | .angle _ args _ =>
    if args.isEmpty then []
    else
      text (if place = .value then "::<" else "<") ++ listed step (argumentDocRows r args) ++
        text ">"
  | .round inputs _ output =>
    block step (text "(" ++ outdented (softBreak ++ commaRows 0 (tyDocRows r inputs)) ++ text ")" ++
      outputDocs r output)

def argumentDocRows (r : Rows) : List Argument → List (List Doc)
  | [] => []
  | .life name :: rest => text ("'" ++ name) :: argumentDocRows r rest
  | .type t :: rest => tyDocs r .type t :: argumentDocRows r rest
  | .const value :: rest => constDocs r value :: argumentDocRows r rest
  | .binding name args t :: rest =>
    (text name ++ argumentsDocs r .type args ++ text " = " ++ tyDocs r .type t) ::
      argumentDocRows r rest
  | .constBinding name args value :: rest =>
    (text name ++ argumentsDocs r .type args ++ text " = " ++ constDocs r value) ::
      argumentDocRows r rest
  | .constraint name args bounds _ :: rest =>
    (text name ++ argumentsDocs r .type args ++ fill step (boundDocs ": " (boundDocRows r bounds))) ::
      argumentDocRows r rest

def boundDocRows (r : Rows) : List Bound → List (List Doc)
  | [] => []
  | .life name :: rest => text ("'" ++ name) :: boundDocRows r rest
  | .trait isParen isMaybe binder start segments :: rest =>
    let path := text (if isMaybe then "?" else "") ++ binderDocs r binder ++
      pathDocs start (segmentDocRows r .type segments)
    (if isParen then text "(" ++ path ++ text ")" else path) :: boundDocRows r rest
  | .captured params _ :: rest =>
    (text "use<" ++ joinedDocs ", " (params.map capturedDocs) ++ text ">") :: boundDocRows r rest
  | .verbatim row :: rest => [withoutLayout "TypeParamBound" row] :: boundDocRows r rest

def outputDocs (r : Rows) : Option Ty → List Doc
  | some t => text " -> " ++ tyDocs r .type t
  | none => []

end

/-! ## Parameters of declarations -/

def lifeDocs (name : String) : List Doc := text ("'" ++ name)

def genericDocs (r : Rows) : Generic → List Doc
  | .life marks name bounds _ =>
    marksDocs r marks ++ lifeDocs name ++
      if bounds.isEmpty then [] else text ": " ++ joinedDocs " + " (bounds.map lifeDocs)
  | .type marks name bounds _ default =>
    marksDocs r marks ++ text name ++
      fill step (boundDocs ": " (boundDocRows r bounds) ++
        (default.map fun t => space ++ text "= " ++ tyDocs r .type t).getD [])
  | .const marks name t default =>
    marksDocs r marks ++ text ("const " ++ name ++ ": ") ++ tyDocs r .type t ++
      (default.map fun e => text " = " ++ constDocs r e).getD []

def genericsDocs (r : Rows) (g : Generics) : List Doc :=
  if g.params.isEmpty then []
  else text "<" ++ listed 0 (g.params.map (genericDocs r)) ++ text ">"

def boundGenericsDocs (r : Rows) (g : Generics) : List Doc :=
  text "for<" ++ joinedDocs ", " (g.params.map (genericDocs r)) ++ text "> "

def demandDocs (r : Rows) : Demand → List Doc
  | .life name bounds _ =>
    lifeDocs name ++ text ":" ++ fill step (boundDocs " " (bounds.map lifeDocs))
  | .type binder t bounds _ =>
    binderDocs r binder ++ tyDocs r .type t ++ text ":" ++
      fill (if bounds.length = 1 then 0 else step) (boundDocs " " (boundDocRows r bounds))

def demandsBeforeBody (r : Rows) (d : Demands) : List Doc :=
  if d.items.isEmpty then text " "
  else
    outdented hardBreak ++ text "where" ++ hardBreak ++
      outdented (d.items.flatMap fun d => demandDocs r d ++ text "," ++ hardBreak)

def demandsBeforeEnd (r : Rows) (d : Demands) : List Doc :=
  if d.items.isEmpty then text ";"
  else
    outdented hardBreak ++ text "where" ++ hardBreak ++ ended (d.items.map (demandDocs r))
where
  ended : List (List Doc) → List Doc
    | [] => []
    | [row] => row ++ text ";"
    | row :: rest => row ++ text "," ++ hardBreak ++ ended rest

def demandsBeforeValue (r : Rows) (d : Demands) : List Doc :=
  if d.items.isEmpty then text " "
  else
    outdented space ++ text "where" ++ space ++
      outdented (commaRows 1 (d.items.map (demandDocs r)))

def demandsInLine (r : Rows) (d : Demands) : List Doc :=
  if d.items.isEmpty then text ";"
  else
    outdented space ++ text "where" ++ space ++ filledRows (d.items.map (demandDocs r)) ++ text ";"

end Callwire.Layout
