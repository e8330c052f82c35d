import Callwire.Source.Type

/-!
# Names that types look up

The paths of a type that begin with a name in scope. Of the rows that a type
only carries along every name counts, wherever it stands in them.
-/

set_option autoImplicit false

namespace Callwire.Source

mutual

def Tree.names : Tree → List String
  | .name n => [n]
  | .group _ trees => namesOf trees
  | .mark _ _ | .literal _ => []

def namesOf : Tokens → List String
  | [] => []
  | t :: rest => t.names ++ namesOf rest

end

def rowLookups (row : Tokens) : List (List String) := (namesOf row).map ([·])

/-- A path after two colons is not looked up where it stands. -/
def pathLookups (start : Start) (segments : List Segment) : List (List String) :=
  match start with
  | .scope => [segments.map (·.name)]
  | .absolute => []

mutual

def Ty.lookups : Ty → List (List String)
  | .path start segments => pathLookups start segments ++ segmentLookups segments
  | .qualified self start traitPath rest =>
    self.lookups ++ pathLookups start traitPath ++ segmentLookups traitPath ++
      segmentLookups rest
  | .tuple elems _ => tyLookups elems
  | .paren t => t.lookups
  | .slice t => t.lookups
  | .array t length => t.lookups ++ rowLookups length
  | .reference _ _ t => t.lookups
  | .pointer _ t => t.lookups
  | .function _ params _ output => bareLookups params ++ outputLookups output
  | .never => []
  | .infer => []
  | .traitObject _ bounds _ => boundLookups bounds
  | .implTrait bounds _ => boundLookups bounds
  | .macroCall m => rowLookups m.tokens
  | .verbatim row => rowLookups row

def tyLookups : List Ty → List (List String)
  | [] => []
  | t :: rest => t.lookups ++ tyLookups rest

def bareLookups : List BareParam → List (List String)
  | [] => []
  | .mk _ _ t :: rest => outputLookups t ++ bareLookups rest

def outputLookups : Option Ty → List (List String)
  | some t => t.lookups
  | none => []

def segmentLookups : List Segment → List (List String)
  | [] => []
  | .mk _ args :: rest => args.lookups ++ segmentLookups rest

def Arguments.lookups : Arguments → List (List String)
  | .none => []
  | .angle _ args _ => argumentLookups args
  | .round inputs _ output => tyLookups inputs ++ outputLookups output

def argumentLookups : List Argument → List (List String)
  | [] => []
  | .life _ :: rest => argumentLookups rest
  | .type t :: rest => t.lookups ++ argumentLookups rest
  | .const value :: rest => rowLookups value ++ argumentLookups rest
  | .binding _ args t :: rest => args.lookups ++ t.lookups ++ argumentLookups rest
  | .constBinding _ args value :: rest =>
    args.lookups ++ rowLookups value ++ argumentLookups rest
  | .constraint _ args bounds _ :: rest =>
    args.lookups ++ boundLookups bounds ++ argumentLookups rest

def boundLookups : List Bound → List (List String)
  | [] => []
  | .life _ :: rest => boundLookups rest
  | .trait _ _ _ start segments :: rest =>
    pathLookups start segments ++ segmentLookups segments ++ boundLookups rest
  | .captured params _ :: rest =>
    rowLookups (params.flatMap Captured.tokens) ++ boundLookups rest
  | .verbatim row :: rest => rowLookups row ++ boundLookups rest

end

end Callwire.Source
