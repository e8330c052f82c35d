import Callwire.Source.Attribute

/-!
# Types and paths

The syntax of types, as payload types are written in service descriptions and
in traits. Parts that a type only carries along are kept as rows of trees: the
length of an array, the value of a constant argument and the parameters of a
binder.
-/

set_option autoImplicit false

namespace Callwire.Source

inductive Start
  | scope
  | absolute
  deriving DecidableEq, Repr

structure FunctionHead where
  binder : Option Tokens
  isUnsafe : Bool
  convention : Convention

inductive Captured
  | life (name : String)
  | name (name : String)

mutual

inductive Ty
  | path (start : Start) (segments : List Segment)
  /-- `<T as Trait>::Name`; `traitPath` is empty for `<T>::Name`. -/
  | qualified (self : Ty) (start : Start) (traitPath : List Segment) (rest : List Segment)
  | tuple (elems : List Ty) (trailing : Bool)
  | paren (t : Ty)
  | slice (t : Ty)
  | array (t : Ty) (length : Tokens)
  | reference (life : Option String) (isMut : Bool) (t : Ty)
  | pointer (isMut : Bool) (t : Ty)
  | function (head : FunctionHead) (params : List BareParam) (trailing : Bool)
      (output : Option Ty)
  | never
  | infer
  | traitObject (isDyn : Bool) (bounds : List Bound) (trailing : Bool)
  | implTrait (bounds : List Bound) (trailing : Bool)
  | macroCall (m : MacroCall)
  | verbatim (row : Tokens)

inductive BareParam
  | mk (marks : List Mark) (name : Option String) (t : Option Ty)

inductive Segment
  | mk (name : String) (args : Arguments)

inductive Arguments
  | none
  | angle (turbofish : Bool) (args : List Argument) (trailing : Bool)
  | round (inputs : List Ty) (trailing : Bool) (output : Option Ty)

inductive Argument
  | life (name : String)
  | type (t : Ty)
  | const (value : Tokens)
  | binding (name : String) (args : Arguments) (t : Ty)
  | constBinding (name : String) (args : Arguments) (value : Tokens)
  | constraint (name : String) (args : Arguments) (bounds : List Bound) (trailing : Bool)

/-- `binder` holds the parameters of a `for<..>`, without the brackets. -/
inductive Bound
  | life (name : String)
  | trait (isParen : Bool) (isMaybe : Bool) (binder : Option Tokens) (start : Start)
      (segments : List Segment)
  | captured (params : List Captured) (trailing : Bool)
  | verbatim (row : Tokens)

end

abbrev Path := Start × List Segment

def Segment.name : Segment → String
  | .mk name _ => name

def Segment.isPlain : Segment → Bool
  | .mk _ .none => true
  | _ => false

def pathText (segments : List Segment) : String :=
  "::".intercalate (segments.map (·.name))

def Segment.plain (name : String) : Segment := .mk name .none

def Arguments.isEmpty : Arguments → Bool
  | .none => true
  | .angle _ args _ => args.isEmpty
  | .round .. => false

def Argument.isLife : Argument → Bool
  | .life _ => true
  | _ => false

def Bound.isTrait : Bound → Bool
  | .trait .. => true
  | .verbatim _ => true
  | _ => false

def Captured.isLife : Captured → Bool
  | .life _ => true
  | .name _ => false

def Captured.tokens : Captured → Tokens
  | .life n => lifetime n
  | .name n => [.name n]

def binderTokens : Option Tokens → Tokens
  | some row => .name "for" :: op "<" ++ row ++ op ">"
  | none => []

def FunctionHead.tokens (h : FunctionHead) : Tokens :=
  binderTokens h.binder ++ wordIf h.isUnsafe "unsafe" ++ h.convention.tokens ++ [.name "fn"]

def pathTokens (start : Start) (rows : List Tokens) : Tokens :=
  match start with
  | .scope => (below rows).drop 2
  | .absolute => below rows

mutual

def Ty.tokens : Ty → Tokens
  | .path start segments => pathTokens start (segmentRows segments)
  | .qualified self _ [] rest => op "<" ++ self.tokens ++ op ">" ++ below (segmentRows rest)
  | .qualified self start traitPath rest =>
    op "<" ++ self.tokens ++ .name "as" :: pathTokens start (segmentRows traitPath) ++ op ">" ++
      below (segmentRows rest)
  | .tuple elems trailing => [round (separated trailing (tyRows elems))]
  | .paren t => [round t.tokens]
  | .slice t => [square t.tokens]
  | .array t length => [square (t.tokens ++ op ";" ++ length)]
  | .reference life isMut t =>
    op "&" ++ (life.map lifetime).getD [] ++ wordIf isMut "mut" ++ t.tokens
  | .pointer isMut t => op "*" ++ .name (if isMut then "mut" else "const") :: t.tokens
  | .function head params trailing output =>
    head.tokens ++ round (separated trailing (bareRows params)) :: arrow output
  | .never => op "!"
  | .infer => [.name "_"]
  | .traitObject isDyn bounds trailing => wordIf isDyn "dyn" ++ plus trailing (boundRows bounds)
  | .implTrait bounds trailing => .name "impl" :: plus trailing (boundRows bounds)
  | .macroCall m => m.tokens
  | .verbatim row => row

def tyRows : List Ty → List Tokens
  | [] => []
  | t :: rest => t.tokens :: tyRows rest

def bareRows : List BareParam → List Tokens
  | [] => []
  | .mk marks name t :: rest =>
    (markTokens marks ++ (name.map fun n => Tree.name n :: op ":").getD [] ++ orDots t) ::
      bareRows rest

def orDots : Option Ty → Tokens
  | some t => t.tokens
  | none => op "..."

def segmentRows : List Segment → List Tokens
  | [] => []
  | .mk name args :: rest => (.name name :: args.tokens) :: segmentRows rest

def Arguments.tokens : Arguments → Tokens
  | .none => []
  | .angle turbofish args trailing =>
    opIf turbofish "::" ++ op "<" ++
      inFront trailing (args.map Argument.isLife) (argumentRows args) ++ op ">"
  | .round inputs trailing output =>
    round (separated trailing (tyRows inputs)) :: arrow output

def argumentRows : List Argument → List Tokens
  | [] => []
  | .life name :: rest => lifetime name :: argumentRows rest
  | .type t :: rest => t.tokens :: argumentRows rest
  | .const value :: rest => value :: argumentRows rest
  | .binding name args t :: rest =>
    (.name name :: args.tokens ++ op "=" ++ t.tokens) :: argumentRows rest
  | .constBinding name args value :: rest =>
    (.name name :: args.tokens ++ op "=" ++ value) :: argumentRows rest
  | .constraint name args bounds trailing :: rest =>
    (.name name :: args.tokens ++ op ":" ++ plus trailing (boundRows bounds)) ::
      argumentRows rest

def boundRows : List Bound → List Tokens
  | [] => []
  | .life name :: rest => lifetime name :: boundRows rest
  | .trait isParen isMaybe binder start segments :: rest =>
    let row := opIf isMaybe "?" ++ binderTokens binder ++ pathTokens start (segmentRows segments)
    (if isParen then [round row] else row) :: boundRows rest
  | .captured params trailing :: rest =>
    (.name "use" :: op "<" ++
      inFront trailing (params.map Captured.isLife) (params.map Captured.tokens) ++ op ">") ::
      boundRows rest
  | .verbatim row :: rest => row :: boundRows rest

def arrow : Option Ty → Tokens
  | some t => op "->" ++ t.tokens
  | none => []

end

def Path.tokens (p : Path) : Tokens := pathTokens p.1 (segmentRows p.2)

/-! ## Parameters of declarations -/

inductive Generic
  | life (marks : List Mark) (name : String) (bounds : List String) (trailing : Bool)
  | type (marks : List Mark) (name : String) (bounds : List Bound) (trailing : Bool)
      (default : Option Ty)
  | const (marks : List Mark) (name : String) (t : Ty) (default : Option Tokens)

structure Generics where
  params : List Generic
  trailing : Bool

def Generics.none : Generics := ⟨[], false⟩

def colonTokens (trailing : Bool) (rows : List Tokens) : Tokens :=
  if rows.isEmpty then [] else op ":" ++ plus trailing rows

def defaultTokens : Option Tokens → Tokens
  | some row => op "=" ++ row
  | none => []

def Generic.declared (full : Bool) : Generic → Tokens
  | .life marks n bounds trailing =>
    markTokens marks ++ lifetime n ++ colonTokens trailing (bounds.map lifetime)
  | .type marks n bounds trailing default =>
    markTokens marks ++ .name n :: colonTokens trailing (boundRows bounds) ++
      if full then defaultTokens (default.map Ty.tokens) else []
  | .const marks n t default =>
    markTokens marks ++ .name "const" :: .name n :: op ":" ++ t.tokens ++
      if full then defaultTokens default else []

def Generic.used : Generic → Tokens
  | .life _ n _ _ => lifetime n
  | .type _ n _ _ _ => [.name n]
  | .const _ n _ _ => [.name n]

def Generic.isLife : Generic → Bool
  | .life .. => true
  | _ => false

def Generics.row (g : Generics) (write : Generic → Tokens) : Tokens :=
  if g.params.isEmpty then []
  else op "<" ++ inFront g.trailing (g.params.map Generic.isLife) (g.params.map write) ++ op ">"

def Generics.tokens (g : Generics) : Tokens := g.row (Generic.declared true)

inductive Demand
  | life (name : String) (bounds : List String) (trailing : Bool)
  | type (binder : Option Tokens) (t : Ty) (bounds : List Bound) (trailing : Bool)

structure Demands where
  items : List Demand
  trailing : Bool

def Demands.none : Demands := ⟨[], false⟩

def Demand.tokens : Demand → Tokens
  | .life name bounds trailing =>
    lifetime name ++ op ":" ++ plus trailing (bounds.map lifetime)
  | .type binder t bounds trailing =>
    binderTokens binder ++ t.tokens ++ op ":" ++ plus trailing (boundRows bounds)

def Demands.tokens (d : Demands) : Tokens :=
  if d.items.isEmpty then []
  else .name "where" :: separated d.trailing (d.items.map Demand.tokens)

end Callwire.Source
