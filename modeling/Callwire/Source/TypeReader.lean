import Callwire.Source.Grammar

/-!
# Reading types

Paths, bounds, types and generic parameters, in any grammar. Round brackets
after a path are parameters in a bound only.
-/

set_option autoImplicit false

namespace Callwire.Source.Reader

/-! ## Paths -/

def moduleWords : List String := ["super", "self", "crate", "try"]

def closesAngle (ts : Tokens) : Bool := aheadOp ">" ts

def aheadAngle (inExpression : Bool) (ts : Tokens) : Bool :=
  (!inExpression && aheadOp "<" ts && !aheadOp "<=" ts) ||
    (aheadOp "::" ts && aheadThird (aheadOp "<") ts)

def blockRow (g : Grammar) : Reader Tokens := do return [(← body g).tokens]

def aheadConst (ts : Tokens) : Bool := aheadLiteral ts || aheadGroup .curly ts

def literalRow : Reader Tokens := do
  match ← get with
  | .mark '-' _ :: .literal l :: rest => do set rest; return op "-" ++ [.literal l]
  | t :: rest => do set rest; return [t]
  | [] => failure

def constArgument (g : Grammar) : Reader Tokens := do
  if aheadGroup .curly (← get) then blockRow g
  else
    guard (aheadLiteral (← get))
    literalRow

/-! ## Parameters of declarations -/

def livesUntil (stop : Tokens → Bool) : Nat → Reader (List String × Bool)
  | 0 => failure
  | fuel + 1 => do
    if stop (← get) then return ([], true)
    let n ← life
    if !(← tryOp "+") then return ([n], false)
    let (rest, trailing) ← livesUntil stop fuel
    return (n :: rest, trailing)

def stopsAt (ops : List String) (ts : Tokens) : Bool := ops.any fun s => aheadOp s ts

mutual

def binderRow (g : Grammar) : Nat → Reader Tokens
  | 0 => failure
  | fuel + 1 => do
    markOp "<"
    let (params, trailing) ← commas (generic g fuel) closesAngle
    markOp ">"
    return separated trailing (params.map (Generic.declared true))

def binder (g : Grammar) : Nat → Reader (Option Tokens)
  | 0 => failure
  | fuel + 1 => do if ← tryWord "for" then return some (← binderRow g fuel) else return none

def segments (g : Grammar) (inExpression : Bool) : Nat → Reader (List Segment)
  | 0 => failure
  | fuel + 1 => do
    let s ← segment g inExpression fuel
    if aheadOp "::" (← get) && !aheadThird (aheadGroup .round) (← get) then
      markOp "::"
      return s :: (← segments g inExpression fuel)
    return [s]

def segment (g : Grammar) (inExpression : Bool) : Nat → Reader Segment
  | 0 => failure
  | fuel + 1 => do
    let ts ← get
    if moduleWords.any (aheadWord · ts) then return .plain (← anyName)
    let n ← if aheadWord "Self" ts then anyName else name
    if aheadAngle inExpression (← get) then return .mk n (← angle g fuel)
    return .plain n

def angle (g : Grammar) : Nat → Reader Arguments
  | 0 => failure
  | fuel + 1 => do
    let turbofish ← tryOp "::"
    markOp "<"
    let (args, trailing) ← commas (argument g fuel) closesAngle
    markOp ">"
    return .angle turbofish args trailing

def argument (g : Grammar) : Nat → Reader Argument
  | 0 => failure
  | fuel + 1 => do
    let ts ← get
    if aheadLife ts && !aheadOp "+" (ts.drop 2) then return .life (← life)
    if aheadConst ts then return .const (← constArgument g)
    let t ← g.ty true
    match t with
    | .path .scope [.mk n args] =>
      if ← tryOp "=" then
        if aheadConst (← get) then return .constBinding n args (← constArgument g)
        else return .binding n args (← g.ty true)
      else if ← tryOp ":" then
        let (bounds, trailing) ← boundsUntil g (stopsAt [",", ">"]) fuel
        return .constraint n args bounds trailing
      else return .type t
    | _ => return .type t

def path (g : Grammar) (inExpression : Bool) : Nat → Reader Path
  | 0 => failure
  | fuel + 1 => do
    let start ← if ← tryOp "::" then pure Start.absolute else pure Start.scope
    return (start, ← segments g inExpression fuel)

def boundsUntil (g : Grammar) (stop : Tokens → Bool) : Nat → Reader (List Bound × Bool)
  | 0 => failure
  | fuel + 1 => do
    if stop (← get) then return ([], true)
    let b ← bound g false true fuel
    if !(← tryOp "+") then return ([b], false)
    let (rest, trailing) ← boundsUntil g stop fuel
    return (b :: rest, trailing)

def bound (g : Grammar) (capturing : Bool) (constant : Bool) : Nat → Reader Bound
  | 0 => failure
  | fuel + 1 => do
    if aheadLife (← get) then return .life (← life)
    if ← tryWord "use" then
      guard capturing
      let one : Reader Captured := do
        if let some n ← tryLife then return .life n
        if ← tryWord "Self" then return .name "Self"
        return .name (← name)
      markOp "<"
      let (params, trailing) ← commas one closesAngle
      markOp ">"
      return .captured params trailing
    let before ← get
    match before with
    | .group .round inner :: rest => do
      set rest
      match ← inside (traitBound g constant fuel) inner with
      | some (isMaybe, b, p) => return .trait true isMaybe b p.1 p.2
      | none => return .verbatim (← since before)
    | _ => do
      match ← traitBound g constant fuel with
      | some (isMaybe, b, p) => return .trait false isMaybe b p.1 p.2
      | none => return .verbatim (← since before)

def traitBound (g : Grammar) (constant : Bool) :
    Nat → Reader (Option (Bool × Option Tokens × Path))
  | 0 => failure
  | fuel + 1 => do
    let early ← binder g fuel
    let isConst ← match ← get with
      | .group .square [.name "const"] :: rest => do set rest; pure true
      | _ => tryWord "const"
    guard (constant || !isConst)
    let isMaybe ← tryOp "?"
    let b ← if early.isNone && isMaybe then binder g fuel else pure early
    let (start, segs) ← path g false fuel
    let segs ← applied g segs
    guard !(isMaybe && b.isSome)
    return if isConst then none else some (isMaybe, b, start, segs)

def applied (g : Grammar) (segs : List Segment) : Reader (List Segment) := do
  let ts ← get
  let colons := aheadOp "::" ts && aheadThird (aheadGroup .round) ts
  match segs.reverse with
  | .mk n args :: front =>
    if args.isEmpty && (aheadGroup .round ts || colons) then
      if colons then markOp "::"
      let (inputs, trailing) ← inside (commas (g.ty true) List.isEmpty) (← group .round)
      let output ← output g false
      return front.reverse ++ [.mk n (.round inputs trailing output)]
    else return segs
  | [] => return segs

def output (g : Grammar) (allowPlus : Bool) : Reader (Option Ty) := do
  if ← tryOp "->" then return some (← g.ty allowPlus) else return none

def generic (g : Grammar) : Nat → Reader Generic
  | 0 => failure
  | fuel + 1 => do
    let marks ← marks g
    let stop := stopsAt [",", ">", "="]
    if aheadLife (← get) then
      let n ← life
      if ← tryOp ":" then
        let (bounds, trailing) ← livesUntil (stopsAt [",", ">"]) fuel
        return .life marks n bounds trailing
      return .life marks n [] false
    if ← tryWord "const" then
      let n ← name
      markOp ":"
      let t ← g.ty true
      if !(← tryOp "=") then return .const marks n t none
      if aheadName (← get) then return .const marks n t (some [.name (← name)])
      return .const marks n t (some (← constArgument g))
    let n ← name
    let (bounds, trailing) ←
      if ← tryOp ":" then boundsUntil g stop fuel else pure ([], false)
    if ← tryOp "=" then return .type marks n bounds trailing (some (← g.ty true))
    return .type marks n bounds trailing none

end

/-- Steps enough for a row: each part of a path takes a tree or more. -/
def stepsFor (ts : Tokens) : Nat := 4 * sizeOfTokens ts + 8

def stepsAhead : Reader Nat := do return stepsFor (← get)

def anyPath (g : Grammar) (inExpression : Bool) : Reader Path := do
  path g inExpression (← stepsAhead)

def anyBinder (g : Grammar) : Reader (Option Tokens) := do binder g (← stepsAhead)

def anyBound (g : Grammar) (capturing constant : Bool) : Reader Bound := do
  bound g capturing constant (← stepsAhead)

def qualifiedPath (g : Grammar) (inExpression : Bool) : Reader Ty := do
  if !aheadOp "<" (← get) then
    let (start, segs) ← anyPath g inExpression
    return .path start segs
  markOp "<"
  let self ← g.ty true
  let (start, front) ← if ← tryWord "as" then anyPath g false else pure (.scope, [])
  markOp ">"
  markOp "::"
  let fuel ← stepsAhead
  return .qualified self start front (← rest fuel)
where
  rest : Nat → Reader (List Segment)
    | 0 => failure
    | fuel + 1 => do
      let s ← segment g inExpression fuel
      if ← tryOp "::" then return s :: (← rest fuel) else return [s]

/-! ## Types -/

def aheadBound (constant : Bool) (ts : Tokens) : Bool :=
  aheadAnyName ts || aheadOp "::" ts || aheadOp "?" ts || aheadLife ts || aheadGroup .round ts ||
    (constant && aheadGroup .square ts)

def bounds (g : Grammar) (allowPlus capturing constant : Bool) : Nat → Reader (List Bound × Bool)
  | 0 => failure
  | fuel + 1 => do
    let b ← anyBound g capturing constant
    if !(allowPlus && aheadOp "+" (← get)) then return ([b], false)
    markOp "+"
    if !aheadBound constant (← get) then return ([b], true)
    let (rest, trailing) ← bounds g allowPlus capturing constant fuel
    return (b :: rest, trailing)

def someBounds (g : Grammar) (allowPlus capturing constant : Bool) :
    Reader (List Bound × Bool) := do
  let (bs, trailing) ← bounds g allowPlus capturing constant ((← get).length + 1)
  guard (bs.any Bound.isTrait)
  return (bs, trailing)

def moreBounds (g : Grammar) : Nat → Reader (List Bound)
  | 0 => failure
  | fuel + 1 => do
    if ← tryOp "+" then return (← anyBound g false false) :: (← moreBounds g fuel)
    else return []

def bareDots (marks : List Mark) : Reader BareParam := do
  let name ← if aheadOp "..." (← get) then pure none else do
    let n ← anyName
    markOp ":"
    pure (some n)
  markOp "..."
  return .mk marks name none

def aheadDots (ts : Tokens) : Bool :=
  aheadOp "..." ts ||
    ((aheadName ts || aheadWord "_" ts) && aheadSecond (aheadOp ":") ts &&
      aheadThird (aheadOp "...") ts)

def bareParam (g : Grammar) (isFirst : Bool) (marks : List Mark) : Reader BareParam := do
  let before ← get
  let isMutSelf := isFirst && aheadWord "mut" before && aheadSecond (aheadWord "self") before
  if isMutSelf then word "mut"
  let ts ← get
  let isNamed := (aheadName ts || aheadWord "_" ts || (isFirst && aheadWord "self" ts)) &&
    aheadSecond (aheadOp ":") ts && !aheadSecond (aheadOp "::") ts
  let n ← if isNamed then some <$> anyName else pure none
  if isNamed then markOp ":"
  if isMutSelf && !isNamed then
    word "self"
    return .mk marks none (some (.verbatim (← since before)))
  let t ← g.ty true
  if isMutSelf then return .mk marks none (some (.verbatim (← since before)))
  return .mk marks n (some t)

def bareParams (g : Grammar) (isFirst : Bool) : Nat → Reader (List BareParam × Bool)
  | 0 => failure
  | fuel + 1 => do
    if ← isDone then return ([], !isFirst)
    let marks ← marks g
    if aheadDots (← get) then
      let p ← bareDots marks
      let trailing ← tryOp ","
      guard (← isDone)
      return ([p], trailing)
    let p ← bareParam g isFirst marks
    if ← isDone then return ([p], false)
    markOp ","
    let (rest, trailing) ← bareParams g false fuel
    return (p :: rest, trailing)

def functionType (g : Grammar) (binder : Option Tokens) : Reader Ty := do
  let isUnsafe ← tryWord "unsafe"
  let convention ← convention
  word "fn"
  let inner ← group .round
  let (params, trailing) ← inside (bareParams g true (inner.length + 1)) inner
  return .function ⟨binder, isUnsafe, convention⟩ params trailing (← output g false)

def singleBound : Ty → Option Bound
  | .path start segments => some (.trait true false none start segments)
  | .traitObject false [.trait _ isMaybe b start segments] false =>
    some (.trait true isMaybe b start segments)
  | .traitObject false [b] false => some b
  | _ => none

def roundType (g : Grammar) (allowPlus : Bool) (inner : Tokens) : Reader Ty := do
  if inner.isEmpty then return .tuple [] false
  if aheadLife inner then
    let (bs, trailing) ← inside (someBounds g true false false) inner
    return .paren (.traitObject false bs trailing)
  if aheadOp "?" inner then
    match ← inside (traitBound g false (stepsFor inner)) inner with
    | some (isMaybe, b, p) =>
      let more ← moreBounds g ((← get).length + 1)
      return .traitObject false (.trait true isMaybe b p.1 p.2 :: more) false
    | none => failure
  let (first, rest) ← inside (do return (← g.ty true, ← remainder)) inner
  if rest.isEmpty then
    match allowPlus && aheadOp "+" (← get), singleBound first with
    | true, some b =>
      return .traitObject false (b :: (← moreBounds g ((← get).length + 1))) false
    | _, _ => return .paren first
  else
    let (elems, trailing) ← inside (do
      markOp ","
      listOf (g.ty true) (markOp ",") List.isEmpty (inner.length + 1) true) rest
    return .tuple (first :: elems) trailing

def pathType (g : Grammar) (allowPlus : Bool) (binder : Option Tokens) : Reader Ty := do
  match ← qualifiedPath g false with
  | .path start segs =>
    let ts ← get
    if bangAhead ts && segs.all Segment.isPlain then
      return .macroCall (← macroRest ⟨start = .absolute, segs.map Segment.name⟩)
    let first := Bound.trait false false binder start segs
    if allowPlus && aheadOp "+" ts then
      markOp "+"
      if !aheadBound false (← get) then return .traitObject false [first] true
      let (rest, trailing) ← bounds g true false false ((← get).length + 1)
      return .traitObject false (first :: rest) trailing
    if binder.isSome then return .traitObject false [first] false
    return .path start segs
  | t => return t

def typeIn (g : Grammar) (allowPlus : Bool) : Reader Ty := do
  let binder ← anyBinder g
  let ts ← get
  if binder.isSome then
    guard (aheadName ts || ["fn", "unsafe", "extern", "super", "self", "Self", "crate"].any
      (aheadWord · ts))
  match ts with
  | .group .round inner :: rest => do set rest; roundType g allowPlus inner
  | .group .square inner :: rest => do
    set rest
    inside (do
      let t ← g.ty true
      if ← tryOp ";" then return .array t (← g.expr true).tokens else return .slice t) inner
  | _ =>
    if ["fn", "unsafe", "extern"].any (aheadWord · ts) then functionType g binder
    else if aheadWord "builtin" ts && aheadSecond (aheadOp "#") ts then
      modify (List.drop 2)
      discard name
      discard (group .round)
      return .verbatim (← since ts)
    else if aheadName ts || aheadOp "::" ts || aheadOp "<" ts ||
        ["super", "self", "Self", "crate"].any (aheadWord · ts) then
      pathType g allowPlus binder
    else if ← tryWord "dyn" then
      let isThin ← tryOp "*"
      let (bs, trailing) ← someBounds g allowPlus false false
      if isThin then return .verbatim (← since ts) else return .traitObject true bs trailing
    else if ← tryOp "*" then
      let isMut ← tryWord "mut"
      if !isMut then word "const"
      return .pointer isMut (← g.ty false)
    else if ← tryOp "&" then
      let lf ← tryLife
      let isMut ← tryWord "mut"
      return .reference lf isMut (← g.ty false)
    else if aheadOp "!" ts && !aheadOp "=" ts then do markOp "!"; return .never
    else if ← tryWord "impl" then
      let (bs, trailing) ← someBounds g allowPlus true true
      return .implTrait bs trailing
    else if ← tryWord "_" then return .infer
    else if aheadLife ts then
      let (bs, trailing) ← someBounds g allowPlus false false
      return .traitObject false bs trailing
    else failure

/-! ## Generic parameters and demands -/

def declaredGeneric (g : Grammar) : Reader Generic := do
  let before ← get
  let marks ← marks g
  if ← tryWord "_" then return .type marks "_" [] false none
  set before
  generic g (← stepsAhead)

def generics (g : Grammar) : Reader Generics := do
  if !(← tryOp "<") then return .none
  let (params, trailing) ← commas (declaredGeneric g) closesAngle
  markOp ">"
  return ⟨params, trailing⟩

def demandEnds (ts : Tokens) : Bool :=
  ts.isEmpty || aheadGroup .curly ts || stopsAt [",", ";", "="] ts ||
    (aheadOp ":" ts && !aheadOp "::" ts)

def demand (g : Grammar) : Reader Demand := do
  if aheadLife (← get) && aheadOp ":" ((← get).drop 2) then
    let n ← life
    markOp ":"
    let (bounds, trailing) ← livesUntil
      (fun ts => ts.isEmpty || aheadGroup .curly ts || stopsAt [",", ";", ":", "="] ts)
      ((← get).length + 1)
    return .life n bounds trailing
  let b ← anyBinder g
  let t ← g.ty true
  markOp ":"
  let (bounds, trailing) ← boundsUntil g demandEnds (← stepsAhead)
  return .type b t bounds trailing

def demandList (g : Grammar) : Nat → Reader (List Demand × Bool)
  | 0 => failure
  | fuel + 1 => do
    if demandEnds (← get) then return ([], true)
    let d ← demand g
    if !(← tryOp ",") then return ([d], false)
    let (rest, trailing) ← demandList g fuel
    return (d :: rest, trailing)

def demands (g : Grammar) : Reader Demands := do
  if !(← tryWord "where") then return .none
  let (items, trailing) ← demandList g ((← get).length + 1)
  return ⟨items, trailing⟩

end Callwire.Source.Reader
