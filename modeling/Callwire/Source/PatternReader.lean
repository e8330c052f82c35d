import Callwire.Source.TypeReader

/-!
# Reading patterns

Patterns with and without alternatives, in any grammar.
-/

set_option autoImplicit false

namespace Callwire.Source.Reader

/-! ## Components -/

def wholeValue (text : String) : Option Nat := do
  let value (base : Nat) (digits : List Char) : Option Nat := do
    let digits := digits.filter (· ≠ '_')
    guard (!digits.isEmpty && digits.all fun c => isHex c && hexValue c < base)
    return digits.foldl (fun n c => n * base + hexValue c) 0
  let n ← match text.toList with
    | '0' :: 'x' :: rest => value 16 rest
    | '0' :: 'o' :: rest => value 8 rest
    | '0' :: 'b' :: rest => value 2 rest
    | digits => value 10 digits
  guard (n < 4294967296)
  return n

def component : Reader Component := do
  match ← get with
  | .literal l :: rest => do
    let some i := wholeValue l | failure
    set rest
    return .index i
  | _ => return .name (← name)

/-! ## Ranges and other values -/

def rangeEnds (ts : Tokens) : Bool :=
  ts.isEmpty || stopsAt ["|", "=", ",", ";"] ts || aheadWord "if" ts ||
    (aheadOp ":" ts && !aheadOp "::" ts)

def constBlock (g : Grammar) : Reader Expr := do
  word "const"
  let b ← body g
  return .block (.worded ["const"]) b.inner b.statements

def rangeBound (g : Grammar) : Reader Tokens := do
  let ts ← get
  if aheadLiteral ts then literalRow
  else if aheadWord "const" ts then return (← constBlock g).tokens
  else return (← qualifiedPath g true).tokens

def rangeRest (g : Grammar) (start : Tokens) : Reader Pattern := do
  let isClosed ← if ← tryOp "..=" then pure true else tryOp "..."
  if !isClosed then markOp ".."
  let sign := op (if isClosed then "..=" else "..")
  if rangeEnds (← get) then
    guard !isClosed
    return .value true (start ++ sign)
  return .value false (start ++ sign ++ (← rangeBound g))

def valueOrRange (g : Grammar) (start : Tokens) : Reader Pattern := do
  if aheadOp ".." (← get) then rangeRest g start else return .value false start

/-! ## Patterns -/

def aheadOr (ts : Tokens) : Bool := aheadOp "|" ts && !aheadOp "||" ts && !aheadOp "|=" ts

def casesAfter (g : Grammar) : Nat → Reader (List Pattern)
  | 0 => failure
  | fuel + 1 => do
    if !aheadOr (← get) then return []
    markOp "|"
    return (← g.single) :: (← casesAfter g fuel)

def pattern (g : Grammar) : Reader Pattern := do
  let leading ← tryOp "|"
  let first ← g.single
  let others ← casesAfter g ((← get).length + 1)
  if leading || !others.isEmpty then return .either leading (first :: others) else return first

def isHalfOpen : Pattern → Bool
  | .value isHalfOpen _ => isHalfOpen
  | _ => false

def isRest : Pattern → Bool
  | .rest => true
  | _ => false

def patternsIn (g : Grammar) (inner : Tokens) : Reader (List Pattern × Bool) :=
  inside (commas (pattern g) List.isEmpty) inner

def fieldPattern (g : Grammar) (marks : List Mark) : Reader FieldPattern := do
  let before ← get
  let isBoxed ← tryWord "box"
  let isRef ← tryWord "ref"
  let isMut ← tryWord "mut"
  let isBare := !(isBoxed || isRef || isMut)
  let c ← if isBare then component else Component.name <$> name
  match c with
  | .name n =>
    if isBare && aheadOp ":" (← get) then
      markOp ":"
      return .mk marks (some c) (← pattern g)
    if isBoxed then return .mk marks none (.verbatim (← since before))
    return .mk marks none (.bind isRef isMut n none)
  | .index _ =>
    markOp ":"
    return .mk marks (some c) (← pattern g)

def fieldPatterns (g : Grammar) : Nat → Bool → Reader (List FieldPattern × Bool × Option (List Mark))
  | 0, _ => failure
  | fuel + 1, trailing => do
    if ← isDone then return ([], trailing, none)
    let marks ← marks g
    if ← tryOp ".." then
      guard (← isDone)
      return ([], trailing, some marks)
    let f ← fieldPattern g marks
    if ← isDone then return ([f], false, none)
    markOp ","
    let (fields, trailing, rest) ← fieldPatterns g fuel true
    return (f :: fields, trailing, rest)

def pathPattern (g : Grammar) : Reader Pattern := do
  let p ← qualifiedPath g true
  if bangAhead (← get) then
    if let .path start segs := p then
      if segs.all Segment.isPlain then
        return .value false (← macroRest ⟨start = .absolute, segs.map Segment.name⟩).tokens
  match ← get with
  | .group .curly inner :: rest => do
    set rest
    let (fields, trailing, dots) ← inside (fieldPatterns g (inner.length + 1) false) inner
    return .record p fields trailing dots
  | .group .round inner :: rest => do
    set rest
    let (elems, trailing) ← patternsIn g inner
    return .wrapped p elems trailing
  | _ => valueOrRange g p.tokens

def bindPattern (g : Grammar) : Reader Pattern := do
  let isRef ← tryWord "ref"
  let isMut ← tryWord "mut"
  let n ← if aheadWord "self" (← get) then anyName else name
  if ← tryOp "@" then return .bind isRef isMut n (some (← g.single))
  return .bind isRef isMut n none

def pathGoesOn (ts : Tokens) : Bool :=
  aheadOp "::" ts || aheadOp "!" ts || aheadGroup .curly ts || aheadGroup .round ts ||
    aheadOp ".." ts

def singlePattern (g : Grammar) : Reader Pattern := do
  let ts ← get
  if (aheadName ts && pathGoesOn (ts.drop 1)) ||
      (aheadWord "self" ts && aheadSecond (aheadOp "::") ts) || aheadOp "::" ts ||
      aheadOp "<" ts || ["Self", "super", "crate"].any (aheadWord · ts) then pathPattern g
  else if ← tryWord "_" then return .wild
  else if ← tryWord "box" then
    discard g.single
    return .verbatim (← since ts)
  else if aheadOp "-" ts || aheadLiteral ts || aheadWord "const" ts then
    guard (!aheadOp "-" ts || aheadLiteral ts)
    valueOrRange g (← rangeBound g)
  else if ["ref", "mut", "self"].any (aheadWord · ts) || aheadName ts then bindPattern g
  else if ← tryOp "&" then
    let isMut ← tryWord "mut"
    return .reference isMut (← g.single)
  else
    match ts with
    | .group .round inner :: rest => do
      set rest
      let (elems, trailing) ← patternsIn g inner
      match elems, trailing with
      | [p], false => if isRest p then return .tuple [p] false else return .paren p
      | _, _ => return .tuple elems trailing
    | .group .square inner :: rest => do
      set rest
      let (elems, trailing) ← patternsIn g inner
      guard (!elems.any isHalfOpen)
      return .slice elems trailing
    | _ =>
      guard (aheadOp ".." ts && !aheadOp "..." ts)
      let isClosed ← tryOp "..="
      if !isClosed then markOp ".."
      if rangeEnds (← get) then
        guard !isClosed
        return .rest
      return .value true (op (if isClosed then "..=" else "..") ++ (← rangeBound g))

end Callwire.Source.Reader
