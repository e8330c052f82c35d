import Callwire.Source.PatternReader

/-!
# Reading expressions

Operators by how tightly they bind, what may follow an operand, and the forms
that start with a word or a bracket, in any grammar.
-/

set_option autoImplicit false

namespace Callwire.Source.Reader

/-! ## Operators -/

def looseAssign : Nat := 1

def looseRange : Nat := 2

def looseCompare : Nat := 6

def looseCast : Nat := 13

def operators : List (String × Nat) :=
  [("+=", 1), ("-=", 1), ("*=", 1), ("/=", 1), ("%=", 1), ("^=", 1), ("&=", 1), ("|=", 1),
   ("<<=", 1), (">>=", 1), ("&&", 4), ("||", 3), ("<<", 10), (">>", 10), ("==", 6), ("<=", 6),
   ("!=", 6), (">=", 6), ("+", 11), ("-", 11), ("*", 12), ("/", 12), ("%", 12), ("^", 8),
   ("&", 9), ("|", 7), ("<", 6), (">", 6)]

def operatorAhead (ts : Tokens) : Option (String × Nat) :=
  operators.find? fun (s, _) => aheadOp s ts

def aheadAssign (ts : Tokens) : Bool := aheadOp "=" ts && !aheadOp "=>" ts

def bindingAhead (ts : Tokens) : Nat :=
  match operatorAhead ts with
  | some (_, p) => p
  | none =>
    if aheadAssign ts then looseAssign
    else if aheadOp ".." ts then looseRange
    else if aheadWord "as" ts then looseCast
    else 0

def isRange : Expr → Bool
  | .range .. => true
  | _ => false

def isComparison : Expr → Bool
  | .binary _ sign _ => (operators.lookup sign) == some looseCompare
  | _ => false

def rangeStops (allowRecord : Bool) (ts : Tokens) : Bool :=
  ts.isEmpty || (aheadOp "." ts && !aheadOp ".." ts) || (!allowRecord && aheadGroup .curly ts) ||
    aheadWord "as" ts ||
    stopsAt [",", ";", "?", "=>", "=", "+", "/", "%", "^", ">", "<=", "!=", "-=", "*=", "&=", "|=",
      "<<="] ts

def followsOperand (ts : Tokens) : Bool :=
  (aheadOp "." ts && !aheadOp ".." ts) || aheadOp "?" ts || aheadGroup .square ts ||
    aheadGroup .round ts

def rangeDots : Reader Bool := do
  if ← tryOp "..=" then return true
  guard (!aheadOp "..." (← get))
  markOp ".."
  return false

mutual

def operated (g : Grammar) (allowRecord : Bool) (least : Nat) (left : Expr) : Nat → Reader Expr
  | 0 => failure
  | fuel + 1 => do
    let ts ← get
    if isRange left then return left
    match operatorAhead ts with
    | some (sign, p) =>
      if p < least then return left
      guard !(p = looseCompare && isComparison left)
      markOp sign
      let right ← rightOperand g allowRecord p fuel
      operated g allowRecord least (.binary left sign right) fuel
    | none =>
      if least ≤ looseAssign && aheadAssign ts then
        markOp "="
        let right ← rightOperand g allowRecord looseAssign fuel
        operated g allowRecord least (.assign left right) fuel
      else if least ≤ looseRange && aheadOp ".." ts then
        let isClosed ← rangeDots
        let stop ← rangeStop g allowRecord isClosed fuel
        operated g allowRecord least (.range (some left) isClosed stop) fuel
      else if least ≤ looseCast && aheadWord "as" ts then
        word "as"
        let t ← g.ty false
        guard (!followsOperand (← get))
        operated g allowRecord least (.cast left t) fuel
      else return left

def rightOperand (g : Grammar) (allowRecord : Bool) (p : Nat) : Nat → Reader Expr
  | 0 => failure
  | fuel + 1 => do tighter g allowRecord p (← g.unary allowRecord) fuel

def tighter (g : Grammar) (allowRecord : Bool) (p : Nat) (right : Expr) : Nat → Reader Expr
  | 0 => failure
  | fuel + 1 => do
    let before ← get
    let next := bindingAhead before
    if p < next || (p = next && p = looseAssign) then
      let right ← operated g allowRecord next right fuel
      if (← get).length = before.length then return right
      tighter g allowRecord p right fuel
    else return right

def rangeStop (g : Grammar) (allowRecord isClosed : Bool) : Nat → Reader (Option Expr)
  | 0 => failure
  | fuel + 1 => do
    if !isClosed && rangeStops allowRecord (← get) then return none
    return some (← rightOperand g allowRecord looseRange fuel)

end

def operatorSteps : Reader Nat := do return 4 * (← get).length + 8

def operatedFrom (g : Grammar) (allowRecord : Bool) (least : Nat) (left : Expr) : Reader Expr := do
  operated g allowRecord least left (← operatorSteps)

def expression (g : Grammar) (allowRecord : Bool) : Reader Expr := do
  operatedFrom g allowRecord 0 (← g.unary allowRecord)

/-! ## What follows an operand -/

def exprsIn (g : Grammar) (inner : Tokens) : Reader (List Expr × Bool) :=
  inside (commas (g.expr true) List.isEmpty) inner

def pointedIndices (text : String) : Option (List Nat × Bool) := do
  let isOpen := text.endsWith "."
  let parts := ((if isOpen then text.toList.dropLast else text.toList).splitOn '.').map String.ofList
  return (← parts.mapM wholeValue, isOpen)

def isFraction (l : String) : Bool :=
  (l.toList.head?.map Char.isDigit).getD false && (fractional l.toList).isSome

def member (g : Grammar) (e : Expr) : Reader Expr := do
  if ← tryWord "await" then return .await e
  match ← component with
  | .index i => return .field e (.index i)
  | .name n =>
    let generics ← if aheadOp "::" (← get) then angle g (← stepsAhead) else pure .none
    match ← get, generics with
    | .group .round inner :: rest, _ => do
      set rest
      let (args, trailing) ← exprsIn g inner
      return .method e n generics args trailing
    | _, .none => return .field e (.name n)
    | _, _ => failure

def postfixed (g : Grammar) (e : Expr) : Nat → Reader Expr
  | 0 => failure
  | fuel + 1 => do
    match ← get with
    | .group .round inner :: rest => do
      set rest
      let (args, trailing) ← exprsIn g inner
      postfixed g (.call e args trailing) fuel
    | .group .square inner :: rest => do
      set rest
      postfixed g (.index e (← inside (g.expr true) inner)) fuel
    | .mark '?' _ :: rest =>
      if isRange e then return e
      set rest
      postfixed g (.attempt e) fuel
    | .mark '.' joint :: rest =>
      if isRange e || aheadOp ".." (.mark '.' joint :: rest) then return e
      match rest with
      | .literal l :: rest' =>
        if isFraction l then
          let some (indices, isOpen) := pointedIndices l | failure
          set rest'
          let e := indices.foldl (fun e i => Expr.field e (.index i)) e
          if isOpen then postfixed g (← member g e) fuel else postfixed g e fuel
        else
          set rest
          postfixed g (← member g e) fuel
      | _ =>
        set rest
        postfixed g (← member g e) fuel
    | _ => return e

def withPostfixes (g : Grammar) (e : Expr) : Reader Expr := do
  postfixed g e ((← get).length + 1)

/-! ## Operands -/

def aheadExpression (ts : Tokens) : Bool :=
  (aheadAnyName ts && !aheadWord "as" ts) || aheadGroup .round ts || aheadGroup .square ts ||
    aheadGroup .curly ts || aheadLiteral ts || (aheadOp "!" ts && !aheadOp "!=" ts) ||
    (aheadOp "-" ts && !aheadOp "-=" ts && !aheadOp "->" ts) ||
    (aheadOp "*" ts && !aheadOp "*=" ts) || (aheadOp "|" ts && !aheadOp "|=" ts) ||
    (aheadOp "&" ts && !aheadOp "&=" ts) || aheadOp ".." ts ||
    (aheadOp "<" ts && !aheadOp "<=" ts && !aheadOp "<<=" ts) || aheadOp "::" ts ||
    aheadLife ts || aheadOp "#" ts

def optionalExpr (g : Grammar) : Reader (Option Expr) := whenAhead aheadExpression (g.expr true)

def fieldValue (g : Grammar) : Reader FieldValue := do
  let marks ← marks g
  let c ← component
  if c.isName && !aheadOp ":" (← get) then return .mk marks c none
  markOp ":"
  return .mk marks c (some (← g.expr true))

def fieldValues (g : Grammar) : Nat → Bool → Reader (List FieldValue × Bool × Bool × Option Expr)
  | 0, _ => failure
  | fuel + 1, trailing => do
    if ← isDone then return ([], trailing, false, none)
    if ← tryOp ".." then
      if ← isDone then return ([], trailing, true, none)
      return ([], trailing, true, some (← g.expr true))
    let f ← fieldValue g
    if ← isDone then return ([f], false, false, none)
    markOp ","
    let (fields, trailing, hasRest, rest) ← fieldValues g fuel true
    return (f :: fields, trailing, hasRest, rest)

def pathExpression (g : Grammar) (allowRecord : Bool) : Reader Expr := do
  let p ← qualifiedPath g true
  if bangAhead (← get) then
    if let .path start segs := p then
      if segs.all Segment.isPlain then
        return .macroCall (← macroRest ⟨start = .absolute, segs.map Segment.name⟩)
  match allowRecord, ← get with
  | true, .group .curly inner :: rest => do
    set rest
    let (fields, trailing, hasRest, e) ← inside (fieldValues g (inner.length + 1) false) inner
    return .record p fields trailing hasRest e
  | _, _ => return .path p

def roundExpression (g : Grammar) (inner : Tokens) : Reader Expr := do
  let (elems, trailing) ← exprsIn g inner
  match elems, trailing with
  | [e], false => return .paren e
  | _, _ => return .tuple elems trailing

def squareExpression (g : Grammar) (inner : Tokens) : Reader Expr := do
  if inner.isEmpty then return .array [] false
  inside (do
    let first ← g.expr true
    if ← tryOp ";" then return .filled first (← g.expr true)
    if ← isDone then return .array [first] false
    markOp ","
    let (elems, trailing) ← listOf (g.expr true) (markOp ",") List.isEmpty (inner.length + 1) true
    return .array (first :: elems) trailing) inner

def closureParam (g : Grammar) : Reader Pattern := do
  let marks ← marks g
  let p ← g.single
  let p ← if ← tryOp ":" then pure (Pattern.typed p (← g.ty true)) else pure p
  return if marks.isEmpty then p else .marked marks p

def closure (g : Grammar) (allowRecord : Bool) : Reader Expr := do
  let binder ← anyBinder g
  let words ← ["const", "static", "async", "move"].filterM tryWord
  markOp "|"
  let (params, trailing) ← commas (closureParam g) (aheadOp "|")
  markOp "|"
  match ← output g true with
  | some t =>
    return .closure ⟨binder, words⟩ params trailing (some t) (.block (.plain none) [] (← block g))
  | none =>
    return .closure ⟨binder, words⟩ params trailing none (← expression g allowRecord)

def choices (g : Grammar) : Nat → Reader Expr
  | 0 => failure
  | fuel + 1 => do
    word "if"
    let condition ← g.expr false
    let body ← block g
    if !(← tryWord "else") then return .choice condition body none
    if aheadWord "if" (← get) then return .choice condition body (some (← choices g fuel))
    return .choice condition body (some (.block (.plain none) [] (← block g)))

def choice (g : Grammar) : Reader Expr := do choices g ((← get).length + 1)

def whileLoop (g : Grammar) (label : Option String) : Reader Expr := do
  word "while"
  let condition ← g.expr false
  let b ← body g
  return .whileLoop label condition b.inner b.statements

def forLoop (g : Grammar) (label : Option String) : Reader Expr := do
  word "for"
  let p ← pattern g
  word "in"
  let e ← g.expr false
  let b ← body g
  return .forLoop label p e b.inner b.statements

def endlessLoop (g : Grammar) (label : Option String) : Reader Expr := do
  word "loop"
  let b ← body g
  return .loop label b.inner b.statements

def plainBlock (g : Grammar) (label : Option String) : Reader Expr := do
  let b ← body g
  return .block (.plain label) b.inner b.statements

def labelled (g : Grammar) : Reader Expr := do
  let label ← tryLabel
  let ts ← get
  if aheadWord "while" ts then whileLoop g label
  else if aheadWord "for" ts then forLoop g label
  else if aheadWord "loop" ts then endlessLoop g label
  else plainBlock g label

def uncheckedBlock (g : Grammar) : Reader Expr := do
  word "unsafe"
  let b ← body g
  return .block (.worded ["unsafe"]) b.inner b.statements

def wordedBlock (g : Grammar) (words : List String) : Reader Expr := do
  words.forM word
  return .block (.worded words) [] (← block g)

def arm (g : Grammar) : Reader Arm := do
  let marks ← marks g
  let p ← pattern g
  let guard? ← whenAhead (aheadWord "if") (do word "if"; g.expr true)
  markOp "=>"
  let e ← g.early
  if !e.isBlockLike && !(← isDone) then
    markOp ","
    return .mk marks p guard? e true
  return .mk marks p guard? e (← tryOp ",")

def armsUpTo (g : Grammar) : Nat → Reader (List Arm)
  | 0 => failure
  | fuel + 1 => do if ← isDone then return [] else return (← arm g) :: (← armsUpTo g fuel)

def cases (g : Grammar) : Reader Expr := do
  word "match"
  let e ← g.expr false
  inside (do
    let inner ← innerMarks g
    return .cases e inner (← armsUpTo g ((← get).length + 1))) (← group .curly)

def aheadBinder (ts : Tokens) : Bool :=
  aheadSecond (aheadOp "<") ts && (aheadThird aheadLife ts || aheadThird (aheadOp ">") ts)

def blockLike (g : Grammar) : Reader (Option Expr) := do
  let ts ← get
  if aheadWord "if" ts then return some (← choice g)
  if aheadWord "while" ts then return some (← whileLoop g none)
  if aheadWord "for" ts && !aheadBinder ts then return some (← forLoop g none)
  if aheadWord "loop" ts then return some (← endlessLoop g none)
  if aheadWord "match" ts then return some (← cases g)
  if aheadWord "try" ts && aheadSecond (aheadGroup .curly) ts then
    return some (← wordedBlock g ["try"])
  if aheadWord "unsafe" ts then return some (← uncheckedBlock g)
  if aheadWord "const" ts && aheadSecond (aheadGroup .curly) ts then
    return some (← constBlock g)
  if aheadGroup .curly ts then return some (← plainBlock g none)
  if aheadLife ts then return some (← labelled g)
  return none

def breakJump (g : Grammar) (allowRecord : Bool) : Reader Expr := do
  word "break"
  let label ← tryLife
  guard !(label.isSome && aheadOp ":" (← get))
  let ts ← get
  if aheadExpression ts && (allowRecord || !aheadGroup .curly ts) then
    return .jump (.break label) (some (← g.expr true))
  return .jump (.break label) none

def letCondition (g : Grammar) (allowRecord : Bool) : Reader Expr := do
  word "let"
  let p ← pattern g
  markOp "="
  return .condition p (← operatedFrom g allowRecord looseCompare (← g.unary allowRecord))

def aheadClosure (ts : Tokens) : Bool :=
  aheadOp "|" ts || aheadWord "move" ts || (aheadWord "for" ts && aheadBinder ts) ||
    (aheadWord "const" ts && !aheadSecond (aheadGroup .curly) ts) || aheadWord "static" ts ||
    (aheadWord "async" ts && (aheadSecond (aheadOp "|") ts || aheadSecond (aheadWord "move") ts))

def aheadPath (ts : Tokens) : Bool :=
  aheadName ts || aheadOp "::" ts || aheadOp "<" ts || moduleWordAhead ts ||
    (aheadWord "try" ts && (aheadSecond (aheadOp "!") ts || aheadSecond (aheadOp "::") ts))

def atom (g : Grammar) (allowRecord : Bool) : Reader Expr := do
  let ts ← get
  if aheadLiteral ts then
    match ← literalRow with
    | [.literal l] => return .literal l
    | [.name n] => return .literal n
    | _ => failure
  else if aheadWord "async" ts && aheadSecond (aheadGroup .curly) ts then wordedBlock g ["async"]
  else if aheadWord "async" ts && aheadSecond (aheadWord "move") ts &&
      aheadThird (aheadGroup .curly) ts then wordedBlock g ["async", "move"]
  else if aheadWord "try" ts && aheadSecond (aheadGroup .curly) ts then wordedBlock g ["try"]
  else if aheadClosure ts then closure g allowRecord
  else if aheadWord "builtin" ts && aheadSecond (aheadOp "#") ts then
    modify (List.drop 2)
    discard name
    discard (group .round)
    return .verbatim (← since ts)
  else if aheadPath ts then pathExpression g allowRecord
  else if aheadWord "break" ts then breakJump g allowRecord
  else if ← tryWord "continue" then return .jump (.continue (← tryLife)) none
  else if ← tryWord "return" then return .jump .return (← optionalExpr g)
  else if ← tryWord "yield" then return .jump .yield (← optionalExpr g)
  else if ← tryWord "become" then
    discard (g.expr true)
    return .verbatim (← since ts)
  else if aheadWord "let" ts then letCondition g allowRecord
  else if let some e ← blockLike g then return e
  else if ← tryWord "_" then return .infer
  else
    match ts with
    | .group .round inner :: rest => do set rest; roundExpression g inner
    | .group .square inner :: rest => do set rest; squareExpression g inner
    | _ =>
      let isClosed ← rangeDots
      return .range none isClosed (← rangeStop g allowRecord isClosed (← operatorSteps))

def unaryExpression (g : Grammar) (allowRecord : Bool) : Reader Expr := do
  let before ← get
  let marks ← marks g
  let ts ← get
  if ← tryOp "&" then
    let isRaw := aheadWord "raw" (ts.drop 1) &&
      (aheadWord "mut" (ts.drop 2) || aheadWord "const" (ts.drop 2))
    if isRaw then word "raw"
    let isMut ← tryWord "mut"
    if isRaw && !isMut then word "const"
    let e ← g.unary allowRecord
    return (if isRaw then Expr.address isMut e else .reference isMut e).withMarks marks
  match ts with
  | .mark c _ :: rest =>
    if c = '*' || c = '!' || c = '-' then
      set rest
      return (Expr.sign c (← g.unary allowRecord)).withMarks marks
  | _ => pure ()
  match ← withPostfixes g (← atom g allowRecord) with
  | .verbatim _ => return .verbatim (← since before)
  | e =>
    guard (marks.isEmpty || !isRange e)
    return e.withMarks marks

end Callwire.Source.Reader
