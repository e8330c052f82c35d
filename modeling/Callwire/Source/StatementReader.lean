import Callwire.Source.ExpressionReader

/-!
# Reading statements

What stands in a block, in any grammar. A statement that ends in a block needs
no semicolon.
-/

set_option autoImplicit false

namespace Callwire.Source.Reader

/-- An expression with the operators after it, unless it is a block that no
point and no question mark follows. -/
def earlyExpression (g : Grammar) : Reader Expr := do
  let marks ← marks g
  match ← blockLike g with
  | none => operatedFrom g true 0 ((← g.unary true).withMarks marks)
  | some e =>
    let ts ← get
    if (aheadOp "." ts && !aheadOp ".." ts) || aheadOp "?" ts then
      operatedFrom g true 0 ((← withPostfixes g e).withMarks marks)
    else return e.withMarks marks

def markLeftmost (marks : List Mark) : Expr → Expr
  | .binary left sign right => .binary (markLeftmost marks left) sign right
  | .assign left right => .assign (markLeftmost marks left) right
  | .cast e t => .cast (markLeftmost marks e) t
  | e => e.withMarks marks

def endsInCurly (e : Expr) : Bool :=
  match e.tokens.getLast? with
  | some (.group .curly _) => true
  | _ => false

def binding (g : Grammar) (marks : List Mark) : Reader Stmt := do
  word "let"
  let p ← g.single
  let p ← if ← tryOp ":" then pure (Pattern.typed p (← g.ty true)) else pure p
  if !(← tryOp "=") then
    markOp ";"
    return .bind marks p none none
  let e ← g.expr true
  let otherwise ← if !endsInCurly e && aheadWord "else" (← get) then do
      word "else"
      pure (some (← block g))
    else pure none
  markOp ";"
  return .bind marks p (some e) otherwise

def aheadSecondWord (words : List String) (ts : Tokens) : Bool :=
  words.any fun w => aheadSecond (aheadWord w) ts

def aheadThirdWord (words : List String) (ts : Tokens) : Bool :=
  words.any fun w => aheadThird (aheadWord w) ts

def aheadItem (ts : Tokens) : Bool :=
  ["pub", "extern", "use", "fn", "mod", "type", "struct", "enum", "trait", "impl", "macro"].any
      (aheadWord · ts) ||
    (aheadWord "crate" ts && !aheadSecond (aheadOp "::") ts) ||
    (aheadWord "static" ts && (aheadSecond (aheadWord "mut") ts || aheadSecond aheadName ts)) ||
    (aheadWord "const" ts && !(aheadSecond (aheadGroup .curly) ts ||
      aheadSecondWord ["static", "move"] ts || aheadSecond (aheadOp "|") ts ||
      (aheadSecond (aheadWord "async") ts && !aheadThirdWord ["unsafe", "extern", "fn"] ts))) ||
    (aheadWord "unsafe" ts && !aheadSecond (aheadGroup .curly) ts) ||
    (aheadWord "async" ts && aheadSecondWord ["unsafe", "extern", "fn"] ts) ||
    (aheadWord "union" ts && aheadSecond aheadName ts) ||
    (aheadWord "auto" ts && aheadSecond (aheadWord "trait") ts) ||
    (aheadWord "default" ts && aheadSecondWord ["unsafe", "impl"] ts)

inductive MacroPlace
  | item
  | statement (path : ModulePath) (rest : Tokens)
  | expression

def macroPlace (ts : Tokens) : MacroPlace :=
  match modulePath.run ts with
  | some (path, rest) =>
    if !aheadOp "!" rest then .expression
    else if aheadSecond aheadName rest || aheadSecond (aheadWord "try") rest then .item
    else
      let goesOn := (aheadThird (aheadOp ".") rest && !aheadThird (aheadOp "..") rest) ||
        aheadThird (aheadOp "?") rest
      if aheadSecond (aheadGroup .curly) rest && !goesOn then .statement path rest
      else .expression
  | none => .expression

def expressionStatement (g : Grammar) (marks : List Mark) : Reader Stmt := do
  let e := markLeftmost marks (← g.early)
  let semi ← tryOp ";"
  match e.unmarked with
  | .macroCall m => if semi || m.bracket = .curly then return .macroCall e.marks m semi
  | _ => pure ()
  guard (semi || !e.needsSemicolon || (← isDone))
  return .run e semi

def statement (g : Grammar) : Reader Stmt := do
  if ← tryOp ";" then return .empty
  let before ← get
  let marks ← marks g
  let ts ← get
  match macroPlace ts with
  | .statement path rest =>
    set rest
    let m ← macroRest path
    return .macroCall marks m (← tryOp ";")
  | .item => itemFrom before
  | .expression =>
    if aheadWord "let" ts then binding g marks
    else if aheadItem ts then itemFrom before
    else expressionStatement g marks
where
  itemFrom (before : Tokens) : Reader Stmt := do
    set before
    return .item (← g.item).tokens

def statementsUpTo (g : Grammar) : Nat → Reader (List Stmt)
  | 0 => failure
  | fuel + 1 => do
    if ← isDone then return []
    return (← statement g) :: (← statementsUpTo g fuel)

def allStatements (g : Grammar) : Reader (List Stmt) := do
  statementsUpTo g ((← get).length + 1)

end Callwire.Source.Reader
