import Callwire.Source.Pattern

/-!
# Expressions and statements

Expressions stand in the lengths of arrays, in constant arguments and in
attributes, and make up the bodies of functions. Items in a block are kept as
rows of trees.
-/

set_option autoImplicit false

namespace Callwire.Source

structure ClosureHead where
  binder : Option Tokens
  words : List String

inductive BlockHead
  | plain (label : Option String)
  | worded (words : List String)

inductive Jump
  | break (label : Option String)
  | continue (label : Option String)
  | return
  | yield

mutual

inductive Expr
  | marked (marks : List Mark) (e : Expr)
  | path (p : Ty)
  | literal (text : String)
  | call (f : Expr) (args : List Expr) (trailing : Bool)
  | method (e : Expr) (name : String) (generics : Arguments) (args : List Expr) (trailing : Bool)
  | field (e : Expr) (c : Component)
  | index (e : Expr) (i : Expr)
  | attempt (e : Expr)
  | await (e : Expr)
  | reference (isMut : Bool) (e : Expr)
  | address (isMut : Bool) (e : Expr)
  | sign (c : Char) (e : Expr)
  | binary (left : Expr) (sign : String) (right : Expr)
  | assign (left : Expr) (right : Expr)
  | cast (e : Expr) (t : Ty)
  | range (start : Option Expr) (isClosed : Bool) (stop : Option Expr)
  | paren (e : Expr)
  | tuple (elems : List Expr) (trailing : Bool)
  | array (elems : List Expr) (trailing : Bool)
  | filled (e : Expr) (n : Expr)
  | record (path : Ty) (fields : List FieldValue) (trailing : Bool) (hasRest : Bool)
      (rest : Option Expr)
  | closure (head : ClosureHead) (params : List Pattern) (trailing : Bool) (output : Option Ty)
      (body : Expr)
  | block (head : BlockHead) (inner : List Mark) (body : List Stmt)
  | choice (condition : Expr) (body : List Stmt) (otherwise : Option Expr)
  | whileLoop (label : Option String) (condition : Expr) (inner : List Mark) (body : List Stmt)
  | loop (label : Option String) (inner : List Mark) (body : List Stmt)
  | forLoop (label : Option String) (p : Pattern) (e : Expr) (inner : List Mark)
      (body : List Stmt)
  | cases (e : Expr) (inner : List Mark) (arms : List Arm)
  | jump (j : Jump) (value : Option Expr)
  | condition (p : Pattern) (e : Expr)
  | macroCall (m : MacroCall)
  | infer
  | verbatim (row : Tokens)

inductive FieldValue
  | mk (marks : List Mark) (c : Component) (value : Option Expr)

inductive Arm
  | mk (marks : List Mark) (p : Pattern) (guard : Option Expr) (body : Expr) (comma : Bool)

inductive Stmt
  | bind (marks : List Mark) (p : Pattern) (value : Option Expr) (otherwise : Option (List Stmt))
  | item (row : Tokens)
  | run (e : Expr) (semi : Bool)
  | macroCall (marks : List Mark) (m : MacroCall) (semi : Bool)
  | empty

end

def labelTokens : Option String → Tokens
  | some n => lifetime n ++ op ":"
  | none => []

def BlockHead.tokens : BlockHead → Tokens
  | .plain label => labelTokens label
  | .worded words => words.map Tree.name

def ClosureHead.tokens (h : ClosureHead) : Tokens := binderTokens h.binder ++ h.words.map Tree.name

def Jump.tokens : Jump → Tokens
  | .break label => .name "break" :: (label.map lifetime).getD []
  | .continue label => .name "continue" :: (label.map lifetime).getD []
  | .return => [.name "return"]
  | .yield => [.name "yield"]

def literalTree (text : String) : Tree :=
  if text = "true" || text = "false" then .name text else .literal text

mutual

def Expr.tokens : Expr → Tokens
  | .marked marks e => markTokens marks ++ e.tokens
  | .path p => p.tokens
  | .literal text => [literalTree text]
  | .call f args trailing => f.tokens ++ [round (separated trailing (exprRows args))]
  | .method e name generics args trailing =>
    e.tokens ++ op "." ++ .name name :: generics.tokens ++
      [round (separated trailing (exprRows args))]
  | .field e c => e.tokens ++ op "." ++ c.tokens
  | .index e i => e.tokens ++ [square i.tokens]
  | .attempt e => e.tokens ++ op "?"
  | .await e => e.tokens ++ op "." ++ [.name "await"]
  | .reference isMut e => op "&" ++ wordIf isMut "mut" ++ e.tokens
  | .address isMut e => op "&" ++ [.name "raw", .name (if isMut then "mut" else "const")] ++ e.tokens
  | .sign c e => .mark c false :: e.tokens
  | .binary left sign right => left.tokens ++ op sign ++ right.tokens
  | .assign left right => left.tokens ++ op "=" ++ right.tokens
  | .cast e t => e.tokens ++ .name "as" :: t.tokens
  | .range start isClosed stop =>
    optionTokens start ++ op (if isClosed then "..=" else "..") ++ optionTokens stop
  | .paren e => [round e.tokens]
  | .tuple elems trailing => [round (separated trailing (exprRows elems))]
  | .array elems trailing => [square (separated trailing (exprRows elems))]
  | .filled e n => [square (e.tokens ++ op ";" ++ n.tokens)]
  | .record path fields trailing hasRest rest =>
    path.tokens ++ [curly (separated trailing (fieldValueRows fields) ++ opIf hasRest ".." ++
      optionTokens rest)]
  | .closure head params trailing output body =>
    head.tokens ++ op "|" ++ separated trailing (patternRows params) ++ op "|" ++ arrow output ++
      body.tokens
  | .block head inner body => head.tokens ++ [curly (markTokens inner ++ stmtTokens body)]
  | .choice condition body otherwise =>
    .name "if" :: condition.tokens ++ curly (stmtTokens body) :: elseTokens otherwise
  | .whileLoop label condition inner body =>
    labelTokens label ++ .name "while" :: condition.tokens ++
      [curly (markTokens inner ++ stmtTokens body)]
  | .loop label inner body =>
    labelTokens label ++ [.name "loop", curly (markTokens inner ++ stmtTokens body)]
  | .forLoop label p e inner body =>
    labelTokens label ++ .name "for" :: p.tokens ++ .name "in" :: e.tokens ++
      [curly (markTokens inner ++ stmtTokens body)]
  | .cases e inner arms =>
    .name "match" :: e.tokens ++ [curly (markTokens inner ++ armTokens arms)]
  | .jump j value => j.tokens ++ optionTokens value
  | .condition p e => .name "let" :: p.tokens ++ op "=" ++ e.tokens
  | .macroCall m => m.tokens
  | .infer => [.name "_"]
  | .verbatim row => row

def exprRows : List Expr → List Tokens
  | [] => []
  | e :: rest => e.tokens :: exprRows rest

def optionTokens : Option Expr → Tokens
  | some e => e.tokens
  | none => []

def elseTokens : Option Expr → Tokens
  | some e => .name "else" :: e.tokens
  | none => []

def fieldValueRows : List FieldValue → List Tokens
  | [] => []
  | .mk marks c value :: rest =>
    (markTokens marks ++ c.tokens ++ givenTokens value) :: fieldValueRows rest

def givenTokens : Option Expr → Tokens
  | some e => op ":" ++ e.tokens
  | none => []

def armTokens : List Arm → Tokens
  | [] => []
  | .mk marks p guard body isFollowed :: rest =>
    markTokens marks ++ p.tokens ++ guardTokens guard ++ op "=>" ++ body.tokens ++
      opIf isFollowed "," ++ armTokens rest

def guardTokens : Option Expr → Tokens
  | some e => .name "if" :: e.tokens
  | none => []

def stmtTokens : List Stmt → Tokens
  | [] => []
  | s :: rest => s.tokens ++ stmtTokens rest

def Stmt.tokens : Stmt → Tokens
  | .bind marks p value otherwise =>
    markTokens marks ++ .name "let" :: p.tokens ++ valueTokens value ++ divergeTokens otherwise ++
      op ";"
  | .item row => row
  | .run e semi => e.tokens ++ opIf semi ";"
  | .macroCall marks m semi => markTokens marks ++ m.tokens ++ opIf semi ";"
  | .empty => op ";"

def valueTokens : Option Expr → Tokens
  | some e => op "=" ++ e.tokens
  | none => []

def divergeTokens : Option (List Stmt) → Tokens
  | some body => [.name "else", curly (stmtTokens body)]
  | none => []

end

def Expr.withMarks (marks : List Mark) : Expr → Expr
  | .marked inner e => if marks.isEmpty then .marked inner e else .marked (marks ++ inner) e
  | .verbatim row => .verbatim row
  | e => if marks.isEmpty then e else .marked marks e

def Expr.unmarked : Expr → Expr
  | .marked _ e => e
  | e => e

def Expr.marks : Expr → List Mark
  | .marked marks _ => marks
  | _ => []

def Expr.isBlockLike (e : Expr) : Bool :=
  match e.unmarked with
  | .choice .. => true
  | .cases .. => true
  | .block (.plain _) .. => true
  | .block (.worded words) .. => words.head? != some "async"
  | .whileLoop .. => true
  | .loop .. => true
  | .forLoop .. => true
  | _ => false

def Expr.needsSemicolon (e : Expr) : Bool :=
  match e.unmarked with
  | .macroCall m => m.bracket != .curly
  | _ => !e.isBlockLike

end Callwire.Source
