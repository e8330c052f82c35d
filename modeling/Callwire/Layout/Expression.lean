import Callwire.Layout.Pattern
import Callwire.Source.Expression

/-!
# Expressions and statements as documents

A chain of fields, calls and marks after an expression is one block whose links
may each start a line. At the beginning of a statement the first link stays
beside a receiver that is no longer than the indentation.
-/

set_option autoImplicit false

namespace Callwire.Layout
open Source

/-- Where an expression stands: anywhere, at the beginning of a line, in front
of a link of a chain, after the arrow of an arm, after the word `else`. A block
that is `bare` is written without brackets if it holds one value only. -/
inductive Spot
  | inner
  | start
  | link (begins : Bool)
  | arm (isBare : Bool)
  | branch

def Spot.begins : Spot → Bool
  | .start => true
  | .arm _ => true
  | .link begins => begins
  | _ => false

def Spot.operand : Spot → Spot
  | .arm _ => .start
  | .branch => .inner
  | s => s

def Spot.callee : Spot → Spot
  | .link _ => .link false
  | s => s.operand

def Spot.linked (s : Spot) (docs : List Doc) : List Doc :=
  match s with
  | .link _ => docs
  | _ => block step docs

def Spot.rooted (s : Spot) (docs : List Doc) : List Doc :=
  match s with
  | .link _ => block (-step) docs
  | _ => docs

/-! ## What an expression asks of its surroundings -/

def isShort : Expr → Bool
  | .path (.path .scope [.mk name .none]) => name.utf8ByteSize ≤ 4
  | _ => false

def bringsBrackets : Expr → Bool
  | .array .. => true
  | .block .. => true
  | .closure .. => true
  | .record .. => true
  | .tuple .. => true
  | _ => false

def wraps : Expr → Bool
  | .marked _ e => wraps e
  | .assign .. => true
  | .await _ => true
  | .binary .. => true
  | .cast .. => true
  | .field .. => true
  | .index .. => true
  | .method .. => true
  | .call f _ _ => wraps f
  | .condition _ e => wraps e
  | .paren e => wraps e
  | .range _ _ (some e) => wraps e
  | .reference _ e => wraps e
  | .address _ e => wraps e
  | .attempt e => wraps e
  | .sign _ e => wraps e
  | .jump _ (some e) => wraps e
  | _ => false

def beginsStatement : Expr → Bool
  | .marked _ e => beginsStatement e
  | .assign left _ => left.needsSemicolon && beginsStatement left
  | .binary left _ _ => left.needsSemicolon && beginsStatement left
  | .call f _ _ => f.needsSemicolon && beginsStatement f
  | .cast e _ => e.needsSemicolon && beginsStatement e
  | .index e _ => e.needsSemicolon && beginsStatement e
  | .range (some e) _ _ => e.needsSemicolon && beginsStatement e
  | .await e => beginsStatement e
  | .field e _ => beginsStatement e
  | .method e _ _ _ _ => beginsStatement e
  | .attempt e => beginsStatement e
  | _ => true

def changesLeft (sign : String) : Bool :=
  ["+=", "-=", "*=", "/=", "%=", "^=", "&=", "|=", "<<=", ">>="].contains sign

def endsInSemicolon (e : Expr) : Bool :=
  match e.unmarked with
  | .assign .. => true
  | .binary _ sign _ => changesLeft sign
  | .jump .. => true
  | _ => false

def losesSemicolon : Expr → Bool
  | .marked _ e => losesSemicolon e
  | .forLoop .. => true
  | .whileLoop .. => true
  | .choice _ _ none => true
  | .choice _ _ (some e) => losesSemicolon e
  | _ => false

def withoutBrackets : Expr → Expr
  | .block (.plain none) [] [.run e false] => withoutBrackets e
  | e => e

def isArmBlock (e : Expr) : Bool :=
  match withoutBrackets e with
  | .tuple [] _ => true
  | e => match e.unmarked with
    | .block (.plain _) .. => true
    | _ => false

def isSole : List Stmt → Bool
  | [.run _ false] => true
  | _ => false

def isWhole (l : List Char) : Bool :=
  match l with
  | '0' :: c :: _ => if c = 'x' || c = 'o' || c = 'b' then true else isPlainNumber l
  | _ => isPlainNumber l
where
  isPlainNumber (l : List Char) : Bool :=
    let rest := l.dropWhile fun c => c.isDigit || c = '_'
    (l.head?.any Char.isDigit) &&
      match rest with
      | '.' :: _ => false
      | c :: more =>
        !((c = 'e' || c = 'E') &&
          (more.dropWhile (· = '_')).head?.any fun d => d.isDigit || d = '+' || d = '-')
      | [] => true

def isSmall : Expr → Bool
  | .literal l =>
    l == "true" || l == "false" || l.startsWith "'" || l.startsWith "b'" || isWhole l.toList
  | _ => false

/-! ## Parts of an expression -/

def linkBreak (begins : Bool) (receiver : Expr) : List Doc :=
  if begins && isShort receiver then [] else softBreak

def callDocs (args : List Expr) (rows : List (List Doc)) : List Doc :=
  text "(" ++
    (match args, rows with
      | [e], [row] => if bringsBrackets e then row else listed step [row]
      | _, _ => listed step rows) ++
    text ")"

def elementDocs (elems : List Expr) (rows : List (List Doc)) : List Doc :=
  if elems.isEmpty then text "[]"
  else if elems.all isSmall then
    block step (text "[" ++ softBreak ++ fill 0 (filledRows rows) ++ outdented (lastComma 0) ++
      text "]")
  else text "[" ++ listed step rows ++ text "]"

def conditionDocs (e : Expr) (docs : List Doc) : List Doc :=
  block 0 (docs ++ if wraps e then space else text " ")

def smallBlock (inner : List Doc) (body : List Stmt) (sole all : List Doc) : List Doc :=
  text "\x7b" ++
    (if inner.isEmpty && body.isEmpty then []
      else
        outdented (space ++ inner ++ if isSole body then fill 0 sole ++ space else all)) ++
    text "\x7d"

def openBlock (body : List Stmt) (all : List Doc) : List Doc :=
  if body.isEmpty then text "\x7b\x7d"
  else text "\x7b" ++ outdented (hardBreak ++ all) ++ text "\x7d"

def bracketed (e : Expr) (comma : Bool) (value : List Doc) : List Doc :=
  let canBegin := beginsStatement e
  block step ([.stop { closing := if canBegin then "\x7b" else "(" }] ++ value ++
    [.stop
      { offset := -step
        closing := if canBegin && endsInSemicolon e then ";" else ""
        opening := (if canBegin then "\x7d" else ")") ++ if comma && !canBegin then "," else ""
        joining := if comma && !e.isBlockLike then "," else "" }])

def closureBody (e : Expr) (docs : List Doc) : List Doc :=
  match e with
  | .cases .. => docs
  | .call .. => docs
  | _ => if bringsBrackets e then docs else bracketed e false docs

def labelDocs (label : Option String) : List Doc :=
  text ((label.map fun n => "'" ++ n ++ ": ").getD "")

def wordDocs (words : List String) : List Doc := text (String.join (words.map (· ++ " ")))

def jumpDocs : Jump → List Doc
  | .break label => text ("break" ++ (label.map (" '" ++ ·)).getD "")
  | .continue label => text ("continue" ++ (label.map (" '" ++ ·)).getD "")
  | .return => text "return"
  | .yield => text "yield"

def closureParams (rows : List (List Doc)) (hasOutput : Bool) : List Doc :=
  let front := if rows.isEmpty then [] else softBreak
  if hasOutput then
    block step (text "|" ++ (if rows.isEmpty then [] else outdented (front ++ commaRows 0 rows)) ++
      text "|")
  else block step (text "|" ++ front ++ filledRows rows ++ text "|" ++ outdented space) ++ joint

def recordDocs (path : List Doc) (rows : List (List Doc)) (rest : Option (List Doc)) : List Doc :=
  blockWithin 34 step (fill (-step) path ++ text " \x7b" ++
    outdented (spaceInside ++ fieldsDocs rows (rest.map (text ".." ++ ·)))) ++ text "\x7d"

mutual

def exprDocs (r : Rows) (s : Spot) : Expr → List Doc
  | .marked marks e =>
    match s with
    | .arm _ =>
      (if isArmBlock (.marked marks e) then [] else marksDocs r marks) ++ exprDocs r (.arm false) e
    | _ => marksDocs r marks ++ exprDocs r s e
  | .path p => s.rooted (tyDocs r .value p)
  | .literal l => s.rooted (text l)
  | .call f args _ => exprDocs r s.callee f ++ callDocs args (exprDocRows r args)
  | .method e name generics args _ =>
    s.linked (exprDocs r (.link s.begins) e ++ linkBreak s.begins e ++ text ("." ++ name) ++
      argumentsDocs r .value generics ++
      block (match s with
          | .link _ => 0
          | _ => if s.begins && isShort e then -step else 0)
        (callDocs args (exprDocRows r args)))
  | .field e c =>
    s.linked (exprDocs r (.link s.begins) e ++ linkBreak s.begins e ++ text ("." ++ c.text))
  | .index e i => exprDocs r s.operand e ++ text "[" ++ exprDocs r .inner i ++ text "]"
  | .attempt e => exprDocs r s.operand e ++ text "?"
  | .await e => s.linked (exprDocs r (.link s.begins) e ++ linkBreak s.begins e ++ text ".await")
  | .reference isMut e => s.rooted (text "&" ++ wordIf isMut "mut" ++ exprDocs r .inner e)
  | .address isMut e =>
    s.rooted (text (if isMut then "&raw mut " else "&raw const ") ++ exprDocs r .inner e)
  | .sign c e => s.rooted (text c.toString ++ exprDocs r .inner e)
  | .binary left sign right =>
    s.rooted (fill step (fill (-step) (exprDocs r .inner left) ++ space ++ text (sign ++ " ") ++
      exprDocs r .inner right))
  | .assign left right =>
    s.rooted (fill 0 (exprDocs r .inner left ++ text " = " ++ joint ++ exprDocs r .inner right))
  | .cast e t =>
    s.rooted (fill step (fill (-step) (exprDocs r .inner e) ++ space ++ text "as " ++
      tyDocs r .type t))
  | .range start isClosed stop =>
    s.rooted (optionDocs r start ++ text (if isClosed then "..=" else "..") ++ optionDocs r stop)
  | .paren e => s.rooted (text "(" ++ exprDocs r .inner e ++ text ")")
  | .tuple elems _ =>
    match s, elems with
    | .arm true, [] => braced []
    | _, _ => s.rooted (text "(" ++ tupleRows (exprDocRows r elems) ++ text ")")
  | .array elems _ => s.rooted (elementDocs elems (exprDocRows r elems))
  | .filled e n =>
    s.rooted (text "[" ++ exprDocs r .inner e ++ text "; " ++ exprDocs r .inner n ++ text "]")
  | .record path fields _ _ rest =>
    s.rooted (recordDocs (tyDocs r .value path) (fieldDocRows r fields)
      (if rest.isSome then some (optionDocs r rest) else none))
  | .closure head params _ output body =>
    s.rooted (fill 0 (binderDocs r head.binder ++ wordDocs head.words ++
      closureParams (params.map (patternDocs r)) output.isSome ++
      match output with
      | none => closureBody body (exprDocs r .inner body)
      | some t => text " -> " ++ tyDocs r .type t ++ text " " ++ joint ++ exprDocs r .inner body))
  | .block head inner body =>
    match s, head with
    | .arm isBare, .plain label =>
      if isBare && label.isNone && inner.isEmpty && isSole body then soleDocs r s body
      else labelDocs label ++ braced (marksDocs r inner ++ stmtDocs r body)
    | _, _ =>
      s.rooted ((match head with
          | .plain label => labelDocs label
          | .worded words => wordDocs words) ++
        match s with
        | .branch => smallBlock [] body (soleDocs r .start body) (stmtDocs r body)
        | _ => block step (smallBlock (marksDocs r inner) body (soleDocs r .start body)
            (stmtDocs r body)))
  | .choice condition body otherwise =>
    let front := text "if " ++ block (-step) (conditionDocs condition (exprDocs r .inner condition))
    let all := stmtDocs r body
    match s with
    | .branch => front ++ smallBlock [] body (soleDocs r .start body) all ++ elseDocs r otherwise
    | _ =>
      s.rooted (block step (front ++
        if otherwise.isSome then
          smallBlock [] body (soleDocs r .start body) all ++ elseDocs r otherwise
        else openBlock body all))
  | .whileLoop label condition inner body =>
    s.rooted (labelDocs label ++ text "while " ++
      conditionDocs condition (exprDocs r .inner condition) ++
      braced (marksDocs r inner ++ stmtDocs r body))
  | .loop label inner body =>
    s.rooted (labelDocs label ++ text "loop \x7b" ++
      block step (outdented (hardBreakInside ++ marksDocs r inner ++ stmtDocs r body)) ++
      text "\x7d")
  | .forLoop label p e inner body =>
    s.rooted (fill 0 (labelDocs label ++ text "for " ++ patternDocs r p ++ text " in " ++ joint ++
      conditionDocs e (exprDocs r .inner e) ++ braced (marksDocs r inner ++ stmtDocs r body)))
  | .cases e inner arms =>
    s.rooted (fill 0 (text "match " ++ conditionDocs e (exprDocs r .inner e) ++
      braced (marksDocs r inner ++ armDocs r arms)))
  | .jump j value =>
    s.rooted (jumpDocs j ++ (if value.isSome then text " " else []) ++ optionDocs r value)
  | .condition p e =>
    s.rooted (fill 0 (text "let " ++ patternDocs r p ++ text " = " ++ joint ++
      exprDocs r .inner e))
  | .macroCall m => s.rooted (macroCallDocs m none false)
  | .infer => s.rooted (text "_")
  | .verbatim row => if row.isEmpty then [] else [withoutLayout "Expr" row]

def exprDocRows (r : Rows) : List Expr → List (List Doc)
  | [] => []
  | e :: rest => exprDocs r .inner e :: exprDocRows r rest

def optionDocs (r : Rows) : Option Expr → List Doc
  | some e => exprDocs r .inner e
  | none => []

def elseDocs (r : Rows) : Option Expr → List Doc
  | some e => text " else " ++ exprDocs r .branch e
  | none => []

def fieldDocRows (r : Rows) : List FieldValue → List (List Doc)
  | [] => []
  | .mk marks c value :: rest =>
    (marksDocs r marks ++ text c.text ++ givenDocs r value) :: fieldDocRows r rest

def givenDocs (r : Rows) : Option Expr → List Doc
  | some e => text ": " ++ fill 0 (exprDocs r .inner e)
  | none => []

def armDocs (r : Rows) : List Arm → List Doc
  | [] => []
  | .mk marks p guard body _ :: rest =>
    let value := exprDocs r (.arm true) body
    marksDocs r marks ++
      fill 0 (patternDocs r p ++ guardDocs r guard ++ text " => " ++
        if isArmBlock body then value else joint ++ bracketed (withoutBrackets body) true value) ++
      hardBreak ++ armDocs r rest

def guardDocs (r : Rows) : Option Expr → List Doc
  | some e => text " if " ++ exprDocs r .inner e
  | none => []

def soleDocs (r : Rows) (s : Spot) : List Stmt → List Doc
  | [.run e _] => exprDocs r s e
  | _ => []

def stmtDocs (r : Rows) : List Stmt → List Doc
  | [] => []
  | .bind marks p value otherwise :: rest =>
    marksDocs r marks ++
      fill 0 (text "let " ++ patternDocs r p ++ valueDocs r value ++
        if otherwise.isSome then space ++ text "else " else []) ++
      divergeDocs r otherwise ++ text ";" ++ hardBreak ++ stmtDocs r rest
  | .item row :: rest => r.item row ++ stmtDocs r rest
  | .run e semi :: rest =>
    fill 0 (exprDocs r .start e ++
      if if semi then !losesSemicolon e else endsInSemicolon e then text ";" else []) ++
      hardBreak ++ stmtDocs r rest
  | .macroCall marks m semi :: rest =>
    marksDocs r marks ++ macroCallDocs m none (semi || (!rest.isEmpty && m.bracket != .curly)) ++
      hardBreak ++ stmtDocs r rest
  | .empty :: rest => stmtDocs r rest

def valueDocs (r : Rows) : Option Expr → List Doc
  | some e => text " = " ++ joint ++ exprDocs r .inner e
  | none => []

def divergeDocs (r : Rows) : Option (List Stmt) → List Doc
  | some body =>
    joint ++ block step (smallBlock [] body (soleDocs r .start body) (stmtDocs r body))
  | none => []

end

end Callwire.Layout
