import Callwire.Layout.Doc
import Callwire.Source.Attribute

/-!
# The text in macros and attributes

Trees that follow no grammar are written with blanks where the trees before
suggest them. A line may end at any of these blanks.
-/

set_option autoImplicit false

namespace Callwire.Layout
open Source (Bracket Tree Tokens MacroCall ModulePath)

def ModulePath.text (p : ModulePath) : String :=
  (if p.isAbsolute then "::" else "") ++ "::".intercalate p.names

/-! ## Macros -/

inductive Before
  | start
  | dollar
  | dollarName
  | dollarNameColon
  | repetition
  | repetitionMark
  | pound
  | poundBang
  | dot
  | colon
  | twoColons
  | name
  | nameBang
  | bracket
  | other
  deriving DecidableEq

def spacedWords : List String :=
  ["as", "async", "await", "box", "break", "const", "continue", "crate", "dyn", "else", "enum",
   "extern", "fn", "for", "if", "impl", "in", "let", "loop", "macro", "match", "mod", "move",
   "mut", "pub", "ref", "return", "static", "struct", "trait", "type", "unsafe", "use", "where",
   "while", "yield"]

def isLoose (b : Bracket) : Bool := b = .curly

def afterRepetition : Tree → Option Before
  | .mark c false => if c = '+' || c = '*' || c = '?' then some .other else some .repetitionMark
  | .mark _ true => some .repetition
  | .name _ => some .repetitionMark
  | .literal _ => some .repetitionMark
  | .group .. => none

def closeTo (isMatcher : Bool) (before : Before) (t : Tree) : Option Before :=
  match before, t with
  | .dollar, .name _ => some (if isMatcher then .dollarName else .other)
  | .dollarName, .mark ':' false => some .dollarNameColon
  | .dollarNameColon, .name _ => some .other
  | .repetition, t => afterRepetition t
  | .repetitionMark, .mark c _ => if c = '+' || c = '*' then some .other else none
  | .pound, .mark '!' _ => some .poundBang
  | .dollar, .group .round _ => some .repetition
  | .pound, .group .square _ => some .other
  | .poundBang, .group .square _ => some .other
  | .name, .group b _ => if isLoose b then none else some .bracket
  | .name, .mark '!' false => some .nameBang
  | .nameBang, .group b _ => if isLoose b then none else some .other
  | .colon, .mark ':' _ => some .twoColons
  | _, _ => none

def blankBefore (isMatcher : Bool) (before : Before) (t : Tree) : Bool × Before :=
  match closeTo isMatcher before t, t with
  | some next, _ => (false, next)
  | none, .group b _ => (true, if isLoose b then .other else .bracket)
  | none, .name n =>
    if spacedWords.contains n then (true, .other)
    else (before ≠ .dot && before ≠ .twoColons, .name)
  | none, .literal _ => (before ≠ .dot, .name)
  | none, .mark c joint =>
    if c = ',' || c = ';' then (false, .other)
    else if c = '.' && !isMatcher then (before ≠ .name && before ≠ .bracket, .dot)
    else if c = ':' && joint then (before ≠ .name, .colon)
    else if c = '$' then (true, .dollar)
    else if c = '#' then (true, .pound)
    else (true, .other)

def holdsNext : Tree → Bool
  | .mark c joint => joint || c = '$'
  | _ => false

def isPoint : Tree → Bool
  | .mark '.' _ => true
  | _ => false

def openingText : Bracket → String
  | .round => "("
  | .square => "["
  | .curly => "\x7b"

def closingText : Bracket → String
  | .round => ")"
  | .square => "]"
  | .curly => "\x7d"

mutual

def treeDocs (isMatcher : Bool) : Tree → List Doc
  | .name n => text n
  | .mark c _ => text c.toString
  | .literal l => text l
  | .group b trees =>
    let edge := if isLoose b && !trees.isEmpty then space else []
    text (openingText b) ++ edge ++ macroDocs isMatcher .start true trees ++ edge ++
      text (closingText b)

def macroDocs (isMatcher : Bool) (before : Before) (isHeld : Bool) : Tokens → List Doc
  | [] => []
  | t :: rest =>
    let (isSpaced, next) := blankBefore isMatcher before t
    (if isHeld then [] else if isSpaced then space else if isPoint t then softBreak else []) ++
      treeDocs isMatcher t ++ macroDocs isMatcher next (holdsNext t) rest

end

def enclosedDocs (edge : List Doc) (isMatcher : Bool) (body : Tokens) : List Doc :=
  if body.isEmpty then []
  else block step (edge ++ fill 0 (macroDocs isMatcher .start true body) ++ outdented edge)

def ruleDocs : Tokens → List Doc
  | [] => []
  | .group b matcher :: .mark '=' true :: .mark '>' false :: .group _ body :: rest =>
    text (openingText b) ++ enclosedDocs softBreak true matcher ++ text (closingText b) ++
      text " =>" ++ text " \x7b" ++ joint ++ enclosedDocs hardBreak false body ++ text "\x7d" ++
      match rest with
      | [] => text ";" ++ hardBreak
      | .mark ';' false :: rest => text ";" ++ hardBreak ++ ruleDocs rest
      | _ => [.unprintable "bad macro_rules syntax"]
  | _ => [.unprintable "bad macro_rules syntax"]

def macroCallDocs (m : MacroCall) (name : Option String) (semi : Bool) : List Doc :=
  match m.path.names, name with
  | ["macro_rules"], some n =>
    if m.path.isAbsolute then plain else
      text ("macro_rules! " ++ n ++ " \x7b") ++
        block step (outdented (hardBreakInside ++ ruleDocs m.body)) ++ text "\x7d"
  | _, _ => plain
where
  plain : List Doc :=
    let edge := if m.bracket = .curly then hardBreak else softBreak
    text (ModulePath.text m.path ++ "!" ++ (name.map (" " ++ ·)).getD "") ++
      text ((if m.bracket = .curly then " " else "") ++ openingText m.bracket) ++
      enclosedDocs edge false m.body ++ text (closingText m.bracket) ++
      if semi then text ";" else []

/-! ## Attributes -/

inductive Last
  | word
  | mark
  | lastComma
  deriving DecidableEq

mutual

def listDocs (last : Last) : Tokens → List Doc × Last
  | [] => ([], last)
  | t :: rest =>
    let (docs, last) := listTree last rest.isEmpty t
    let (more, last) := listDocs last rest
    (docs ++ more, last)

def listTree (last : Last) (isEnd : Bool) : Tree → List Doc × Last
  | .name n => ((if last = .word then space else []) ++ text n, .word)
  | .literal l => ((if last = .word then space else []) ++ text l, .word)
  | .mark c _ =>
    if c = ',' && isEnd then (lastComma 0, .lastComma)
    else
      ((if c = '=' && last = .word then text " " else []) ++ text c.toString ++
        (if c = '=' then text " " else if c = ',' then space else []), .mark)
  | .group b trees =>
    let (docs, inside) := listDocs .mark trees
    match b with
    | .round =>
      (text "(" ++
        block step (outdented (softBreak ++ docs ++ if inside = .lastComma then [] else softBreak)) ++
        text ")", .mark)
    | _ => (text (openingText b) ++ docs ++ text (closingText b), .mark)

end

end Callwire.Layout
