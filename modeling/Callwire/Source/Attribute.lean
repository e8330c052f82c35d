import Callwire.Source.Lexer

/-!
# Attributes, visibilities and macro calls

What may stand beside any part of a source text. Paths of attributes, modules
and macros consist of names only.
-/

set_option autoImplicit false

namespace Callwire.Source

structure ModulePath where
  isAbsolute : Bool
  names : List String

def ModulePath.tokens (p : ModulePath) : Tokens :=
  let row := below (p.names.map fun n => [Tree.name n])
  if p.isAbsolute then row else row.drop 2

inductive MarkContent
  | bare
  | list (b : Bracket) (body : Tokens)
  | value (e : Tokens)

structure Mark where
  isInner : Bool
  path : ModulePath
  content : MarkContent

def Mark.isNamed (m : Mark) (name : String) : Bool :=
  !m.path.isAbsolute && m.path.names == [name]

def MarkContent.tokens : MarkContent → Tokens
  | .bare => []
  | .list b body => [.group b body]
  | .value e => op "=" ++ e

def Mark.tokens (m : Mark) : Tokens :=
  op "#" ++ (if m.isInner then op "!" else []) ++ [square (m.path.tokens ++ m.content.tokens)]

def markTokens (marks : List Mark) : Tokens := marks.flatMap Mark.tokens

def Mark.text? (m : Mark) : Option String :=
  match m.content with
  | .value [.literal l] => (stringValue l.toList).map (·.1)
  | _ => none

def docLines (marks : List Mark) : List String :=
  (marks.filter (·.isNamed "doc")).filterMap (·.text?)

inductive Visibility
  | inherited
  | everywhere
  | within (hasIn : Bool) (path : ModulePath)

def Visibility.tokens : Visibility → Tokens
  | .inherited => []
  | .everywhere => [.name "pub"]
  | .within hasIn path =>
    [.name "pub", round ((if hasIn then [.name "in"] else []) ++ path.tokens)]

inductive Convention
  | usual
  | foreign (name : Option String)

def Convention.tokens : Convention → Tokens
  | .usual => []
  | .foreign name => .name "extern" :: name.toList.map Tree.literal

structure MacroCall where
  path : ModulePath
  bracket : Bracket
  body : Tokens

def MacroCall.tokens (m : MacroCall) : Tokens :=
  m.path.tokens ++ op "!" ++ [.group m.bracket m.body]

def wordIf (isThere : Bool) (w : String) : Tokens := if isThere then [.name w] else []

def opIf (isThere : Bool) (s : String) : Tokens := if isThere then op s else []

end Callwire.Source
