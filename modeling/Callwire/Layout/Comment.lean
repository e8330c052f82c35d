import Callwire.Layout.Doc

/-!
# Documentation as comments

A line of documentation is a line comment if it has no line ends of its own,
else a block comment if it can be one, and else an attribute.
-/

set_option autoImplicit false

namespace Callwire.Layout

def dropBlanksAtEnd (line : List Char) : List Char :=
  (line.reverse.dropWhile (· = ' ')).reverse

def dropInnerBlanks (lines : List (List Char)) : List (List Char) :=
  match lines with
  | [] => []
  | [last] => [last]
  | line :: rest => dropBlanksAtEnd line :: dropInnerBlanks rest

def splitLines : List Char → List (List Char)
  | [] => [[]]
  | c :: rest =>
    match splitLines rest with
    | [] => [[c]]
    | line :: lines => if c = '\n' then [] :: line :: lines else (c :: line) :: lines

def joinLines (lines : List (List Char)) : String :=
  "\n".intercalate (lines.map String.ofList)

def isBalanced : Nat → List Char → Bool
  | depth, '/' :: '*' :: rest => isBalanced (depth + 1) rest
  | 0, '*' :: '/' :: _ => false
  | depth + 1, '*' :: '/' :: rest => isBalanced depth rest
  | depth, _ :: rest => isBalanced depth rest
  | depth, [] => depth = 0

def startsWithAny (marks : List Char) (text : List Char) : Bool :=
  text.head?.any marks.contains

structure CommentStyle where
  line : String
  block : String
  lineExcept : List Char
  blockExcept : List Char

def outerDoc : CommentStyle := ⟨"///", "/**", ['/'], ['*', '/']⟩

def innerDoc : CommentStyle := ⟨"//!", "/*!", [], []⟩

def plainComment : CommentStyle := ⟨"//", "/*", [], ['*', '!']⟩

def CommentStyle.takesLine (s : CommentStyle) (text : List Char) : Bool :=
  !text.contains '\n' && !startsWithAny s.lineExcept text

def CommentStyle.takesBlock (s : CommentStyle) (text : List Char) : Bool :=
  isBalanced 0 text && text.getLast? != some '/' && !startsWithAny s.blockExcept text

def CommentStyle.docs? (s : CommentStyle) (line : String) : Option (List Doc) :=
  if s.takesLine line.toList then
    some (text s.line ++ text (String.ofList (dropBlanksAtEnd line.toList)) ++ hardBreak)
  else if s.takesBlock line.toList then
    some (text s.block ++ text (joinLines (dropInnerBlanks (splitLines line.toList))) ++
      text "*/" ++ hardBreak)
  else none

end Callwire.Layout
