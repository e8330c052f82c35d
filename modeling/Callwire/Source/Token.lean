import Callwire.Text.Quoted

/-!
# Token trees

Source text as names, marks, literals and bracketed groups. A mark that is
joint belongs together with the mark after it, as the two colons of a path do.
-/

set_option autoImplicit false

namespace Callwire.Source

inductive Bracket
  | round
  | square
  | curly
  deriving DecidableEq, Repr

inductive Tree
  | name (text : String)
  | mark (c : Char) (joint : Bool)
  | literal (text : String)
  | group (b : Bracket) (trees : List Tree)
  deriving Repr

abbrev Tokens := List Tree

def Bracket.opening : Bracket → String
  | .round => "("
  | .square => "["
  | .curly => "\x7b "

def Bracket.closing : Bracket → String
  | .round => ")"
  | .square => "]"
  | .curly => "\x7d"

def Tree.isJoint : Tree → Bool
  | .mark _ joint => joint
  | _ => false

def gap (t : Tree) (rest : Tokens) : String :=
  if rest.isEmpty || t.isJoint then "" else " "

mutual

def Tree.text : Tree → String
  | .name text => text
  | .mark c _ => c.toString
  | .literal text => text
  | .group b trees =>
    b.opening ++ textOf trees ++
      (if b = .curly && !trees.isEmpty then " " else "") ++ b.closing

def textOf : Tokens → String
  | [] => ""
  | t :: rest => t.text ++ gap t rest ++ textOf rest

end

def marksOf : List Char → Tokens
  | [] => []
  | [c] => [.mark c false]
  | c :: rest => .mark c true :: marksOf rest

def op (s : String) : Tokens := marksOf s.toList

def comma : Tree := .mark ',' false

def round (trees : Tokens) : Tree := .group .round trees

def square (trees : Tokens) : Tree := .group .square trees

def curly (trees : Tokens) : Tree := .group .curly trees

def separated (trailing : Bool) : List Tokens → Tokens
  | [] => []
  | [row] => row ++ if trailing then [comma] else []
  | row :: rest => row ++ comma :: separated trailing rest

def plus (trailing : Bool) : List Tokens → Tokens
  | [] => []
  | [row] => row ++ if trailing then op "+" else []
  | row :: rest => row ++ op "+" ++ plus trailing rest

def below : List Tokens → Tokens
  | [] => []
  | row :: rest => op "::" ++ row ++ below rest

/-- Rows, some of which go in front of the others. Each keeps the comma that
follows it; a comma is added where the two kinds meet without one. -/
def inFront (trailing : Bool) (isFront : List Bool) (rows : List Tokens) : Tokens :=
  let ends := List.replicate (rows.length - 1) [comma] ++ [if trailing then [comma] else []]
  let pairs := isFront.zip (rows.zip ends)
  let (front, back) := pairs.partition (·.1)
  let write (p : Bool × Tokens × Tokens) : Tokens := p.2.1 ++ p.2.2
  let isOpen := (front.getLast?.map fun p => p.2.2.isEmpty).getD false
  front.flatMap write ++ (if isOpen && !back.isEmpty then [comma] else []) ++ back.flatMap write

def lifetime (name : String) : Tokens := [.mark '\'' true, .name name]

def string (s : String) : Tree := .literal (Text.literal s)

mutual

def Tree.size : Tree → Nat
  | .group _ trees => 1 + sizeOfTokens trees
  | _ => 1

def sizeOfTokens : Tokens → Nat
  | [] => 0
  | t :: rest => t.size + sizeOfTokens rest

end

end Callwire.Source
