/-!
# Documents

Text with places where a line may end. A group either stays on one line or is
broken; what the breaks of a broken group do is up to its kind.
-/

set_option autoImplicit false

namespace Callwire.Layout

structure Break where
  offset : Int := 0
  blank : Nat := 0
  closing : String := ""
  opening : String := ""
  joining : String := ""
  isOptional : Bool := false
  isJoined : Bool := false
  deriving DecidableEq, Repr

/-- Which breaks of a broken group end a line: every one, or each whose rest
of the line has no room. -/
inductive Kind
  | all
  | filled
  deriving DecidableEq, Repr

inductive Doc
  | text (s : String)
  | overlong
  | unprintable (part : String)
  | stop (b : Break)
  | group (offset : Int) (kind : Kind) (docs : List Doc)

def unbounded : Nat := 65535

def step : Int := 4

mutual

def Doc.width : Doc → Nat
  | .text s => s.utf8ByteSize
  | .overlong => unbounded
  | .unprintable _ => 0
  | .stop b => b.blank
  | .group _ _ docs => widthOf docs

def widthOf : List Doc → Nat
  | [] => 0
  | d :: rest => d.width + widthOf rest

end

mutual

def Doc.unprintable? : Doc → Option String
  | .unprintable part => some part
  | .group _ _ docs => unprintableIn docs
  | _ => none

def unprintableIn : List Doc → Option String
  | [] => none
  | d :: rest => d.unprintable?.or (unprintableIn rest)

end

def lead (after : Nat) : List Doc → Nat
  | [] => after
  | .stop _ :: _ => 0
  | d :: rest => d.width + lead after rest

/-! ## Rows of documents -/

def text (s : String) : List Doc := [.text s]

def space : List Doc := [.stop { blank := 1 }]

def softBreak : List Doc := [.stop {}]

def hardBreak : List Doc := [.stop { blank := unbounded }]

def hardBreakInside : List Doc := [.stop { blank := unbounded, isOptional := true }]

def spaceInside : List Doc := [.stop { blank := 1, isOptional := true }]

def joint : List Doc := [.stop { isJoined := true }]

def lastComma (blank : Nat) : List Doc := [.stop { blank := blank, closing := "," }]

def commaRows (blank : Nat) : List (List Doc) → List Doc
  | [] => []
  | [row] => row ++ lastComma blank
  | row :: rest => row ++ text "," ++ space ++ commaRows blank rest

def outdented : List Doc → List Doc
  | [] => []
  | [.stop b] => [.stop { b with offset := b.offset - step }]
  | d :: rest => d :: outdented rest

def closed (docs : List Doc) : List Doc :=
  match docs.getLast? with
  | some (.stop b) => if b.isOptional then docs.dropLast else docs
  | _ => docs

def box (offset : Int) (kind : Kind) (docs : List Doc) : List Doc :=
  match docs with
  | [.stop _] => []
  | _ => [.group offset kind (closed docs)]

def block (offset : Int) (docs : List Doc) : List Doc := box offset .all docs

def fill (offset : Int) (docs : List Doc) : List Doc := box offset .filled docs

def blockWithin (limit : Nat) (offset : Int) (docs : List Doc) : List Doc :=
  block offset (if widthOf docs > limit then docs ++ [.overlong] else docs)

def filledRows : List (List Doc) → List Doc
  | [] => []
  | [row] => row
  | row :: rest => row ++ text "," ++ space ++ filledRows rest

def listed (offset : Int) (rows : List (List Doc)) : List Doc :=
  block offset (outdented (softBreak ++ commaRows 0 rows))

def listedUpTo (isOpen : Bool) (offset : Int) (rows : List (List Doc)) : List Doc :=
  if isOpen then block offset (outdented (softBreak ++ filledRows rows ++ softBreak))
  else listed offset rows

def tupleRows : List (List Doc) → List Doc
  | [row] => block step (outdented (softBreak ++ row ++ text "," ++ softBreak))
  | rows => listed step rows

def wordIf (isThere : Bool) (word : String) : List Doc :=
  if isThere then text (word ++ " ") else []

def braced (members : List Doc) : List Doc :=
  text "\x7b" ++ joint ++ block step (outdented (hardBreakInside ++ members)) ++ text "\x7d"

def bracedAfter (front members : List Doc) : List Doc :=
  block step (front ++ text "\x7b" ++ outdented (hardBreakInside ++ members)) ++ text "\x7d" ++
    hardBreak

end Callwire.Layout
