import Callwire.Layout.Doc

/-!
# Pages

Documents as lines. A group is broken if it and what follows it up to the next
break around it have no room on the line.
-/

set_option autoImplicit false

namespace Callwire.Layout

def margin : Int := 89

def leastRoom : Int := 60

/-- What is written so far: `room` columns are left in the line and `blank`
columns are skipped before the next text. -/
structure Page where
  written : String
  room : Int
  blank : Nat

def Page.empty : Page := ⟨"", margin, 0⟩

def blanks (n : Nat) : String := String.ofList (List.replicate n ' ')

def Page.write (p : Page) (s : String) : Page :=
  ⟨p.written ++ blanks p.blank ++ s, p.room - s.utf8ByteSize, 0⟩

def Page.writeAny (p : Page) (s : String) : Page := if s = "" then p else p.write s

def Page.newLine (p : Page) (indent : Int) : Page :=
  ⟨p.written ++ "\n", max (margin - indent) leastRoom, indent.toNat⟩

def Page.join (p : Page) (b : Break) : Page :=
  ({ p with room := p.room - b.blank, blank := p.blank + b.blank } : Page).writeAny b.joining

def Page.split (p : Page) (b : Break) (indent : Int) : Page :=
  ((p.writeAny b.closing).newLine (indent + b.offset)).writeAny b.opening

def staysOnLine (kind : Option Kind) (b : Break) (size : Nat) (room : Int) : Bool :=
  b.isJoined ||
    match kind with
    | none => true
    | some .all => false
    | some .filled => (size : Int) ≤ room

mutual

def Doc.print (kind : Option Kind) (indent : Int) (after : Nat) : Doc → Page → Page
  | .text s, p => p.write s
  | .overlong, p => p
  | .unprintable _, p => p
  | .stop b, p =>
    if staysOnLine kind b (b.blank + after) p.room then p.join b else p.split b indent
  | .group offset inner docs, p =>
    if ((widthOf docs + after : Nat) : Int) > p.room then
      printAll (some inner) (indent + offset) after docs p
    else printAll none indent after docs p

def printAll (kind : Option Kind) (indent : Int) (after : Nat) : List Doc → Page → Page
  | [], p => p
  | d :: rest, p => printAll kind indent after rest (d.print kind indent (lead after rest) p)

end

def render (docs : List Doc) : Except String String :=
  match unprintableIn docs with
  | some part => .error part
  | none => .ok (printAll (some .filled) 0 0 docs Page.empty).written

end Callwire.Layout
