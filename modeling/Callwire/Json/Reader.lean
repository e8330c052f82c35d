import Callwire.Json.Fault

/-!
# Reading JSON

A reader takes bytes off the front of a document. Faults are reported either
at the bytes that were read or one byte further, where the byte that should not
be there has been looked at but not taken.
-/

set_option autoImplicit false

namespace Callwire.Json

abbrev Reader := StateT Bytes (Except Fault)

def fail {α : Type} (cause : Cause) : Reader α := fun rest => .error ⟨cause, rest.length⟩

def failNext {α : Type} (cause : Cause) : Reader α := fun rest => .error ⟨cause, rest.length - 1⟩

def peek : Reader (Option UInt8) := fun rest => .ok (rest.head?, rest)

def eat : Reader Unit := fun rest => .ok ((), rest.drop 1)

def next : Reader (Option UInt8) := fun rest => .ok (rest.head?, rest.drop 1)

def left : Reader Nat := fun rest => .ok (rest.length, rest)

def isBlank (b : UInt8) : Bool := b == 32 || b == 9 || b == 10 || b == 13

def blank : Reader (Option UInt8) := fun rest =>
  let rest := rest.dropWhile isBlank
  .ok (rest.head?, rest)

def isDigit (b : UInt8) : Bool := 48 ≤ b && b ≤ 57

def digitOf (b : UInt8) : Nat := b.toNat - 48

def digits : Reader Bytes := fun rest => .ok (rest.takeWhile isDigit, rest.dropWhile isDigit)

def comma : UInt8 := 44
def colon : UInt8 := 58
def quote : UInt8 := 34
def backslash : UInt8 := 92
def minus : UInt8 := 45
def point : UInt8 := 46
def openList : UInt8 := 91
def closeList : UInt8 := 93
def openObject : UInt8 := 123
def closeObject : UInt8 := 125

def word : List Char → Reader Unit
  | [] => pure ()
  | c :: cs => do
    match ← next with
    | none => fail .endInValue
    | some b => if b.toNat = c.toNat then word cs else fail .noWord

end Callwire.Json
