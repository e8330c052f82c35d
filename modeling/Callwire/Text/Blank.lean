import Callwire.Text.Runs

/-!
# Blanks

White space of every script, and text without the blanks at its ends.
-/

set_option autoImplicit false

namespace Callwire.Text

def blanks : List (Nat × Nat) :=
  [(9, 13), (32, 32), (133, 133), (160, 160), (0x1680, 0x1680), (0x2000, 0x200a),
   (0x2028, 0x2029), (0x202f, 0x202f), (0x205f, 0x205f), (0x3000, 0x3000)]

/-- Characters with the property White_Space. -/
def isBlank (c : Char) : Bool := inRanges blanks c.toNat

def trimLeft (s : List Char) : List Char := s.dropWhile isBlank

def trimRight (s : List Char) : List Char := (s.reverse.dropWhile isBlank).reverse

def trim (s : List Char) : List Char := trimRight (trimLeft s)

end Callwire.Text
