import Callwire.Text.Printable
import Callwire.Text.Extending

/-!
# Quoted text

Messages show names in double quotes. Characters that cannot be read there are
written as escapes; which of the two quotes and whether extending marks are
escaped depends on where the text goes.
-/

set_option autoImplicit false

namespace Callwire.Text

structure Escaping where
  extending : Bool
  single : Bool
  double : Bool

def codePoint (c : Char) : List Char :=
  ['\\', 'u', '\x7b'] ++ Nat.toDigits 16 c.toNat ++ ['\x7d']

def escapeChar (e : Escaping) (c : Char) : List Char :=
  match c with
  | '\x00' => ['\\', '0']
  | '\t' => ['\\', 't']
  | '\r' => ['\\', 'r']
  | '\n' => ['\\', 'n']
  | '\\' => ['\\', '\\']
  | '"' => if e.double then ['\\', '"'] else ['"']
  | '\'' => if e.single then ['\\', '\''] else ['\'']
  | c =>
    if e.extending && isExtending c then codePoint c
    else if isPrintable c then [c]
    else codePoint c

def quoted (s : String) : String :=
  String.ofList ('"' :: s.toList.flatMap (escapeChar ⟨true, false, true⟩) ++ ['"'])

/-- Escaped text without quotes. Only a leading mark has nothing to join. -/
def escaped (s : String) : String :=
  match s.toList with
  | [] => ""
  | c :: rest => String.ofList
      (escapeChar ⟨true, true, true⟩ c ++ rest.flatMap (escapeChar ⟨false, true, true⟩))

def isOctal (c : Char) : Bool := '0' ≤ c && c ≤ '7'

def literalChars : List Char → List Char
  | [] => []
  | '\x00' :: c :: rest =>
    (if isOctal c then ['\\', 'x', '0', '0'] else ['\\', '0']) ++ literalChars (c :: rest)
  | '\'' :: rest => '\'' :: literalChars rest
  | c :: rest => escapeChar ⟨true, true, true⟩ c ++ literalChars rest

/-- A string literal of source text. A zero before an octal digit is written
in hexadecimal, so that it does not look like an octal escape. -/
def literal (s : String) : String :=
  String.ofList ('"' :: literalChars s.toList ++ ['"'])

end Callwire.Text
