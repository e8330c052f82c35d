import Callwire.Source.Token

/-!
# Why a row is no type

The causes that keep a row of trees from being read as a type, each with its
text.
-/

set_option autoImplicit false

namespace Callwire.Source

inductive TypeFault
  | noType
  | noBound
  | missing (what : String)
  | noName (atEnd : Bool)
  | keyword (name : String)
  | tooMuch (b : Option Bracket)
  | noTrait (isImpl : Bool)
  deriving DecidableEq, Repr

def closingName : Bracket → String
  | .round => "`)`"
  | .square => "`]`"
  | .curly => "`\x7d`"

def TypeFault.message : TypeFault → String
  | .noType =>
    "expected one of: `for`, parentheses, `fn`, `unsafe`, `extern`, identifier, `::`, `<`, " ++
      "`dyn`, square brackets, `*`, `&`, `!`, `impl`, `_`, lifetime"
  | .noBound =>
    "expected one of: identifier, `fn`, `unsafe`, `extern`, `super`, `self`, `Self`, `crate`"
  | .missing what => "expected " ++ what
  | .noName atEnd => (if atEnd then "unexpected end of input, " else "") ++ "expected identifier"
  | .keyword name => "expected identifier, found keyword `" ++ name ++ "`"
  | .tooMuch none => "unexpected token"
  | .tooMuch (some b) => "unexpected token, expected " ++ closingName b
  | .noTrait isImpl =>
    if isImpl then "at least one trait must be specified"
    else "at least one trait is required for an object type"

end Callwire.Source
