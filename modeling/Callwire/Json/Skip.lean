import Callwire.Json.Text
import Callwire.Json.Numeral

/-!
# Skipping values

Values of unknown fields are checked for their form and forgotten. The brackets
that are open are kept on a stack.
-/

set_option autoImplicit false

namespace Callwire.Json

inductive Bracket
  | list
  | object
  deriving DecidableEq, Repr

namespace Bracket

def closing : Bracket → UInt8
  | list => closeList
  | object => closeObject

def noComma : Bracket → Cause
  | list => .noListComma
  | object => .noObjectComma

def atEnd : Bracket → Cause
  | list => .endInList
  | object => .endInObject

end Bracket

def start : Reader (Option Bracket) := do
  match ← blank with
  | none => failNext .endInValue
  | some b =>
    if b = 110 then eat; word ['u', 'l', 'l']; return none
    else if b = 116 then eat; word ['r', 'u', 'e']; return none
    else if b = 102 then eat; word ['a', 'l', 's', 'e']; return none
    else if b = minus then eat; skipNumber; return none
    else if isDigit b then skipNumber; return none
    else if b = quote then eat; skipText (← left); return none
    else if b = openList then eat; return some .list
    else if b = openObject then eat; return some .object
    else failNext .noValue

def afterValue : List Bracket → Reader (List Bracket)
  | [] => return []
  | b :: outer => do
    match ← blank with
    | none => failNext b.atEnd
    | some c =>
      if c = comma then
        eat
        return b :: outer
      else if c = b.closing then
        eat
        afterValue outer
      else failNext b.noComma

def afterOpening (b : Bracket) (outer : List Bracket) : Reader (List Bracket) := do
  match ← blank with
  | none => failNext b.atEnd
  | some c =>
    if c = b.closing then
      eat
      afterValue outer
    else return b :: outer

def colonNext : Reader Unit := do
  match ← blank with
  | none => failNext .endInObject
  | some c => if c = colon then eat else failNext .noColon

def skipKey : Reader Unit := do
  match ← blank with
  | none => failNext .endInObject
  | some c =>
    if c = quote then
      eat
      skipText (← left)
      colonNext
    else failNext .keyNotText

def skipAll : Nat → List Bracket → Reader Unit
  | 0, _ => fail .endInValue
  | fuel + 1, stack => do
    let stack ← match ← start with
      | none => afterValue stack
      | some b => afterOpening b stack
    match stack with
    | [] => return
    | .list :: _ => skipAll fuel stack
    | .object :: _ =>
      skipKey
      skipAll fuel stack

def skip : Reader Unit := do skipAll ((← left) + 1) []

end Callwire.Json
