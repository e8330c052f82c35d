import Callwire.Json.Skip
import Callwire.Text.Quoted

/-!
# Records in JSON

A record is an object with known fields, or a list of their values in order.
Unknown fields are skipped; a known one must be there once.
-/

set_option autoImplicit false

namespace Callwire.Json

inductive Kind
  | text
  | count
  deriving DecidableEq, Repr

inductive Scalar
  | text (s : String)
  | count (n : UInt64)
  deriving DecidableEq, Repr

def Scalar.kind : Scalar → Kind
  | .text _ => .text
  | .count _ => .count

structure Shape where
  name : String
  fields : List (String × Kind)
  deriving DecidableEq, Repr

def Kind.expected : Kind → String
  | .text => "a string"
  | .count => "u64"

def found : Reader String := do
  match ← peek with
  | none => failNext .noValue
  | some b =>
    if b = 110 then eat; word ['u', 'l', 'l']; return "null"
    else if b = 116 then eat; word ['r', 'u', 'e']; return "boolean `true`"
    else if b = 102 then eat; word ['a', 'l', 's', 'e']; return "boolean `false`"
    else if b = minus then eat; return (← number false).found
    else if isDigit b then return (← number true).found
    else if b = quote then eat; return "string " ++ Text.quoted (← text)
    else if b = openList then return "sequence"
    else if b = openObject then return "map"
    else failNext .noValue

def mismatch {α : Type} (expected : String) : Reader α := do
  let f ← found
  fail (.wrongType f expected)

def countOf (expected : String) (n : Numeral) : Reader UInt64 :=
  match n with
  | .whole n => return UInt64.ofNat n
  | .below _ => fail (.wrongValue n.found expected)
  | .floating _ _ => fail (.wrongType n.found expected)

def Kind.read (k : Kind) : Reader Scalar := do
  match ← blank with
  | none => failNext .endInValue
  | some b =>
    match k with
    | .text =>
      if b = quote then
        eat
        return .text (← Json.text)
      else mismatch k.expected
    | .count =>
      if b = minus then
        eat
        return .count (← countOf k.expected (← number false))
      else if isDigit b then return .count (← countOf k.expected (← number true))
      else mismatch k.expected

namespace Shape

def expected (s : Shape) : String := "struct " ++ s.name

def expectedElements (s : Shape) : String :=
  s.expected ++ " with " ++ toString s.fields.length ++
    (if s.fields.length = 1 then " element" else " elements")

def hasElement (first : Bool) : Reader Bool := do
  match ← blank with
  | none => failNext .endInList
  | some b =>
    if b = closeList then return false
    else if first then return true
    else if b = comma then
      eat
      if (← blank) = some closeList then failNext .trailingComma else return true
    else failNext .noListComma

def elements (s : Shape) (done : Nat) : List Kind → Reader (List Scalar)
  | [] => return []
  | k :: ks => do
    if ← hasElement (done == 0) then
      let v ← k.read
      return v :: (← elements s (done + 1) ks)
    else
      eat
      fail (.wrongLength done s.expectedElements)

def endOfList : Reader Unit := do
  match ← blank with
  | none => failNext .endInList
  | some b =>
    if b = closeList then eat
    else if b = comma then
      eat
      failNext (if (← blank) = some closeList then .trailingComma else .trailing)
    else failNext .trailing

def hasField (first : Bool) : Reader Bool := do
  match ← blank with
  | none => failNext .endInObject
  | some b =>
    if b = closeObject then return false
    else if first then
      if b = quote then return true else failNext .keyNotText
    else if b = comma then
      eat
      match ← blank with
      | none => failNext .endInValue
      | some c =>
        if c = quote then return true
        else failNext (if c = closeObject then .trailingComma else .keyNotText)
    else failNext .noObjectComma

/-- A known field that was read before is reported after the blanks behind its
name, and after the bracket if that closes the object. -/
def duplicate {α : Type} (name : String) : Reader α := do
  if (← blank) = some closeObject then eat
  fail (.duplicateField name)

def entries (s : Shape) : Nat → List (String × Scalar) → Bool → Reader (List (String × Scalar))
  | 0, _, _ => fail .endInObject
  | fuel + 1, seen, first => do
    if ← hasField first then
      eat
      let key ← text
      match s.fields.lookup key with
      | none =>
        colonNext
        skip
        entries s fuel seen false
      | some k =>
        if (seen.lookup key).isSome then duplicate key
        else
          colonNext
          let v ← k.read
          entries s fuel (seen ++ [(key, v)]) false
    else
      eat
      return seen

def inOrder (seen : List (String × Scalar)) : List (String × Kind) → Reader (List Scalar)
  | [] => return []
  | (name, _) :: rest => do
    match seen.lookup name with
    | some v => return v :: (← inOrder seen rest)
    | none => fail (.missingField name)

def read (s : Shape) : Reader (List Scalar) := do
  match ← blank with
  | none => failNext .endInValue
  | some b =>
    if b = openList then
      eat
      let vs ← elements s 0 (s.fields.map (·.2))
      endOfList
      return vs
    else if b = openObject then
      eat
      inOrder (← entries s ((← left) + 1) [] true) s.fields
    else mismatch s.expected

def decode (s : Shape) (document : Bytes) : Except PlacedFault (List Scalar) :=
  let whole : Reader (List Scalar) := do
    let vs ← s.read
    if (← blank).isSome then failNext .trailing else return vs
  match whole document with
  | .ok (vs, _) => .ok vs
  | .error f => .error (f.within document)

end Shape

end Callwire.Json
