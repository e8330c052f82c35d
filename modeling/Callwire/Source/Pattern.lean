import Callwire.Source.Type

/-!
# Patterns

What stands before the value it takes apart: in parameters, in `let`, in the
arms of a `match`. Literals, ranges, paths, blocks of constants and macros are
written as expressions are, and kept as rows of trees.
-/

set_option autoImplicit false

namespace Callwire.Source

inductive Component
  | name (n : String)
  | index (i : Nat)

def Component.text : Component → String
  | .name n => n
  | .index i => toString i

def Component.tokens : Component → Tokens
  | .name n => [.name n]
  | .index i => [.literal (toString i)]

def Component.isName : Component → Bool
  | .name _ => true
  | .index _ => false

mutual

inductive Pattern
  | marked (marks : List Mark) (p : Pattern)
  | wild
  | rest
  | value (isHalfOpen : Bool) (row : Tokens)
  | bind (isRef : Bool) (isMut : Bool) (name : String) (inner : Option Pattern)
  | reference (isMut : Bool) (p : Pattern)
  | paren (p : Pattern)
  | tuple (elems : List Pattern) (trailing : Bool)
  | slice (elems : List Pattern) (trailing : Bool)
  | either (leading : Bool) (cases : List Pattern)
  | wrapped (path : Ty) (elems : List Pattern) (trailing : Bool)
  | record (path : Ty) (fields : List FieldPattern) (trailing : Bool) (rest : Option (List Mark))
  | typed (p : Pattern) (t : Ty)
  | verbatim (row : Tokens)

inductive FieldPattern
  | mk (marks : List Mark) (component : Option Component) (p : Pattern)

end

mutual

def Pattern.tokens : Pattern → Tokens
  | .marked marks p => markTokens marks ++ p.tokens
  | .wild => [.name "_"]
  | .rest => op ".."
  | .value _ row => row
  | .bind isRef isMut name inner =>
    wordIf isRef "ref" ++ wordIf isMut "mut" ++ .name name :: boundTo inner
  | .reference isMut p => op "&" ++ wordIf isMut "mut" ++ p.tokens
  | .paren p => [round p.tokens]
  | .tuple elems trailing => [round (separated trailing (patternRows elems))]
  | .slice elems trailing => [square (separated trailing (patternRows elems))]
  | .either leading cases => opIf leading "|" ++ (orRows cases).drop 1
  | .wrapped path elems trailing =>
    path.tokens ++ [round (separated trailing (patternRows elems))]
  | .record path fields trailing rest =>
    let row := separated trailing (fieldPatternRows fields)
    path.tokens ++ [curly (row ++ match rest with
      | some marks =>
        (if fields.isEmpty || trailing then [] else [comma]) ++ markTokens marks ++ op ".."
      | none => [])]
  | .typed p t => p.tokens ++ op ":" ++ t.tokens
  | .verbatim row => row

def boundTo : Option Pattern → Tokens
  | some p => op "@" ++ p.tokens
  | none => []

def patternRows : List Pattern → List Tokens
  | [] => []
  | p :: rest => p.tokens :: patternRows rest

def orRows : List Pattern → Tokens
  | [] => []
  | p :: rest => op "|" ++ p.tokens ++ orRows rest

def fieldPatternRows : List FieldPattern → List Tokens
  | [] => []
  | .mk marks component p :: rest =>
    (markTokens marks ++ (component.map fun c => c.tokens ++ op ":").getD [] ++ p.tokens) ::
      fieldPatternRows rest

end

end Callwire.Source
