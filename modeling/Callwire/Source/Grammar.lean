import Callwire.Source.Item
import Callwire.Source.Reader

/-!
# Grammars

Types, patterns, expressions, statements and items hold each other. A grammar
has a reader of each; the rules of each kind are written for any grammar, which
reads the parts inside.
-/

set_option autoImplicit false

namespace Callwire.Source

/-- The readers of what stands inside of something else. A plus belongs to a
type only where it may; a structure in curly brackets is an expression only
where it may be. -/
structure Grammar where
  ty : (allowPlus : Bool) → Reader Ty
  single : Reader Pattern
  expr : (allowRecord : Bool) → Reader Expr
  unary : (allowRecord : Bool) → Reader Expr
  early : Reader Expr
  statements : Reader (List Stmt)
  item : Reader Item

def Grammar.empty : Grammar :=
  ⟨fun _ => failure, failure, fun _ => failure, fun _ => failure, failure, failure, failure⟩

namespace Reader

def isModuleWord (n : String) : Bool := ["super", "self", "Self", "crate"].contains n

def moduleWordAhead : Tokens → Bool
  | .name n :: _ => isModuleWord n
  | _ => false

def moduleNames : Nat → Reader (List String)
  | 0 => failure
  | fuel + 1 => do
    let n ← anyName
    guard (!isKeyword n || isModuleWord n)
    if ← tryOp "::" then return n :: (← moduleNames fuel) else return [n]

def modulePath : Reader ModulePath := do
  let isAbsolute ← tryOp "::"
  return ⟨isAbsolute, ← moduleNames ((← get).length + 1)⟩

def visibility : Reader Visibility := do
  if !(← tryWord "pub") then return .inherited
  match ← get with
  | .group .round [.name n] :: rest => do
    if ["crate", "self", "super"].contains n then
      set rest
      return .within false ⟨false, [n]⟩
    return .everywhere
  | .group .round (.name "in" :: inner) :: rest => do
    set rest
    return .within true (← inside modulePath inner)
  | _ => return .everywhere

def convention : Reader Convention := do
  if !(← tryWord "extern") then return .usual
  match ← get with
  | .literal l :: rest =>
    if aheadString [.literal l] then
      set rest
      return .foreign (some l)
    return .foreign none
  | _ => return .foreign none

def anyGroup : Reader (Bracket × Tokens) := do
  match ← take with
  | .group b body => return (b, body)
  | _ => failure

def macroRest (path : ModulePath) : Reader MacroCall := do
  markOp "!"
  let (b, body) ← anyGroup
  return ⟨path, b, body⟩

def bangAhead (ts : Tokens) : Bool := aheadOp "!" ts && !aheadOp "!=" ts

def markContent (g : Grammar) : Reader MarkContent := do
  match ← get with
  | [] => return .bare
  | .group b body :: rest => do set rest; return .list b body
  | _ => do
    markOp "="
    let ts ← get
    guard (!(aheadOp "#" ts && aheadSecond (aheadGroup .square) ts))
    return .value (← g.expr true).tokens

def markBody (g : Grammar) (isInner : Bool) : Reader Mark := do
  let path ← if ← tryWord "unsafe" then pure ⟨false, ["unsafe"]⟩ else modulePath
  return ⟨isInner, path, ← markContent g⟩

def marksUpTo (g : Grammar) : Nat → Reader (List Mark)
  | 0 => failure
  | fuel + 1 => do
    if !aheadOp "#" (← get) then return []
    markOp "#"
    let m ← inside (markBody g false) (← group .square)
    return m :: (← marksUpTo g fuel)

def marks (g : Grammar) : Reader (List Mark) := do marksUpTo g ((← get).length + 1)

def innerMarksUpTo (g : Grammar) : Nat → Reader (List Mark)
  | 0 => failure
  | fuel + 1 => do
    let ts ← get
    if !(aheadOp "#" ts && aheadSecond (aheadOp "!") ts) then return []
    markOp "#"
    markOp "!"
    let m ← inside (markBody g true) (← group .square)
    return m :: (← innerMarksUpTo g fuel)

def innerMarks (g : Grammar) : Reader (List Mark) := do innerMarksUpTo g ((← get).length + 1)

def block (g : Grammar) : Reader (List Stmt) := do inside g.statements (← group .curly)

def body (g : Grammar) : Reader Body := do
  inside (do return ⟨← innerMarks g, ← g.statements⟩) (← group .curly)

end Reader

end Callwire.Source
