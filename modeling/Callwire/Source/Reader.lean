import Callwire.Source.Keyword
import Callwire.Source.Lexer

/-!
# Readers

A reader takes trees from the front of a row and leaves the rest. What stands
in a group has to be read to its end.
-/

set_option autoImplicit false

namespace Callwire.Source

abbrev Reader (α : Type) := StateT Tokens Option α

namespace Reader

def marksAhead : List Char → Tokens → Bool
  | [], _ => true
  | [c], .mark d _ :: _ => c == d
  | c :: cs, .mark d joint :: rest => c == d && joint && marksAhead cs rest
  | _, _ => false

def aheadOp (s : String) (ts : Tokens) : Bool := marksAhead s.toList ts

def aheadWord (word : String) : Tokens → Bool
  | .name n :: _ => n == word
  | _ => false

def aheadName : Tokens → Bool
  | .name n :: _ => !isKeyword n
  | _ => false

def aheadAnyName : Tokens → Bool
  | .name _ :: _ => true
  | _ => false

def aheadGroup (b : Bracket) : Tokens → Bool
  | .group b' _ :: _ => b == b'
  | _ => false

def aheadLife : Tokens → Bool
  | .mark '\'' true :: .name _ :: _ => true
  | _ => false

def aheadLiteral : Tokens → Bool
  | .literal _ :: _ => true
  | .name n :: _ => n == "true" || n == "false"
  | .mark '-' _ :: .literal l :: _ => (l.toList.head?.map Char.isDigit).getD false
  | _ => false

def aheadString : Tokens → Bool
  | .literal l :: _ => l.startsWith "\"" || l.startsWith "r"
  | _ => false

def aheadSecond (p : Tokens → Bool) (ts : Tokens) : Bool := p (ts.drop 1)

def aheadThird (p : Tokens → Bool) (ts : Tokens) : Bool := p (ts.drop 2)

def isDone : Reader Bool := return (← get).isEmpty

def take : Reader Tree := do
  match ← get with
  | t :: rest => set rest; return t
  | [] => failure

def markOp (s : String) : Reader Unit := do
  guard (aheadOp s (← get))
  modify (List.drop s.length)

def word (w : String) : Reader Unit := do
  guard (aheadWord w (← get))
  modify (List.drop 1)

def tryWord (w : String) : Reader Bool := do
  let found := aheadWord w (← get)
  if found then modify (List.drop 1)
  return found

def tryOp (s : String) : Reader Bool := do
  let found := aheadOp s (← get)
  if found then modify (List.drop s.length)
  return found

def anyName : Reader String := do
  match ← take with
  | .name n => return n
  | _ => failure

def name : Reader String := do
  let n ← anyName
  guard (!isKeyword n)
  return n

def life : Reader String := do
  guard (aheadLife (← get))
  discard take
  anyName

def tryLife : Reader (Option String) := do
  if aheadLife (← get) then return some (← life) else return none

def tryLabel : Reader (Option String) := do
  if !aheadLife (← get) then return none
  let n ← life
  markOp ":"
  return some n

def group (b : Bracket) : Reader Tokens := do
  match ← take with
  | .group b' trees => if b = b' then return trees else failure
  | _ => failure

def inside {α : Type} (r : Reader α) (trees : Tokens) : Reader α := do
  match r.run trees with
  | some (a, []) => return a
  | _ => failure

def listOf {α : Type} (item : Reader α) (between : Reader Unit) (stop : Tokens → Bool) :
    Nat → Bool → Reader (List α × Bool)
  | 0, _ => failure
  | fuel + 1, trailing => do
    if stop (← get) then return ([], trailing)
    let a ← item
    if stop (← get) then return ([a], false)
    between
    let (rest, trailing) ← listOf item between stop fuel true
    return (a :: rest, trailing)

def commas {α : Type} (item : Reader α) (stop : Tokens → Bool) : Reader (List α × Bool) := do
  listOf item (markOp ",") stop ((← get).length + 1) false

def many {α : Type} (item : Reader α) : Nat → Reader (List α)
  | 0 => failure
  | fuel + 1 => do
    if ← isDone then return []
    let a ← item
    return a :: (← many item fuel)

def whenAhead {α : Type} (p : Tokens → Bool) (r : Reader α) : Reader (Option α) := do
  if p (← get) then return some (← r) else return none

def remainder : Reader Tokens := do
  let ts ← get
  set ([] : Tokens)
  return ts

def since (before : Tokens) : Reader Tokens := do
  return before.take (before.length - (← get).length)

def text {α : Type} (r : Reader α) (s : String) : Option α := do
  let trees ← lex s
  let (a, rest) ← r.run trees
  guard rest.isEmpty
  return a

end Reader

def nameOf? (s : String) : Option String := Reader.text Reader.name s

end Callwire.Source
