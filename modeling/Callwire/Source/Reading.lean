import Callwire.Source.ItemReader

/-!
# Reading texts

The grammar of everything, and what is read from a text as a whole. How deep
the readers go is bounded by a number of steps; the size of what is read is
always enough.
-/

set_option autoImplicit false

namespace Callwire.Source

def grammar : Nat → Grammar
  | 0 => .empty
  | depth + 1 =>
    { ty := fun allowPlus ts => Reader.typeIn (grammar depth) allowPlus ts
      single := fun ts => Reader.singlePattern (grammar depth) ts
      expr := fun allowRecord ts => Reader.expression (grammar depth) allowRecord ts
      unary := fun allowRecord ts => Reader.unaryExpression (grammar depth) allowRecord ts
      early := fun ts => Reader.earlyExpression (grammar depth) ts
      statements := fun ts => Reader.allStatements (grammar depth) ts
      item := fun ts => Reader.anyItem (grammar depth) ts }

def grammarFor (ts : Tokens) : Grammar := grammar (2 * sizeOfTokens ts + 8)

def readAll {α : Type} (r : Grammar → Reader α) (ts : Tokens) : Option α :=
  match (r (grammarFor ts)).run ts with
  | some (a, []) => some a
  | _ => none

def readText {α : Type} (r : Grammar → Reader α) (s : String) : Option α :=
  lex s >>= readAll r

def Ty.ofTokens? (ts : Tokens) : Option Ty := readAll (·.ty true) ts

def Ty.ofString? (s : String) : Option Ty := readText (·.ty true) s

def Expr.ofTokens? (ts : Tokens) : Option Expr := readAll (·.expr true) ts

def Item.ofTokens? (ts : Tokens) : Option Item := readAll (·.item) ts

def Generics.ofRow? (ts : Tokens) : Option Generics :=
  readAll Reader.generics (op "<" ++ ts ++ op ">")

def pathOf? (s : String) : Option Path := readText (Reader.anyPath · false) s

def visibilityOf? (s : String) : Option Visibility := readText (fun _ => Reader.visibility) s

def Trait.ofString? (s : String) : Option Trait := readText Reader.traitItem s

def TypeDeclaration.ofString? (s : String) : Option TypeDeclaration :=
  readText Reader.typeItem s >>= Item.type?

structure File where
  inner : List Mark
  items : List Item

def File.tokens (f : File) : Tokens := markTokens f.inner ++ f.items.flatMap Item.tokens

def File.ofTokens? (ts : Tokens) : Option File :=
  readAll (fun g => do return ⟨← Reader.innerMarks g, ← Reader.upToEnd g.item⟩) ts

end Callwire.Source
