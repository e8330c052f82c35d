import Callwire.Layout.Item
import Callwire.Layout.Page
import Callwire.Source.Reading

/-!
# Source files as text

Rows of trees inside of what is laid out are read when they are reached. Each
is shorter than what it stands in, so that the size of a file bounds how deep
they lie.
-/

set_option autoImplicit false

namespace Callwire.Layout
open Source (Tokens textOf sizeOfTokens)

def rowText (ts : Tokens) : List Doc := text (textOf ts)

def rows : Nat → Rows
  | 0 => ⟨rowText, rowText, rowText⟩
  | depth + 1 =>
    { expr := fun ts => ((Source.Expr.ofTokens? ts).map (exprDocs (rows depth) .inner)).getD (rowText ts)
      item := fun ts => ((Source.Item.ofTokens? ts).map (itemDocs (rows depth))).getD (rowText ts)
      binder := fun ts =>
        ((Source.Generics.ofRow? ts).map (boundGenericsDocs (rows depth))).getD (rowText ts) }

def fileDocs (r : Rows) (f : Source.File) : List Doc :=
  block 0 (marksDocs r f.inner ++ f.items.flatMap (itemDocs r))

def fileText (f : Source.File) : Except String String :=
  render (fileDocs (rows (sizeOfTokens f.tokens)) f)

end Callwire.Layout
