/-!
# Keywords

The words that are no names unless they are written raw.
-/

set_option autoImplicit false

namespace Callwire.Source

def keywords : List String :=
  ["_", "abstract", "as", "async", "await", "become", "box", "break", "const", "continue",
   "crate", "do", "dyn", "else", "enum", "extern", "false", "final", "fn", "for", "if", "impl",
   "in", "let", "loop", "macro", "match", "mod", "move", "mut", "override", "priv", "pub", "ref",
   "return", "Self", "self", "static", "struct", "super", "trait", "true", "try", "type",
   "typeof", "unsafe", "unsized", "use", "virtual", "where", "while", "yield"]

def isKeyword (name : String) : Bool := keywords.contains name

end Callwire.Source
