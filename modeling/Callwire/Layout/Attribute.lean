import Callwire.Layout.Comment
import Callwire.Layout.MacroText

/-!
# Attributes as documents

Documentation is written as comments where that is possible, any other
attribute in its brackets.
-/

set_option autoImplicit false

namespace Callwire.Layout
open Source (Tokens Mark MarkContent Visibility Convention textOf)

structure Rows where
  expr : Tokens → List Doc
  item : Tokens → List Doc
  binder : Tokens → List Doc

def withoutLayout (kind : String) (row : Tokens) : Doc :=
  .unprintable (kind ++ "::Verbatim `" ++ textOf row ++ "`")

def CommentStyle.ofMark? (m : Mark) : Option CommentStyle :=
  if m.isNamed "doc" then some (if m.isInner then innerDoc else outerDoc)
  else if m.isNamed "comment" then some plainComment
  else none

def commentDocs? (m : Mark) : Option (List Doc) := do
  (← CommentStyle.ofMark? m).docs? (← m.text?)

def contentDocs (r : Rows) : MarkContent → List Doc
  | .bare => []
  | .list b body => (listDocs .word [.group b body]).1
  | .value e => text " = " ++ r.expr e

def markDocs (r : Rows) (m : Mark) : List Doc :=
  (commentDocs? m).getD
    (text (if m.isInner then "#![" else "#[") ++ text (ModulePath.text m.path) ++
      contentDocs r m.content ++ text "]" ++ space)

def marksDocs (r : Rows) (marks : List Mark) : List Doc := marks.flatMap (markDocs r)

def nearModules : List String := ["self", "super", "crate"]

def visibilityDocs : Visibility → List Doc
  | .inherited => []
  | .everywhere => text "pub "
  | .within _ path =>
    let isNear := !path.isAbsolute && (path.names.length = 1) && path.names.all nearModules.contains
    text ("pub(" ++ (if isNear then "" else "in ") ++ ModulePath.text path ++ ") ")

def conventionDocs : Convention → List Doc
  | .usual => []
  | .foreign none => text "extern "
  | .foreign (some name) => text ("extern " ++ name ++ " ")

end Callwire.Layout
