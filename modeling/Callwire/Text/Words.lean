import Callwire.Text.Word
import Callwire.Text.Case

/-!
# Words of a name

A name is cut into words where characters other than letters and digits stand,
before a capital that follows a small letter, and before the last capital of a
row of capitals that goes on with small letters. Identifiers are the words put
together again in another case.
-/

set_option autoImplicit false

namespace Callwire.Text

inductive Casing
  | none
  | lower
  | upper
  deriving DecidableEq

def Casing.after (m : Casing) (c : Char) : Casing :=
  if isLowercase c then .lower else if isUppercase c then .upper else m

/-- Cuts a row of letters and digits; `word` is the word so far, last letter first. -/
def cutWords (m : Casing) (word : List Char) : List Char → List (List Char)
  | [] => []
  | [c] => [(c :: word).reverse]
  | c :: d :: rest =>
    if m.after c = .lower && isUppercase d then
      (c :: word).reverse :: cutWords .none [] (d :: rest)
    else if m = .upper && isUppercase c && isLowercase d then
      word.reverse :: cutWords .none [c] (d :: rest)
    else cutWords (m.after c) (c :: word) (d :: rest)

def rows (row : List Char) : List Char → List (List Char)
  | [] => [row.reverse]
  | c :: rest =>
    if isAlphanumeric c then rows (c :: row) rest else row.reverse :: rows [] rest

def wordsOf (name : List Char) : List (List Char) :=
  (rows [] name).flatMap (cutWords .none [])

/-- A capital sigma that ends a word has a small form of its own. -/
def lowerWord : List Char → List Char
  | [] => []
  | [c] => if c = 'Σ' then ['ς'] else toLower c
  | c :: d :: rest => toLower c ++ lowerWord (d :: rest)

def capitalWord : List Char → List Char
  | [] => []
  | c :: rest => toUpper c ++ lowerWord rest

def snakeCase (name : String) : String :=
  String.ofList (['_'].intercalate ((wordsOf name.toList).map lowerWord))

def camelCase (name : String) : String :=
  String.ofList ((wordsOf name.toList).flatMap capitalWord)

end Callwire.Text
