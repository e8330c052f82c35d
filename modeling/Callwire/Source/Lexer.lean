import Callwire.Source.Token
import Callwire.Text.Name
import Callwire.Text.Blank

/-!
# From text to token trees

Comments are blank, except documentation comments, which become attributes.
Each reader takes the text from where it stands and returns the rest.
-/

set_option autoImplicit false

namespace Callwire.Source

abbrev Chars := List Char

def after? (front : String) (s : Chars) : Option Chars :=
  if front.toList.isPrefixOf s then some (s.drop front.length) else none

def startsWith (s : Chars) (front : String) : Bool := front.toList.isPrefixOf s

def takeLine : Chars → Chars × Chars
  | [] => ([], [])
  | '\n' :: rest => ([], '\n' :: rest)
  | '\r' :: '\n' :: rest => ([], '\n' :: rest)
  | c :: rest => let (line, tail) := takeLine rest; (c :: line, tail)

def takeBlock (depth : Nat) : Chars → Option (Chars × Chars)
  | '/' :: '*' :: rest => (takeBlock (depth + 1) rest).map fun (b, t) => ('/' :: '*' :: b, t)
  | '*' :: '/' :: rest =>
    match depth with
    | 0 => some ([], rest)
    | d + 1 => (takeBlock d rest).map fun (b, t) => ('*' :: '/' :: b, t)
  | c :: rest => (takeBlock depth rest).map fun (b, t) => (c :: b, t)
  | [] => none

/-- The direction marks are blank as well. -/
def isSpace (c : Char) : Bool := Text.isBlank c || c == '\u200e' || c == '\u200f'

def isPlainLine (s : Chars) : Bool :=
  startsWith s "//" && (!startsWith s "///" || startsWith s "////") && !startsWith s "//!"

def isPlainBlock (s : Chars) : Bool :=
  startsWith s "/*" && (!startsWith s "/**" || startsWith s "/***" || startsWith s "/**/")
    && !startsWith s "/*!"

def skipBlank : Nat → Chars → Chars
  | 0, s => s
  | fuel + 1, s =>
    if isPlainLine s then skipBlank fuel (takeLine s).2
    else if isPlainBlock s then
      match takeBlock 0 (s.drop 2) with
      | some (_, rest) => skipBlank fuel rest
      | none => s
    else
      match s with
      | c :: rest => if isSpace c then skipBlank fuel rest else s
      | [] => []

def docText (s : Chars) : Option (Chars × Bool × Chars) :=
  if startsWith s "//!" then
    let (line, rest) := takeLine (s.drop 3)
    some (line, true, rest)
  else if startsWith s "/*!" then
    (takeBlock 0 (s.drop 2)).map fun (block, rest) => (block.drop 1, true, rest)
  else if startsWith s "///" && !startsWith s "////" then
    let (line, rest) := takeLine (s.drop 3)
    some (line, false, rest)
  else if startsWith s "/**" && !startsWith s "/***" then
    (takeBlock 0 (s.drop 2)).map fun (block, rest) => (block.drop 1, false, rest)
  else none

def hasBareReturn : Chars → Bool
  | '\r' :: '\n' :: rest => hasBareReturn rest
  | '\r' :: _ => true
  | _ :: rest => hasBareReturn rest
  | [] => false

def docAttribute (inner : Bool) (text : String) : Tokens :=
  .mark '#' false :: ((if inner then [.mark '!' false] else []) ++
    [square [.name "doc", .mark '=' false, string text]])

def docComment (s : Chars) : Option (Tokens × Chars) := do
  let (text, inner, rest) ← docText s
  guard (!hasBareReturn text)
  return (docAttribute inner (String.ofList text), rest)

/-! ## Names -/

def plainName : Chars → Option (String × Chars)
  | [] => none
  | c :: rest =>
    if Text.isNameStart c then
      some (String.ofList (c :: rest.takeWhile Text.isNameContinue),
        rest.dropWhile Text.isNameContinue)
    else none

def neverRaw : List String := ["_", "super", "self", "Self", "crate"]

def anyName (s : Chars) : Option (String × Chars) :=
  match after? "r#" s with
  | none => plainName s
  | some s =>
    match plainName s with
    | none => none
    | some (name, rest) => if neverRaw.contains name then none else some ("r#" ++ name, rest)

def brokenLiteral : List String :=
  ["r\"", "r#\"", "r##", "b\"", "b'", "br\"", "br#", "c\"", "cr\"", "cr#"]

def nameToken (s : Chars) : Option (String × Chars) :=
  if brokenLiteral.any (startsWith s) then none else anyName s

/-! ## Literals -/

def isHex (c : Char) : Bool :=
  c.isDigit || ('a' ≤ c && c ≤ 'f') || ('A' ≤ c && c ≤ 'F')

def hexValue (c : Char) : Nat :=
  if c.isDigit then c.toNat - 48 else if 'a' ≤ c then c.toNat - 87 else c.toNat - 55

def suffix (s : Chars) : Chars :=
  match plainName s with
  | some (_, rest) => rest
  | none => s

def codeDigits (value count : Nat) : Chars → Option (Char × Chars)
  | '_' :: rest => if count = 0 then none else codeDigits value count rest
  | '\x7d' :: rest =>
    if count ≠ 0 && value.isValidChar then some (Char.ofNat value, rest) else none
  | c :: rest =>
    if isHex c && count < 6 then codeDigits (value * 16 + hexValue c) (count + 1) rest else none
  | [] => none

structure Escapes where
  wideHex : Bool
  codes : Bool

def escape (e : Escapes) (s : Chars) : Option (Char × Chars) :=
  match s with
  | 'n' :: rest => some ('\n', rest)
  | 'r' :: rest => some ('\r', rest)
  | 't' :: rest => some ('\t', rest)
  | '\\' :: rest => some ('\\', rest)
  | '0' :: rest => some ('\x00', rest)
  | '\'' :: rest => some ('\'', rest)
  | '"' :: rest => some ('"', rest)
  | 'x' :: a :: b :: rest =>
    if isHex a && isHex b && (e.wideHex || ('0' ≤ a && a ≤ '7')) then
      some (Char.ofNat (hexValue a * 16 + hexValue b), rest)
    else none
  | 'u' :: '\x7b' :: rest => if e.codes then codeDigits 0 0 rest else none
  | _ => none

def isLineBlank (c : Char) : Bool := c == ' ' || c == '\t' || c == '\n' || c == '\r'

def continued (s : Chars) : Option Chars :=
  let blank := s.takeWhile isLineBlank
  let rest := s.dropWhile isLineBlank
  if hasBareReturn blank || rest.isEmpty then none else some rest

def quotedText (e : Escapes) (ascii : Bool) : Nat → Chars → Option (Chars × Chars)
  | 0, _ => none
  | fuel + 1, s =>
    match s with
    | [] => none
    | '"' :: rest => some ([], rest)
    | '\r' :: '\n' :: rest => (quotedText e ascii fuel rest).map fun (t, r) => ('\n' :: t, r)
    | '\r' :: _ => none
    | '\\' :: c :: rest =>
      if c = '\n' || c = '\r' then
        match continued (c :: rest) with
        | some rest => quotedText e ascii fuel rest
        | none => none
      else
        match escape e (c :: rest) with
        | some (x, rest) => (quotedText e ascii fuel rest).map fun (t, r) => (x :: t, r)
        | none => none
    | c :: rest =>
      if c = '\\' || (ascii && 127 < c.toNat) then none
      else (quotedText e ascii fuel rest).map fun (t, r) => (c :: t, r)

def rawText (hashes : Nat) : Chars → Option (Chars × Chars)
  | [] => none
  | '"' :: rest =>
    if (List.replicate hashes '#').isPrefixOf rest then some ([], rest.drop hashes)
    else (rawText hashes rest).map fun (t, r) => ('"' :: t, r)
  | '\r' :: '\n' :: rest => (rawText hashes rest).map fun (t, r) => ('\r' :: '\n' :: t, r)
  | '\r' :: _ => none
  | c :: rest => (rawText hashes rest).map fun (t, r) => (c :: t, r)

def rawLiteral (s : Chars) : Option (Chars × Chars) :=
  let hashes := (s.takeWhile (· == '#')).length
  match s.drop hashes with
  | '"' :: rest => if hashes ≤ 255 then rawText hashes rest else none
  | _ => none

def plainEscapes : Escapes := ⟨false, true⟩

def stringValue (s : Chars) : Option (String × Chars) :=
  match s with
  | '"' :: rest =>
    (quotedText plainEscapes false (rest.length + 1) rest).map fun (t, r) => (String.ofList t, r)
  | 'r' :: rest => (rawLiteral rest).map fun (t, r) => (String.ofList t, r)
  | _ => none

def byteString (s : Chars) : Option Chars :=
  match s with
  | 'b' :: '"' :: rest => (quotedText ⟨true, false⟩ true (rest.length + 1) rest).map (·.2)
  | 'b' :: 'r' :: rest => do
    let (text, rest) ← rawLiteral rest
    guard (text.all fun c => c.toNat ≤ 127)
    return rest
  | _ => none

def zeroString (s : Chars) : Option Chars := do
  let (text, rest) ← match s with
    | 'c' :: '"' :: rest => quotedText ⟨true, true⟩ false (rest.length + 1) rest
    | 'c' :: 'r' :: rest => rawLiteral rest
    | _ => none
  guard (text.all (· != '\x00'))
  return rest

def oneCharacter (e : Escapes) (ascii : Bool) (s : Chars) : Option Chars := do
  let rest ← match s with
    | '\\' :: rest => (escape e rest).map (·.2)
    | c :: rest => if ascii && 127 < c.toNat then none else some rest
    | [] => none
  after? "'" rest

def character (s : Chars) : Option Chars :=
  match s with
  | 'b' :: '\'' :: rest => oneCharacter ⟨true, false⟩ true rest
  | '\'' :: rest => oneCharacter plainEscapes false rest
  | _ => none

def wordEnds (s : Chars) : Bool :=
  match s with
  | c :: _ => !Text.isNameContinue c
  | [] => true

def isDigitOr_ (c : Char) : Bool := c.isDigit || c == '_'

/-- The text after the digits of an exponent that starts at `s`, if it has any.
One sign may stand before the digits, underscores anywhere. -/
def exponent (isSigned hasDigit : Bool) : Chars → Option Chars
  | [] => if hasDigit then some [] else none
  | c :: rest =>
    if c = '+' || c = '-' then
      if hasDigit then some (c :: rest)
      else if isSigned then none
      else exponent true hasDigit rest
    else if c.isDigit then exponent isSigned true rest
    else if c = '_' then exponent isSigned hasDigit rest
    else if hasDigit then some (c :: rest)
    else none

def startsName (s : Chars) : Bool :=
  match s with
  | c :: _ => Text.isNameStart c
  | [] => false

def startsDigit (s : Chars) : Bool :=
  match s with
  | c :: _ => c.isDigit
  | [] => false

def isExponent (c : Char) : Bool := c == 'e' || c == 'E'

def fractional (s : Chars) : Option Chars := do
  guard (startsDigit s)
  let rest := s.dropWhile isDigitOr_
  match rest with
  | '.' :: tail =>
    guard (!(startsWith tail "." || startsName tail))
    let tail := tail.dropWhile isDigitOr_
    match tail with
    | c :: power => if isExponent c then some ((exponent false false power).getD tail) else some tail
    | [] => some tail
  | c :: power => if isExponent c then exponent false false power else none
  | [] => none

def digitsOf (base : Nat) (s : Chars) : Option Chars :=
  let isPart (c : Char) : Bool := c == '_' || c.isDigit || (base == 16 && isHex c)
  let part := s.takeWhile isPart
  if part.any (fun c => c != '_' && base ≤ hexValue c) then none
  else if part.all (· == '_') then none
  else if base == 10 && part.head? == some '_' then none
  else some (s.dropWhile isPart)

def whole (s : Chars) : Option Chars :=
  match s with
  | '0' :: 'x' :: rest => digitsOf 16 rest
  | '0' :: 'o' :: rest => digitsOf 8 rest
  | '0' :: 'b' :: rest => digitsOf 2 rest
  | _ => digitsOf 10 s

def numeral (read : Chars → Option Chars) (s : Chars) : Option Chars := do
  let rest ← read s
  let rest := if startsName rest then suffix rest else rest
  guard (wordEnds rest)
  return rest

/-- What stands for text that could not be read; it is one literal. -/
def unread : String := "(/*ERROR*/)"

def literalEnd (s : Chars) : Option Chars :=
  ((stringValue s).map fun (_, r) => suffix r)
    <|> ((byteString s).map suffix)
    <|> ((zeroString s).map suffix)
    <|> ((character s).map suffix)
    <|> numeral fractional s
    <|> numeral whole s
    <|> after? unread s

/-! ## Marks and trees -/

def markChars : List Char := "~!@#$%^&*-=+|;:,<.>/?'".toList

def markAt (s : Chars) : Option (Char × Chars) :=
  match s with
  | c :: rest =>
    if startsWith s "//" || startsWith s "/*" then none
    else if markChars.contains c then some (c, rest) else none
  | [] => none

def markToken (s : Chars) : Option (Tree × Chars) := do
  let (c, rest) ← markAt s
  if c = '\'' then
    let (_, tail) ← anyName rest
    guard (!(startsWith tail "'" || (startsWith tail "#" && !startsWith rest "r#")))
    return (.mark '\'' true, rest)
  else
    return (.mark c (markAt rest).isSome, rest)

def leaf (s : Chars) : Option (Tree × Chars) :=
  match literalEnd s with
  | some rest => some (.literal (String.ofList (s.take (s.length - rest.length))), rest)
  | none =>
    match markToken s with
    | some found => some found
    | none => (nameToken s).map fun (name, rest) => (.name name, rest)

def openingOf : Chars → Option Bracket
  | '(' :: rest => if startsWith ('(' :: rest) unread then none else some .round
  | '[' :: _ => some .square
  | '\x7b' :: _ => some .curly
  | _ => none

def closingOf : Char → Option Bracket
  | ')' => some .round
  | ']' => some .square
  | '\x7d' => some .curly
  | _ => none

/-- Reads trees until the text ends. `done` are the trees of the innermost open
group, last first, and `opened` the groups around it. -/
def lexAll : Nat → Tokens → List (Bracket × Tokens) → Chars → Option Tokens
  | 0, _, _, _ => none
  | fuel + 1, done, opened, s =>
    let s := skipBlank (s.length + 1) s
    match docComment s with
    | some (doc, rest) => lexAll fuel (doc.reverse ++ done) opened rest
    | none =>
      match s with
      | [] => if opened.isEmpty then some done.reverse else none
      | c :: rest =>
        match openingOf s, closingOf c with
        | some b, _ => lexAll fuel [] ((b, done) :: opened) rest
        | none, some b =>
          match opened with
          | (b', outer) :: opened =>
            if b = b' then lexAll fuel (.group b done.reverse :: outer) opened rest else none
          | [] => none
        | none, none =>
          match leaf s with
          | some (t, rest) => lexAll fuel (t :: done) opened rest
          | none => none

def lex (s : String) : Option Tokens :=
  let chars := (after? "\ufeff" s.toList).getD s.toList
  lexAll (chars.length + 2) [] [] chars

end Callwire.Source
