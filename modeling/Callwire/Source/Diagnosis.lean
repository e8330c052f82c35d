import Callwire.Source.Reading
import Callwire.Source.TypeFault

/-!
# What is wrong with a row that is no type

Parts that read are skipped; the first that does not is looked into. Each step
gives the rest of the row after what was looked at, or the fault in it.
-/

set_option autoImplicit false

namespace Callwire.Source.Diagnosis
open Reader

abbrev Step := Tokens → Except TypeFault Tokens

def after? {α : Type} (r : Reader α) (ts : Tokens) : Option Tokens := (r.run ts).map (·.2)

def past (p : Tokens → Bool) (n : Nat) (what : String) : Step := fun ts =>
  if p ts then .ok (ts.drop n) else .error (.missing what)

def nameFault : Tokens → TypeFault
  | .name n :: _ => .keyword n
  | [] => .noName true
  | _ => .noName false

def aheadBoundType (ts : Tokens) : Bool :=
  aheadName ts || ["fn", "unsafe", "extern", "super", "self", "Self", "crate"].any (aheadWord · ts)

mutual

def type (g : Grammar) : Nat → Step
  | 0 => fun _ => .error .noType
  | fuel + 1 => fun ts =>
    match after? (g.ty true) ts with
    | some rest => .ok rest
    | none =>
      match ts with
      | .name "for" :: rest =>
        match after? (anyBinder g) ts with
        | some more => if aheadBoundType more then type g fuel more else .error .noBound
        | none => past (aheadOp "<") 1 "`<`" rest >>= arguments g fuel
      | .name "fn" :: rest => past (aheadGroup .round) 1 "parentheses" rest
      | .name "unsafe" :: rest =>
        past (fun ts => aheadWord "fn" ts || aheadWord "extern" ts) 0 "`fn`" rest >>= type g fuel
      | .name "extern" :: rest =>
        let more := if aheadString rest then rest.drop 1 else rest
        past (aheadWord "fn") 0 "`fn`" more >>= type g fuel
      | .name "dyn" :: rest => bounds g false fuel rest
      | .name "impl" :: rest => bounds g true fuel rest
      | .group .round inner :: _ => do
        discard (type g fuel inner)
        .error (.tooMuch (some .round))
      | .group .square inner :: _ => do
        discard (type g fuel inner)
        .error (.tooMuch (some .square))
      | .mark '*' _ :: rest =>
        past (fun ts => aheadWord "mut" ts || aheadWord "const" ts) 1 "`mut` or `const`" rest >>=
          type g fuel
      | .mark '&' _ :: rest =>
        let more := if aheadLife rest then rest.drop 2 else rest
        type g fuel (if aheadWord "mut" more then more.drop 1 else more)
      | .mark '\'' true :: _ => if aheadLife ts then bounds g false fuel ts else .error .noType
      | .mark '<' _ :: rest => do
        let more ← type g fuel rest
        let more ← if aheadWord "as" more then path g fuel (more.drop 1) else pure more
        path g fuel (← past (aheadOp ">") 1 "`>`" more >>= past (aheadOp "::") 2 "`::`")
      | _ =>
        if aheadName ts || moduleWordAhead ts || aheadOp "::" ts then do
          let rest ← path g fuel ts
          if aheadOp "!" rest then .error (.missing "delimiter") else .ok rest
        else .error .noType

def path (g : Grammar) : Nat → Step
  | 0 => fun _ => .error .noType
  | fuel + 1 => fun ts => segments g fuel (if aheadOp "::" ts then ts.drop 2 else ts)

def segments (g : Grammar) : Nat → Step
  | 0 => fun _ => .error .noType
  | fuel + 1 => fun ts =>
    match after? (segment g false (stepsFor ts)) ts with
    | some rest => if aheadOp "::" rest then segments g fuel (rest.drop 2) else .ok rest
    | none =>
      if aheadName ts then arguments g fuel (ts.drop (if aheadSecond (aheadOp "::") ts then 4 else 2))
      else .error (nameFault ts)

def arguments (g : Grammar) : Nat → Step
  | 0 => fun _ => .error .noType
  | fuel + 1 => fun ts =>
    if aheadOp ">" ts then .ok (ts.drop 1)
    else do
      let rest ← match after? (argument g (stepsFor ts)) ts with
        | some rest => pure rest
        | none => type g fuel ts
      if aheadOp ">" rest then .ok (rest.drop 1)
      else past (aheadOp ",") 1 "`,`" rest >>= arguments g fuel

def bounds (g : Grammar) (isImpl : Bool) : Nat → Step
  | 0 => fun _ => .error .noType
  | fuel + 1 => fun ts =>
    if aheadLife ts then
      if aheadOp "+" (ts.drop 2) then bounds g isImpl fuel (ts.drop 3)
      else .error (.noTrait isImpl)
    else path g fuel ts

end

def ofType (ts : Tokens) : TypeFault :=
  match type (grammarFor ts) (2 * sizeOfTokens ts + 8) ts with
  | .error e => e
  | .ok _ => .tooMuch none

end Callwire.Source.Diagnosis
