import Callwire.Source.Reading
import Callwire.Proofs.Source.Names
import Mathlib.Tactic

/-!
# Names as types

A text that is read as a name is read as a type as well, the path of that name. None of the
words that other types begin with is a name.
-/

set_option autoImplicit false

namespace Callwire.Source

namespace Reader

theorem run_tryOp {s : String} {ts : Tokens} (h : aheadOp s ts = false) :
    (tryOp s).run ts = some (false, ts) := by
  simp [tryOp, h]

variable {n : String} (hn : isKeyword n = false)
include hn

theorem run_name : Reader.name.run [.name n] = some (n, []) := by
  simp [Reader.name, Reader.anyName, Reader.take, guard, hn]

theorem aheadWord_name {word : String} (hword : isKeyword word = true) :
    aheadWord word [.name n] = false := by
  rw [aheadWord, beq_eq_false_iff_ne]
  rintro rfl
  rw [hn] at hword
  cases hword

theorem aheadWords_name {words : List String} (h : words.all isKeyword = true) :
    words.any (aheadWord · [.name n]) = false := by
  rw [List.any_eq_false]
  intro word hword
  rw [aheadWord_name hn (List.all_eq_true.mp h word hword)]
  exact Bool.false_ne_true

/-! ## A path of one name -/

theorem run_segment (g : Grammar) (fuel : Nat) :
    (segment g false (fuel + 1)).run [.name n] = some (.plain n, []) := by
  have hmodule : moduleWords.any (aheadWord · [.name n]) = false :=
    aheadWords_name hn (by decide)
  have hself : aheadWord "Self" [.name n] = false := aheadWord_name hn (by decide)
  have hangle : aheadAngle false [] = false := by decide
  simp only [segment, StateT.run_bind, StateT.run_get, StateT.run_pure, Option.pure_def,
    Option.bind_eq_bind, Option.bind_some, hmodule, hself, hangle, Bool.false_eq_true, if_false,
    run_name hn]

theorem run_segments (g : Grammar) (fuel : Nat) :
    (segments g false (fuel + 2)).run [.name n] = some ([.plain n], []) := by
  have hcolons : aheadOp "::" [] = false := rfl
  simp only [segments, StateT.run_bind, StateT.run_get, StateT.run_pure, Option.pure_def,
    Option.bind_eq_bind, Option.bind_some, hcolons, Bool.false_and, Bool.false_eq_true, if_false,
    run_segment hn]

theorem run_anyPath (g : Grammar) :
    (anyPath g false).run [.name n] = some ((.scope, [.plain n]), []) := by
  have hcolons : aheadOp "::" [.name n] = false := rfl
  have hsteps : stepsFor [.name n] = 12 := rfl
  simp only [anyPath, stepsAhead, path, StateT.run_bind, StateT.run_get, StateT.run_pure,
    Option.pure_def, Option.bind_eq_bind, Option.bind_some, hsteps, run_tryOp hcolons,
    Bool.false_eq_true, if_false, run_segments hn]

theorem run_pathType (g : Grammar) :
    (pathType g true none).run [.name n] = some (.path .scope [.plain n], []) := by
  have hangle : aheadOp "<" [.name n] = false := rfl
  have hbang : bangAhead [] = false := rfl
  have hplus : aheadOp "+" [] = false := rfl
  simp only [pathType, qualifiedPath, StateT.run_bind, StateT.run_get, StateT.run_pure,
    Option.pure_def, Option.bind_eq_bind, Option.bind_some, hangle, hbang, hplus, Bool.not_false,
    Bool.true_and, Bool.false_and, Option.isSome_none, Bool.false_eq_true, if_true, if_false,
    run_anyPath hn]

theorem run_typeIn (g : Grammar) :
    (typeIn g true).run [.name n] = some (.path .scope [.plain n], []) := by
  have hfor : aheadWord "for" [.name n] = false := aheadWord_name hn (by decide)
  have hbinder : (anyBinder g).run [.name n] = some (none, [.name n]) := by
    simp [anyBinder, stepsAhead, stepsFor, sizeOfTokens, Tree.size, binder, tryWord, hfor]
  have hfn : ["fn", "unsafe", "extern"].any (aheadWord · [.name n]) = false :=
    aheadWords_name hn (by decide)
  have hsharp : aheadSecond (aheadOp "#") [.name n] = false := rfl
  have hname : aheadName [.name n] = true := by simp [aheadName, hn]
  simp only [typeIn, StateT.run_bind, StateT.run_get, Option.pure_def, Option.bind_eq_bind,
    Option.bind_some, hbinder, hfn, hsharp, hname, Bool.and_false, Bool.true_or,
    Option.isSome_none, Bool.false_eq_true, if_true, if_false, run_pathType hn]

end Reader

theorem lex_of_nameOf? {s n : String} (h : nameOf? s = some n) :
    lex s = some [.name n] ∧ isKeyword n = false := by
  simp only [nameOf?, Reader.text, Option.bind_eq_bind, Option.bind_eq_some_iff] at h
  obtain ⟨ts, hlex, ⟨m, rest⟩, hread, u, hrest, hm⟩ := h
  cases hm
  obtain rfl := Reader.eq_of_name hread
  cases rest with
  | cons t rest => simp [guard] at hrest
  | nil =>
    refine ⟨hlex, ?_⟩
    by_contra hn
    simp [Reader.name, Reader.anyName, Reader.take, guard, hn] at hread

/-- What is an identifier is the type of that name. -/
theorem ofString?_of_nameOf? {s n : String} (h : nameOf? s = some n) :
    Ty.ofString? s = some (.path .scope [.plain n]) := by
  obtain ⟨hlex, hn⟩ := lex_of_nameOf? h
  have hty : (grammarFor [.name n]).ty true = Reader.typeIn (grammar 9) true := rfl
  rw [Ty.ofString?, readText, hlex, Option.bind_eq_bind, Option.bind_some, readAll, hty,
    Reader.run_typeIn hn]

end Callwire.Source
