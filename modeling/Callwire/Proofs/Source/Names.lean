import Callwire.Source.Reader
import Callwire.Proofs.Text.Solid

/-!
# Names as text

A text that is read as a name is that name, if all its characters are solid:
then no blank and no comment is left out. Trees that were read stay in front of
those that are read later, and every text that is not empty gives a tree, so a
single tree is the whole text.
-/

set_option autoImplicit false

namespace Callwire.Source
open Text (IsSolid)

/-! ## No blanks and no comments -/

theorem ne_slash {c : Char} (hc : IsSolid c) : c ≠ '/' := by
  rintro rfl
  exact absurd hc (by decide : ¬ Text.inRanges Text.gaps '/'.toNat = false)

theorem startsWith_slash {s : Chars} (hs : ∀ c ∈ s, IsSolid c) (front : String)
    (hfront : front.toList.head? = some '/') : startsWith s front = false := by
  rw [startsWith]
  obtain ⟨rest, hrest⟩ := List.head?_eq_some_iff.mp hfront
  cases s with
  | nil => simp [hrest]
  | cons c s => simp [hrest, List.isPrefixOf, (ne_slash (hs c (by simp))).symm]

theorem isSpace_of_solid {c : Char} (hc : IsSolid c) : isSpace c = false := by
  by_contra h
  rw [Bool.not_eq_false, isSpace, Bool.or_eq_true, Bool.or_eq_true] at h
  rw [IsSolid, Text.gaps, Text.inRanges_append, Bool.or_eq_false_iff] at hc
  rcases h with (h | h) | h
  · exact absurd (h.symm.trans hc.1) (by decide)
  · rw [beq_iff_eq] at h
    exact absurd hc.2 (h ▸ by decide)
  · rw [beq_iff_eq] at h
    exact absurd hc.2 (h ▸ by decide)

theorem skipBlank_solid {s : Chars} (hs : ∀ c ∈ s, IsSolid c) (fuel : Nat) :
    skipBlank fuel s = s := by
  cases fuel with
  | zero => rfl
  | succ fuel =>
    have hline : isPlainLine s = false := by
      simp [isPlainLine, startsWith_slash hs "//" rfl]
    have hblock : isPlainBlock s = false := by
      simp [isPlainBlock, startsWith_slash hs "/*" rfl]
    cases s with
    | nil => simp [skipBlank, hline, hblock]
    | cons c s =>
      have hc := isSpace_of_solid (hs c (by simp))
      simp [skipBlank, hline, hblock, hc]

theorem docComment_solid {s : Chars} (hs : ∀ c ∈ s, IsSolid c) : docComment s = none := by
  have htext : docText s = none := by
    simp [docText, startsWith_slash hs "//!" rfl,
      startsWith_slash hs "/*!" rfl, startsWith_slash hs "///" rfl,
      startsWith_slash hs "/**" rfl]
  simp [docComment, htext]

/-! ## Trees in front -/

def outermost (done : Tokens) : List (Bracket × Tokens) → Tokens
  | [] => done
  | (_, outer) :: opened => outermost outer opened

/-- A row goes on as it began, and a group that is open is part of it. -/
theorem lexAll_keeps {fuel : Nat} {done : Tokens} {opened : List (Bracket × Tokens)} {s : Chars}
    {ts : Tokens} (h : lexAll fuel done opened s = some ts) :
    ∃ more, ts = (outermost done opened).reverse ++ more ∧
      (opened ≠ [] → ∃ b trees, more.head? = some (.group b trees)) := by
  induction fuel generalizing done opened s with
  | zero => simp [lexAll] at h
  | succ fuel ih =>
    -- a doc comment and a leaf add trees to the innermost row
    have grows (new : Tokens) {rest : Chars}
        (h : lexAll fuel (new ++ done) opened rest = some ts) :
        ∃ more, ts = (outermost done opened).reverse ++ more ∧
          (opened ≠ [] → ∃ b trees, more.head? = some (.group b trees)) := by
      obtain ⟨more, rfl, hgroup⟩ := ih h
      cases opened with
      | nil => exact ⟨new.reverse ++ more, by simp [outermost], by simp⟩
      | cons p opened => exact ⟨more, rfl, hgroup⟩
    unfold lexAll at h
    dsimp only at h
    split at h
    next doc rest _ => exact grows doc.reverse h
    next =>
      split at h
      next =>
        split_ifs at h with hopened
        rw [List.isEmpty_iff] at hopened
        subst hopened
        exact ⟨[], by simpa [outermost] using h.symm, by simp⟩
      next c rest =>
        split at h
        next b _ _ =>
          obtain ⟨more, rfl, hgroup⟩ := ih h
          exact ⟨more, rfl, fun _ => hgroup (by simp)⟩
        next b _ _ =>
          split at h
          next b' outer opened =>
            split_ifs at h
            obtain ⟨more, rfl, hgroup⟩ := ih h
            cases opened with
            | nil =>
              exact ⟨.group b done.reverse :: more, by simp [outermost], fun _ => ⟨_, _, rfl⟩⟩
            | cons p opened => exact ⟨more, rfl, fun _ => hgroup (by simp)⟩
          next => simp at h
        next =>
          split at h
          next t rest _ => exact grows [t] h
          next => simp at h

/-! ## The text of a name -/

theorem eq_of_plainName {s : Chars} {n : String} {rest : Chars}
    (h : plainName s = some (n, rest)) : s = n.toList ++ rest := by
  cases s with
  | nil => simp [plainName] at h
  | cons c s =>
    rw [plainName] at h
    split_ifs at h
    cases h
    simp [List.takeWhile_append_dropWhile]

theorem eq_of_after? {front : String} {s rest : Chars} (h : after? front s = some rest) :
    s = front.toList ++ rest := by
  rw [after?] at h
  split_ifs at h with hfront
  obtain ⟨tail, rfl⟩ := List.isPrefixOf_iff_prefix.mp hfront
  rw [← String.length_toList, List.drop_left, Option.some.injEq] at h
  rw [h]

theorem eq_of_anyName {s : Chars} {n : String} {rest : Chars}
    (h : anyName s = some (n, rest)) : s = n.toList ++ rest := by
  unfold anyName at h
  split at h
  next => exact eq_of_plainName h
  next t ht =>
    split at h
    next => simp at h
    next name tail hname =>
      split_ifs at h
      cases h
      rw [eq_of_after? ht, eq_of_plainName hname, String.toList_append, List.append_assoc]

theorem eq_of_leaf {s : Chars} {n : String} {rest : Chars} (h : leaf s = some (.name n, rest)) :
    s = n.toList ++ rest := by
  unfold leaf at h
  split at h
  next => simp at h
  next =>
    split at h
    next found hfound =>
      obtain rfl := Option.some.inj h
      simp only [markToken, Option.bind_eq_bind, Option.bind_eq_some_iff] at hfound
      obtain ⟨p, -, hfound⟩ := hfound
      split_ifs at hfound
      · simp [Option.bind_eq_some_iff] at hfound
      · simp at hfound
    next =>
      obtain ⟨p, hp, heq⟩ := Option.map_eq_some_iff.mp h
      cases heq
      unfold nameToken at hp
      split_ifs at hp
      exact eq_of_anyName hp

/-! ## Solid text -/

/-- Solid text that is not empty gives a tree; if that is a name, the text
starts with it. -/
theorem lexAll_solid {fuel : Nat} {done : Tokens} {s : Chars} {ts : Tokens}
    (hs : ∀ c ∈ s, IsSolid c) (hne : s ≠ [])
    (h : lexAll (fuel + 1) done [] s = some ts) :
    ∃ t more, ts = done.reverse ++ t :: more ∧ ∀ n, t = .name n →
      ∃ rest, s = n.toList ++ rest ∧ lexAll fuel (t :: done) [] rest = some ts := by
  obtain ⟨c, rest, rfl⟩ := List.exists_cons_of_ne_nil hne
  unfold lexAll at h
  simp only [skipBlank_solid hs, docComment_solid hs] at h
  split at h
  next b _ _ =>
    obtain ⟨more, rfl, hgroup⟩ := lexAll_keeps h
    obtain ⟨b, trees, hhead⟩ := hgroup (by simp)
    obtain ⟨tail, rfl⟩ := List.head?_eq_some_iff.mp hhead
    exact ⟨_, tail, rfl, by simp⟩
  next => simp at h
  next =>
    split at h
    next t rest ht =>
      obtain ⟨more, rfl, -⟩ := lexAll_keeps h
      refine ⟨t, more, by simp [outermost], ?_⟩
      rintro n rfl
      exact ⟨rest, eq_of_leaf ht, h⟩
    next => simp at h

theorem lex_solid {s : String} (hs : ∀ c ∈ s.toList, IsSolid c) {n : String}
    (h : lex s = some [.name n]) : n = s := by
  have hmark : after? "\ufeff" s.toList = none := by
    cases hafter : after? "\ufeff" s.toList with
    | none => rfl
    | some rest =>
      have hmem : '\ufeff' ∈ s.toList := by simp [eq_of_after? hafter]
      exact absurd (hs _ hmem) (by decide : ¬ Text.inRanges Text.gaps '\ufeff'.toNat = false)
  rw [lex, hmark, Option.getD_none] at h
  have hne : s.toList ≠ [] := by
    intro hnil
    rw [hnil] at h
    have hempty : lexAll 2 [] [] [] = some [] := rfl
    simp [hempty] at h
  obtain ⟨t, more, hts, hname⟩ := lexAll_solid hs hne h
  obtain ⟨rfl, rfl⟩ : t = .name n ∧ more = [] := by simpa [eq_comm] using hts
  obtain ⟨rest, hrest, htail⟩ := hname n rfl
  by_cases hnil : rest = []
  · rw [hnil, List.append_nil] at hrest
    exact (String.toList_inj.mp hrest).symm
  · have hsolid : ∀ c ∈ rest, IsSolid c := fun c hc => hs c (by simp [hrest, hc])
    obtain ⟨t, more, hts, -⟩ := lexAll_solid hsolid hnil htail
    simp at hts

theorem Reader.eq_of_name {ts rest : Tokens} {n : String}
    (h : Reader.name.run ts = some (n, rest)) : ts = .name n :: rest := by
  cases ts with
  | nil => cases h
  | cons t ts =>
    cases t with
    | name m =>
      by_cases hm : isKeyword m = true
      · simp [Reader.name, Reader.anyName, Reader.take, guard, hm] at h
      · simp [Reader.name, Reader.anyName, Reader.take, guard, hm] at h
        rw [h.1, h.2]
    | mark => cases h
    | literal => cases h
    | group => cases h

theorem nameOf?_solid {s : String} (hs : ∀ c ∈ s.toList, IsSolid c) {n : String}
    (h : nameOf? s = some n) : n = s := by
  simp only [nameOf?, Reader.text, Option.bind_eq_bind, Option.bind_eq_some_iff] at h
  obtain ⟨ts, hlex, ⟨m, rest⟩, hread, u, hrest, hm⟩ := h
  obtain rfl := Reader.eq_of_name hread
  cases rest with
  | cons t rest => simp [guard] at hrest
  | nil =>
    cases hm
    exact lex_solid hs hlex

end Callwire.Source
