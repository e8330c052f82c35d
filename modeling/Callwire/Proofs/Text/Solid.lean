import Callwire.Text.Words
import Callwire.Text.Blank
import Mathlib.Tactic

/-!
# Solid characters

A character is solid if no blank, no comment and no byte order mark starts
with it. The words of a name are solid, in either case.
-/

set_option autoImplicit false

namespace Callwire.Text

def gaps : List (Nat × Nat) := blanks ++ [(0x2f, 0x2f), (0x200e, 0x200f), (0xfeff, 0xfeff)]

theorem gaps_pos : ∀ q ∈ gaps, 0 < q.1 := by decide

def IsSolid (c : Char) : Prop := inRanges gaps c.toNat = false

/-! ## Tables that have nothing in common -/

def apart (a b : List (Nat × Nat)) : Bool :=
  a.all fun r => b.all fun q => r.2 < q.1 || q.2 < r.1

theorem inRanges_of_apart {a b : List (Nat × Nat)} (h : apart a b = true) {n : Nat}
    (hn : inRanges a n = true) : inRanges b n = false := by
  simp only [inRanges, List.any_eq_true, Bool.and_eq_true, decide_eq_true_eq] at hn
  obtain ⟨r, hr, hfirst, hlast⟩ := hn
  simp only [inRanges, List.any_eq_false, Bool.and_eq_true, decide_eq_true_eq]
  intro q hq
  have hapart := List.all_eq_true.mp (List.all_eq_true.mp h r hr) q hq
  simp only [Bool.or_eq_true, decide_eq_true_eq] at hapart
  omega

/-! ## Images of characters -/

theorem ofNat_solid {n : Nat} (h : inRanges gaps n = false) : IsSolid (Char.ofNat n) := by
  by_cases hn : n.isValidChar
  · rw [IsSolid, Char.ofNat, dif_pos hn]
    exact h
  · rw [IsSolid, Char.ofNat, dif_neg hn]
    rfl

def leadsToSolid (runs : List (Nat × Nat × Nat × Int)) (several : List (Nat × List Nat)) : Bool :=
  (runs.all fun r => gaps.all fun q =>
    r.2.1 + r.2.2.2 < (q.1 : Int) || (q.2 : Int) < r.1 + r.2.2.2) &&
  several.all fun s => s.2.all fun n => !inRanges gaps n

theorem mapCase_solid {runs : List (Nat × Nat × Nat × Int)} {several : List (Nat × List Nat)}
    (h : leadsToSolid runs several = true) {c d : Char} (hc : IsSolid c)
    (hd : d ∈ mapCase runs several c) : IsSolid d := by
  obtain ⟨hruns, hseveral⟩ := Bool.and_eq_true_iff.mp h
  unfold mapCase at hd
  split at hd
  next images himages =>
    obtain ⟨n, hn, rfl⟩ := List.mem_map.mp hd
    have hmem : (c.toNat, images) ∈ several := by
      obtain ⟨front, rest, rfl, -⟩ := List.lookup_eq_some_iff.mp himages
      simp
    have hall := List.all_eq_true.mp hseveral _ hmem
    exact ofNat_solid (by simpa using List.all_eq_true.mp hall n hn)
  next =>
    split at hd
    next first last step distance hrun =>
      rw [List.mem_singleton] at hd
      subst hd
      apply ofNat_solid
      have hbounds := List.find?_some hrun
      simp only [Bool.and_eq_true, decide_eq_true_eq] at hbounds
      simp only [inRanges, List.any_eq_false, Bool.and_eq_true, decide_eq_true_eq]
      intro q hq
      have hpos : 0 < q.1 := gaps_pos q hq
      have hapart := List.all_eq_true.mp
        (List.all_eq_true.mp hruns _ (List.mem_of_find?_eq_some hrun)) q hq
      simp only [Bool.or_eq_true, decide_eq_true_eq] at hapart
      omega
    next =>
      rw [List.mem_singleton] at hd
      exact hd ▸ hc

/-- The tables of letters and digits and of their cases have no gaps. -/
theorem tables_solid : apart alphanumeric gaps = true ∧
    leadsToSolid toLowerRuns toLowerSeveral = true ∧
      leadsToSolid toUpperRuns toUpperSeveral = true := by
  decide +kernel

theorem alphanumeric_solid {c : Char} (h : isAlphanumeric c = true) : IsSolid c :=
  inRanges_of_apart tables_solid.1 h

theorem toLower_solid {c d : Char} (hc : IsSolid c) (hd : d ∈ toLower c) : IsSolid d :=
  mapCase_solid tables_solid.2.1 hc hd

theorem toUpper_solid {c d : Char} (hc : IsSolid c) (hd : d ∈ toUpper c) : IsSolid d :=
  mapCase_solid tables_solid.2.2 hc hd

/-! ## Words -/

theorem rows_alphanumeric {row name : List Char} (hrow : ∀ c ∈ row, isAlphanumeric c = true)
    {w : List Char} (hw : w ∈ rows row name) {c : Char} (hc : c ∈ w) :
    isAlphanumeric c = true := by
  induction name generalizing row with
  | nil =>
    simp only [rows, List.mem_singleton] at hw
    exact hrow c (by simpa [hw] using hc)
  | cons d name ih =>
    unfold rows at hw
    by_cases hd : isAlphanumeric d = true
    · rw [if_pos hd] at hw
      exact ih (by simpa [hd] using hrow) hw
    · rw [if_neg hd, List.mem_cons] at hw
      rcases hw with rfl | hw
      · exact hrow c (by simpa using hc)
      · exact ih (by simp) hw

/-- A word has no letters but those of its row. -/
theorem mem_of_cutWords {m : Casing} {word row w : List Char} (hw : w ∈ cutWords m word row)
    {c : Char} (hc : c ∈ w) : c ∈ word ∨ c ∈ row := by
  induction row generalizing m word with
  | nil => simp [cutWords] at hw
  | cons a row ih =>
    cases row with
    | nil =>
      simp only [cutWords, List.mem_singleton] at hw
      simpa [hw, or_comm] using hc
    | cons b row =>
      unfold cutWords at hw
      split_ifs at hw
      · rcases List.mem_cons.mp hw with rfl | hw
        · simp only [List.mem_reverse, List.mem_cons] at hc ⊢
          tauto
        · have := ih hw
          simp only [List.not_mem_nil, List.mem_cons] at this ⊢
          tauto
      · rcases List.mem_cons.mp hw with rfl | hw
        · exact .inl (by simpa using hc)
        · have := ih hw
          simp only [List.not_mem_nil, List.mem_cons] at this ⊢
          tauto
      · have := ih hw
        simp only [List.mem_cons] at this ⊢
        tauto

theorem wordsOf_solid {name w : List Char} (hw : w ∈ wordsOf name) {c : Char} (hc : c ∈ w) :
    IsSolid c := by
  obtain ⟨row, hrow, hw⟩ := List.mem_flatMap.mp hw
  have hmem : c ∈ row := by simpa using mem_of_cutWords hw hc
  exact alphanumeric_solid (rows_alphanumeric (by simp) hrow hmem)

theorem lowerWord_solid {w : List Char} (hw : ∀ c ∈ w, IsSolid c) {d : Char}
    (hd : d ∈ lowerWord w) : IsSolid d := by
  induction w with
  | nil => simp [lowerWord] at hd
  | cons a w ih =>
    cases w with
    | nil =>
      simp only [lowerWord] at hd
      split_ifs at hd
      · rw [List.mem_singleton] at hd
        subst hd
        exact (by decide : inRanges gaps 'ς'.toNat = false)
      · exact toLower_solid (hw a (by simp)) hd
    | cons b w =>
      rw [lowerWord, List.mem_append] at hd
      rcases hd with hd | hd
      · exact toLower_solid (hw a (by simp)) hd
      · exact ih (fun c hc => hw c (by simp [hc])) hd

theorem capitalWord_solid {w : List Char} (hw : ∀ c ∈ w, IsSolid c) {d : Char}
    (hd : d ∈ capitalWord w) : IsSolid d := by
  cases w with
  | nil => simp [capitalWord] at hd
  | cons a w =>
    rw [capitalWord, List.mem_append] at hd
    rcases hd with hd | hd
    · exact toUpper_solid (hw a (by simp)) hd
    · exact lowerWord_solid (fun c hc => hw c (by simp [hc])) hd

theorem mem_joined {words : List (List Char)} {c : Char} (hc : c ∈ ['_'].intercalate words) :
    c = '_' ∨ ∃ w ∈ words, c ∈ w := by
  induction words with
  | nil => simp at hc
  | cons w words ih =>
    cases words with
    | nil => exact .inr ⟨w, by simpa using hc⟩
    | cons v words =>
      rw [List.intercalate_cons_cons, List.append_assoc, List.mem_append, List.mem_append,
        List.mem_singleton] at hc
      rcases hc with hc | hc | hc
      · exact .inr ⟨w, by simp, hc⟩
      · exact .inl hc
      · rcases ih hc with hc | ⟨u, hu, hc⟩
        · exact .inl hc
        · exact .inr ⟨u, by simp [hu], hc⟩

theorem snakeCase_solid (name : String) {c : Char} (hc : c ∈ (snakeCase name).toList) :
    IsSolid c := by
  rw [snakeCase, String.toList_ofList] at hc
  rcases mem_joined hc with rfl | ⟨v, hv, hc⟩
  · exact (by decide : inRanges gaps '_'.toNat = false)
  · obtain ⟨w, hw, rfl⟩ := List.mem_map.mp hv
    exact lowerWord_solid (fun _ => wordsOf_solid hw) hc

theorem camelCase_solid (name : String) {c : Char} (hc : c ∈ (camelCase name).toList) :
    IsSolid c := by
  rw [camelCase, String.toList_ofList] at hc
  obtain ⟨w, hw, hc⟩ := List.mem_flatMap.mp hc
  exact capitalWord_solid (fun _ => wordsOf_solid hw) hc

end Callwire.Text
