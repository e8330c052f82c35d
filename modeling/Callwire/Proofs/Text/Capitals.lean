import Callwire.Text.Words
import Mathlib.Tactic

/-!
# Words told apart by their capitals

Words that are put together with a capital each can be cut apart again before
the capitals, if each begins with a letter that has one. This is so for names
of plain letters and digits in which no word begins with a digit: of those the
camel case tells all that the snake case does.
-/

set_option autoImplicit false

namespace Callwire.Text

def IsLettered (w : List Char) : Prop :=
  (∀ c ∈ w, c.toNat < 128) ∧ w.head?.any Char.isAlpha = true

def HasLetteredWords (name : String) : Prop := ∀ w ∈ wordsOf name.toList, IsLettered w

instance (w : List Char) : Decidable (IsLettered w) :=
  decidable_of_iff (w.all (·.toNat < 128) && w.head?.any Char.isAlpha) (by simp [IsLettered])

instance (name : String) : Decidable (HasLetteredWords name) :=
  decidable_of_iff ((wordsOf name.toList).all fun w => IsLettered w) (by simp [HasLetteredWords])

/-! ## Plain letters and digits -/

/-- Plain letters stand in the first run, all others beyond them. -/
theorem mapCase_plain {first last : Nat} {distance : Int} {runs : List (Nat × Nat × Nat × Int)}
    {several : List (Nat × List Nat)} (hruns : ∀ r ∈ runs, 128 ≤ r.1)
    (hseveral : ∀ s ∈ several, 128 ≤ s.1) {c : Char} (hc : c.toNat < 128) :
    mapCase ((first, last, 1, distance) :: runs) several c =
      if first ≤ c.toNat ∧ c.toNat ≤ last then [Char.ofNat (c.toNat + distance).toNat]
      else [c] := by
  have hlookup : several.lookup c.toNat = none := by
    rw [List.lookup_eq_none_iff]
    intro s hs
    have := hseveral s hs
    rw [bne_iff_ne]
    omega
  rw [mapCase, hlookup]
  dsimp only
  split
  next f l step d hrun =>
    have hbounds := List.find?_some hrun
    simp only [Bool.and_eq_true, decide_eq_true_eq] at hbounds
    rcases List.mem_cons.mp (List.mem_of_find?_eq_some hrun) with heq | hr
    · cases heq
      rw [if_pos hbounds.1]
    · have := hruns _ hr
      dsimp only at this
      omega
  next hnone =>
    have hfirst := List.find?_eq_none.mp hnone (first, last, 1, distance) (by simp)
    rw [if_neg (by simpa [Nat.mod_one] using hfirst)]

/-- Behind their first runs the tables have no plain characters. -/
theorem tables_beyond_plain :
    ((∀ r ∈ toLowerRuns.tail, 128 ≤ r.1) ∧ ∀ s ∈ toLowerSeveral, 128 ≤ s.1) ∧
      (∀ r ∈ toUpperRuns.tail, 128 ≤ r.1) ∧ ∀ s ∈ toUpperSeveral, 128 ≤ s.1 := by
  decide +kernel

/-- The first runs are the two cases of plain letters, and how the two stand to one another. -/
theorem plain_letters {c : Char} (hc : c.toNat < 128) :
    (if 65 ≤ c.toNat ∧ c.toNat ≤ 90 then [Char.ofNat ((c.toNat : Int) + 32).toNat] else [c]) =
        [c.toLower] ∧
      (if 97 ≤ c.toNat ∧ c.toNat ≤ 122 then [Char.ofNat ((c.toNat : Int) + -32).toNat] else [c]) =
        [c.toUpper] ∧
      c.toLower.isUpper = false ∧ (c.isAlpha = true → c.toUpper.isUpper = true) ∧
      c.toUpper.toLower = c.toLower := by
  obtain ⟨n, hn, rfl⟩ : ∃ n < 128, Char.ofNat n = c := ⟨c.toNat, hc, Char.ofNat_toNat c⟩
  clear hc
  revert n
  decide +kernel

theorem toLower_plain {c : Char} (hc : c.toNat < 128) : toLower c = [c.toLower] := by
  rw [toLower, show toLowerRuns = (65, 90, 1, 32) :: toLowerRuns.tail from rfl,
    mapCase_plain tables_beyond_plain.1.1 tables_beyond_plain.1.2 hc]
  exact (plain_letters hc).1

theorem toUpper_plain {c : Char} (hc : c.toNat < 128) : toUpper c = [c.toUpper] := by
  rw [toUpper, show toUpperRuns = (97, 122, 1, -32) :: toUpperRuns.tail from rfl,
    mapCase_plain tables_beyond_plain.2.1 tables_beyond_plain.2.2 hc]
  exact (plain_letters hc).2.1

theorem small_toLower {c : Char} (hc : c.toNat < 128) : c.toLower.isUpper = false :=
  (plain_letters hc).2.2.1

theorem capital_toUpper {c : Char} (hc : c.toNat < 128) (hletter : c.isAlpha = true) :
    c.toUpper.isUpper = true :=
  (plain_letters hc).2.2.2.1 hletter

theorem toLower_toUpper {c : Char} (hc : c.toNat < 128) : c.toUpper.toLower = c.toLower :=
  (plain_letters hc).2.2.2.2

theorem lowerWord_plain {w : List Char} (hw : ∀ c ∈ w, c.toNat < 128) :
    lowerWord w = w.map Char.toLower := by
  induction w with
  | nil => rfl
  | cons c w ih =>
    have hc := hw c (by simp)
    cases w with
    | nil =>
      have hsigma : c ≠ 'Σ' := by
        rintro rfl
        exact absurd hc (by decide)
      simp [lowerWord, hsigma, toLower_plain hc]
    | cons d w =>
      rw [lowerWord, toLower_plain hc, ih fun e he => hw e (by simp [he])]
      rfl

/-! ## Cutting before the capitals -/

def StartsCapital (row : List Char) : Prop := ∀ c ∈ row.head?, c.isUpper = true

theorem eq_of_capitals {a b x y : List Char} (ha : ∀ c ∈ a, c.isUpper = false)
    (hb : ∀ c ∈ b, c.isUpper = false) (hx : StartsCapital x) (hy : StartsCapital y)
    (h : a ++ x = b ++ y) : a = b ∧ x = y := by
  induction a generalizing b with
  | nil =>
    cases b with
    | nil => exact ⟨rfl, h⟩
    | cons d b =>
      rw [List.nil_append] at h
      have hd := hx d (by simp [h])
      simp [hb d (by simp)] at hd
  | cons c a ih =>
    cases b with
    | nil =>
      rw [List.nil_append] at h
      have hc := hy c (by simp [← h])
      simp [ha c (by simp)] at hc
    | cons d b =>
      rw [List.cons_append, List.cons_append, List.cons.injEq] at h
      obtain ⟨hrest, hxy⟩ :=
        ih (fun e he => ha e (by simp [he])) (fun e he => hb e (by simp [he])) h.2
      exact ⟨by rw [h.1, hrest], hxy⟩

theorem capitalWord_lettered {w : List Char} (hw : IsLettered w) :
    ∃ c rest, capitalWord w = c :: rest ∧ lowerWord w = c.toLower :: rest ∧ c.isUpper = true ∧
      ∀ d ∈ rest, d.isUpper = false := by
  cases w with
  | nil => exact absurd hw.2 (by simp)
  | cons c w =>
    have hc := hw.1 c (by simp)
    have hrest : ∀ d ∈ w, d.toNat < 128 := fun d hd => hw.1 d (by simp [hd])
    refine ⟨c.toUpper, w.map Char.toLower, ?_, ?_, capital_toUpper hc (by simpa using hw.2), ?_⟩
    · rw [capitalWord, toUpper_plain hc, lowerWord_plain hrest]
      rfl
    · rw [lowerWord_plain hw.1, toLower_toUpper hc, List.map_cons]
    · intro d hd
      obtain ⟨e, he, rfl⟩ := List.mem_map.mp hd
      exact small_toLower (hrest e he)

theorem startsCapital_words {words : List (List Char)} (h : ∀ w ∈ words, IsLettered w) :
    StartsCapital (words.flatMap capitalWord) := by
  cases words with
  | nil => simp [StartsCapital]
  | cons w words =>
    obtain ⟨c, rest, hcapital, -, hc, -⟩ := capitalWord_lettered (h w (by simp))
    simpa [StartsCapital, hcapital] using hc

theorem lowerWords_eq {words others : List (List Char)} (hwords : ∀ w ∈ words, IsLettered w)
    (hothers : ∀ w ∈ others, IsLettered w)
    (h : words.flatMap capitalWord = others.flatMap capitalWord) :
    words.map lowerWord = others.map lowerWord := by
  induction words generalizing others with
  | nil =>
    cases others with
    | nil => rfl
    | cons v others =>
      obtain ⟨c, rest, hcapital, -⟩ := capitalWord_lettered (hothers v (by simp))
      simp [hcapital] at h
  | cons w words ih =>
    obtain ⟨c, rest, hcapital, hlower, -, hsmall⟩ := capitalWord_lettered (hwords w (by simp))
    cases others with
    | nil => simp [hcapital] at h
    | cons v others =>
      obtain ⟨d, tail, hcapital', hlower', -, hsmall'⟩ :=
        capitalWord_lettered (hothers v (by simp))
      have hwords' : ∀ u ∈ words, IsLettered u := fun u hu => hwords u (by simp [hu])
      have hothers' : ∀ u ∈ others, IsLettered u := fun u hu => hothers u (by simp [hu])
      rw [List.flatMap_cons, List.flatMap_cons, hcapital, hcapital', List.cons_append,
        List.cons_append, List.cons.injEq] at h
      obtain ⟨htail, hmore⟩ := eq_of_capitals hsmall hsmall' (startsCapital_words hwords')
        (startsCapital_words hothers') h.2
      rw [List.map_cons, List.map_cons, ih hwords' hothers' hmore, hlower, hlower', h.1, htail]

/-- Names with lettered words that have the same words with capitals have the
same words without. -/
theorem snakeCase_eq_of_camelCase {a b : String} (ha : HasLetteredWords a)
    (hb : HasLetteredWords b) (h : camelCase a = camelCase b) : snakeCase a = snakeCase b := by
  have hwords := lowerWords_eq ha hb (String.ofList_inj.mp h)
  rw [snakeCase, snakeCase, hwords]

end Callwire.Text
