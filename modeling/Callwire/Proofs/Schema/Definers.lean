import Mathlib.Tactic
import Callwire.Schema.Imports

/-!
# Where types are imported from

A type is imported from the first file that defines it. The files are followed with a
list of the names seen so far, and the types are shared out among them from the front;
what comes out is told here from the references alone, as often as one is repeated. The
imports are the only list that has these properties.
-/

set_option autoImplicit false

namespace Callwire.Imports

/-! ## Files -/

/-- The files that types can be imported from: the file itself and what its references
lead to. A reference with the name of the file leads to the file itself. -/
def sources (file : SchemaFile) (schema : Schema) : List SchemaFile :=
  file :: (file.references.filter (· ≠ file.name)).filterMap schema.get?

def definer? (file : SchemaFile) (schema : Schema) (type : String) : Option SchemaFile :=
  (sources file schema).find? (·.defines type)

def place (file : SchemaFile) (name : String) : Nat := (file.name :: file.references).idxOf name

variable {schema : Schema}

theorem name_of_get? {name : String} {f : SchemaFile} (h : schema.get? name = some f) :
    f.name = name := by
  simpa using List.find?_some h

/-- To leave out references to a file that does not have it changes nothing for a search. -/
theorem find?_without {p : SchemaFile → Bool} {r : String} {f : SchemaFile}
    (hf : schema.get? r = some f) (hp : p f = false) (seen refs : List String) :
    ((refs.filter (· ∉ r :: seen)).filterMap schema.get?).find? p =
      ((refs.filter (· ∉ seen)).filterMap schema.get?).find? p := by
  induction refs with
  | nil => rfl
  | cons x refs ih =>
    by_cases hseen : x ∈ seen
    · simpa [hseen] using ih
    by_cases hx : x = r
    · subst hx
      simpa [hseen, hf, hp] using ih
    cases hget : schema.get? x with
    | none => simpa [hseen, hx, hget] using ih
    | some g =>
      cases hg : p g with
      | true => simp [hseen, hx, hget, hg]
      | false => simpa [hseen, hx, hget, hg] using ih

/-- A search among the files that were followed finds what a search along all the
references finds. -/
theorem find?_follow (p : SchemaFile → Bool) (seen refs : List String) :
    (follow schema seen refs).1.find? p =
      ((refs.filter (· ∉ seen)).filterMap schema.get?).find? p := by
  induction refs generalizing seen with
  | nil => rfl
  | cons r refs ih =>
    by_cases hseen : r ∈ seen
    · simp [follow, hseen, ih]
    cases hget : schema.get? r with
    | none => simp [follow, hseen, hget, ih]
    | some f =>
      cases hp : p f with
      | true => simp [follow, hseen, hget, hp]
      | false =>
        have hrest := (ih (r :: seen)).trans (find?_without hget hp seen refs)
        simp [follow, hseen, hget, hp, hrest]

theorem find?_files (file : SchemaFile) (p : SchemaFile → Bool) :
    (file :: (follow schema [file.name] file.references).1).find? p =
      (sources file schema).find? p := by
  rw [sources, List.find?_cons, List.find?_cons, find?_follow]
  simp

theorem mem_follow {seen refs : List String} {f : SchemaFile}
    (h : f ∈ (follow schema seen refs).1) :
    f.name ∈ refs ∧ f.name ∉ seen ∧ schema.get? f.name = some f := by
  induction refs generalizing seen with
  | nil => cases h
  | cons r refs ih =>
    by_cases hseen : r ∈ seen
    · simp only [follow, List.contains_iff_mem, hseen, if_true] at h
      obtain ⟨href, hrest⟩ := ih h
      exact ⟨List.mem_cons_of_mem r href, hrest⟩
    simp only [follow, List.contains_iff_mem, hseen, if_false] at h
    cases hget : schema.get? r with
    | none =>
      rw [hget] at h
      obtain ⟨href, hrest⟩ := ih h
      exact ⟨List.mem_cons_of_mem r href, hrest⟩
    | some g =>
      have hname := name_of_get? hget
      rw [hget] at h
      rcases List.mem_cons.mp h with rfl | h
      · rw [hname]
        exact ⟨List.mem_cons_self, hseen, hget⟩
      · obtain ⟨href, hnew, hfound⟩ := ih h
        refine ⟨List.mem_cons_of_mem r href, ?_, hfound⟩
        intro hmem
        exact hnew (List.mem_cons_of_mem r hmem)

/-- A file is followed where it is first referred to. -/
theorem follow_inOrder (seen refs : List String) :
    (follow schema seen refs).1.Pairwise fun f g => refs.idxOf f.name < refs.idxOf g.name := by
  induction refs generalizing seen with
  | nil => exact .nil
  | cons r refs ih =>
    -- behind a first reference that they do not have, all of them move up by one
    have shift {files : List SchemaFile} (hne : ∀ f ∈ files, f.name ≠ r)
        (h : files.Pairwise fun f g => refs.idxOf f.name < refs.idxOf g.name) :
        files.Pairwise fun f g => (r :: refs).idxOf f.name < (r :: refs).idxOf g.name := by
      apply h.imp_of_mem
      intro f g hf hg hlt
      rw [List.idxOf_cons_ne _ (hne f hf).symm, List.idxOf_cons_ne _ (hne g hg).symm]
      omega
    by_cases hseen : r ∈ seen
    · simp only [follow, List.contains_iff_mem, hseen, if_true]
      apply shift _ (ih seen)
      intro f hf heq
      exact (mem_follow hf).2.1 (heq ▸ hseen)
    simp only [follow, List.contains_iff_mem, hseen, if_false]
    cases hget : schema.get? r with
    | none =>
      apply shift _ (ih seen)
      intro f hf heq
      have hfound := (mem_follow hf).2.2
      rw [heq, hget] at hfound
      cases hfound
    | some g =>
      have hnew : ∀ f ∈ (follow schema (r :: seen) refs).1, f.name ≠ r := by
        intro f hf heq
        exact (mem_follow hf).2.1 (heq ▸ List.mem_cons_self)
      refine List.pairwise_cons.mpr ⟨?_, shift hnew (ih (r :: seen))⟩
      intro f hf
      rw [name_of_get? hget, List.idxOf_cons_self, List.idxOf_cons_ne _ (hnew f hf).symm]
      omega

theorem files_inOrder (file : SchemaFile) :
    (file :: (follow schema [file.name] file.references).1).Pairwise fun f g =>
      place file f.name < place file g.name := by
  have hnew : ∀ f ∈ (follow schema [file.name] file.references).1, f.name ≠ file.name := by
    intro f hf heq
    exact (mem_follow hf).2.1 (by simp [heq])
  refine List.pairwise_cons.mpr ⟨?_, ?_⟩
  · intro f hf
    rw [place, place, List.idxOf_cons_self, List.idxOf_cons_ne _ (hnew f hf).symm]
    omega
  · apply (follow_inOrder [file.name] file.references).imp_of_mem
    intro f g hf hg hlt
    rw [place, place, List.idxOf_cons_ne _ (hnew f hf).symm, List.idxOf_cons_ne _ (hnew g hg).symm]
    omega

/-! ## Shares -/

/-- What a file gets it defines, and no file in front of it does. -/
theorem mem_share {files : List SchemaFile} {types : List String} {i : Import}
    (h : i ∈ share files types) :
    i.types ≠ [] ∧ i.types.Sublist types ∧ ∃ f ∈ files, i.file = f.name ∧
      ∀ t ∈ i.types, files.find? (·.defines t) = some f := by
  induction files generalizing types with
  | nil => cases h
  | cons f files ih =>
    have others (h : i ∈ share files (types.filter fun t => !f.defines t)) :
        i.types ≠ [] ∧ i.types.Sublist types ∧ ∃ g ∈ f :: files, i.file = g.name ∧
          ∀ t ∈ i.types, (f :: files).find? (·.defines t) = some g := by
      obtain ⟨hne, hsub, g, hg, hfile, hfound⟩ := ih h
      refine ⟨hne, hsub.trans List.filter_sublist, g, List.mem_cons_of_mem f hg, hfile, ?_⟩
      intro t ht
      have hnot := (List.mem_filter.mp (hsub.subset ht)).2
      rw [List.find?_cons_of_neg (by simpa using hnot)]
      exact hfound t ht
    simp only [share] at h
    split_ifs at h with hempty
    · exact others h
    rcases List.mem_cons.mp h with rfl | h
    · refine ⟨by simpa using hempty, List.filter_sublist, f, List.mem_cons_self, rfl, ?_⟩
      intro t ht
      exact List.find?_cons_of_pos (List.mem_filter.mp ht).2
    · exact others h

theorem share_complete {files : List SchemaFile} {types : List String} {t : String}
    {f : SchemaFile} (ht : t ∈ types) (h : files.find? (·.defines t) = some f) :
    ∃ i ∈ share files types, i.file = f.name ∧ t ∈ i.types := by
  induction files generalizing types with
  | nil => cases h
  | cons g files ih =>
    simp only [share]
    cases hdef : g.defines t with
    | true =>
      simp only [List.find?_cons, hdef, Option.some.injEq] at h
      have hmem : t ∈ types.filter g.defines := List.mem_filter.mpr ⟨ht, hdef⟩
      rw [if_neg (by simpa using List.ne_nil_of_mem hmem)]
      exact ⟨_, List.mem_cons_self, by rw [h], hmem⟩
    | false =>
      simp only [List.find?_cons, hdef] at h
      have hmem : t ∈ types.filter fun t => !g.defines t :=
        List.mem_filter.mpr ⟨ht, by simp [hdef]⟩
      obtain ⟨i, hi, hshare⟩ := ih hmem h
      split_ifs
      · exact ⟨i, hi, hshare⟩
      · exact ⟨i, List.mem_cons_of_mem _ hi, hshare⟩

theorem files_share (files : List SchemaFile) (types : List String) :
    ((share files types).map (·.file)).Sublist (files.map (·.name)) := by
  induction files generalizing types with
  | nil => exact .slnil
  | cons f files ih =>
    simp only [share]
    split_ifs
    · exact (ih _).cons _
    · exact (ih _).cons_cons _

/-! ## Types of services -/

theorem mem_insert {name t : String} {names : List String} :
    t ∈ insert name names ↔ t = name ∨ t ∈ names := by
  induction names with
  | nil => simp [insert]
  | cons n names ih =>
    simp only [insert]
    split_ifs with hlt heq
    · exact List.mem_cons
    · simp [heq]
    · rw [List.mem_cons, ih, List.mem_cons]
      exact or_left_comm

theorem rising_insert {names : List String} (h : names.Pairwise (· < ·)) (name : String) :
    (insert name names).Pairwise (· < ·) := by
  induction names with
  | nil => simp [insert]
  | cons n names ih =>
    obtain ⟨hn, hnames⟩ := List.pairwise_cons.mp h
    simp only [insert]
    split_ifs with hlt heq
    · apply List.pairwise_cons.mpr ⟨?_, h⟩
      intro t ht
      rcases List.mem_cons.mp ht with rfl | ht
      · exact hlt
      · exact Std.lt_trans hlt (hn t ht)
    · exact h
    · apply List.pairwise_cons.mpr ⟨?_, ih hnames⟩
      intro t ht
      rcases mem_insert.mp ht with rfl | ht
      · exact Std.lt_of_le_of_ne (Std.not_lt.mp hlt) (Ne.symm heq)
      · exact hn t ht

theorem mem_rising {names : List String} {t : String} : t ∈ rising names ↔ t ∈ names := by
  induction names using List.reverseRecOn with
  | nil => rfl
  | append_singleton names name ih =>
    rw [rising, List.foldl_concat, mem_insert, List.mem_append, List.mem_singleton, or_comm]
    exact or_congr_left ih

theorem rising_rising (names : List String) : (rising names).Pairwise (· < ·) := by
  induction names using List.reverseRecOn with
  | nil => exact .nil
  | append_singleton names name ih =>
    rw [rising, List.foldl_concat]
    exact rising_insert ih name

theorem mem_referenced {services : List Service} {t : String} :
    t ∈ referenced services ↔
      ∃ s ∈ services, ∃ m ∈ s.methods, m.request = .named t ∨ m.response = .named t := by
  simp only [referenced, mem_rising, List.mem_flatMap, namesOf, List.mem_filterMap]
  constructor
  · rintro ⟨s, hs, p, ⟨m, hm, hp⟩, hname⟩
    refine ⟨s, hs, m, hm, ?_⟩
    cases p with
    | named name =>
      cases hname
      simpa [eq_comm] using hp
    | void => cases hname
    | error => cases hname
  · rintro ⟨s, hs, m, hm, hp⟩
    exact ⟨s, hs, .named t, ⟨m, hm, by simpa [eq_comm] using hp⟩, rfl⟩
/-! ## Imports -/

structure Attributed (file : SchemaFile) (schema : Schema) (types : List String)
    (imports : List Import) : Prop where
  once : ∀ t ∈ types, ∀ f, definer? file schema t = some f →
    ∃ i ∈ imports, i.file = f.name ∧ t ∈ i.types ∧ ∀ j ∈ imports, t ∈ j.types → j = i
  only : ∀ i ∈ imports, ∀ t ∈ i.types, t ∈ types ∧
    ∃ f, definer? file schema t = some f ∧ i.file = f.name
  nonempty : ∀ i ∈ imports, i.types ≠ []
  rising : ∀ i ∈ imports, i.types.Pairwise (· < ·)
  distinct : (imports.map (·.file)).Nodup
  inOrder : imports.Pairwise fun i j => place file i.file < place file j.file

variable {file : SchemaFile} {types : List String}

theorem attributed_resolve (h : types.Pairwise (· < ·)) :
    Attributed file schema types (resolve file schema types).imports := by
  obtain ⟨files, hfiles⟩ : ∃ files, files = file :: (follow schema [file.name] file.references).1 :=
    ⟨_, rfl⟩
  have himports : (resolve file schema types).imports = share files types := by rw [hfiles]; rfl
  have hdefiner (t : String) : files.find? (·.defines t) = definer? file schema t := by
    rw [hfiles, find?_files, definer?]
  have hinOrder : ((share files types).map (·.file)).Pairwise
      fun a b => place file a < place file b := by
    apply List.Pairwise.sublist (files_share files types)
    rw [List.pairwise_map, hfiles]
    exact files_inOrder file
  have hdistinct : ((share files types).map (·.file)).Nodup := by
    apply hinOrder.imp
    rintro a b hlt rfl
    omega
  rw [himports]
  constructor
  case once =>
    intro t ht f hf
    obtain ⟨i, hi, hfile, hmem⟩ := share_complete ht ((hdefiner t).trans hf)
    refine ⟨i, hi, hfile, hmem, ?_⟩
    intro j hj hmem'
    apply List.inj_on_of_nodup_map hdistinct hj hi
    obtain ⟨-, -, g, -, hname, hfound⟩ := mem_share hj
    have hsame : g = f := Option.some.inj ((hfound t hmem').symm.trans ((hdefiner t).trans hf))
    rw [hname, hfile, hsame]
  case only =>
    intro i hi t ht
    obtain ⟨-, hsub, f, -, hname, hfound⟩ := mem_share hi
    exact ⟨hsub.subset ht, f, (hdefiner t).symm.trans (hfound t ht), hname⟩
  case nonempty => exact fun i hi => (mem_share hi).1
  case rising => exact fun i hi => h.sublist (mem_share hi).2.1
  case distinct => exact hdistinct
  case inOrder =>
    rw [List.pairwise_map] at hinOrder
    exact hinOrder

theorem Attributed.mem_iff {imports : List Import} (h : Attributed file schema types imports)
    {name t : String} : (∃ i ∈ imports, i.file = name ∧ t ∈ i.types) ↔
      t ∈ types ∧ ∃ f, definer? file schema t = some f ∧ name = f.name := by
  constructor
  · rintro ⟨i, hi, rfl, ht⟩
    exact h.only i hi t ht
  · rintro ⟨ht, f, hf, rfl⟩
    obtain ⟨i, hi, hfile, hmem, -⟩ := h.once t ht f hf
    exact ⟨i, hi, hfile, hmem⟩

/-- Imports of the same types have the same elements: each is told by one of its types. -/
theorem Attributed.subset {imports others : List Import}
    (h : Attributed file schema types imports) (h' : Attributed file schema types others) :
    imports ⊆ others := by
  intro i hi
  obtain ⟨t, ht⟩ := List.exists_mem_of_ne_nil _ (h.nonempty i hi)
  obtain ⟨j, hj, hfile, -⟩ := h'.mem_iff.mpr (h.mem_iff.mp ⟨i, hi, rfl, ht⟩)
  have hmem (u : String) : u ∈ i.types ↔ u ∈ j.types := by
    have hown {is : List Import} (his : (is.map (·.file)).Nodup) {k : Import} (hk : k ∈ is) :
        u ∈ k.types ↔ ∃ l ∈ is, l.file = k.file ∧ u ∈ l.types := by
      constructor
      · exact fun hu => ⟨k, hk, rfl, hu⟩
      · rintro ⟨l, hl, heq, hu⟩
        rwa [← List.inj_on_of_nodup_map his hl hk heq]
    rw [hown h.distinct hi, hown h'.distinct hj, h.mem_iff, h'.mem_iff, hfile]
  have htypes : i.types = j.types :=
    (h.rising i hi).eq_of_mem_iff (h'.rising j hj) hmem
  obtain ⟨name, is⟩ := i
  obtain ⟨name', js⟩ := j
  cases hfile
  cases htypes
  exact hj

/-- The imports are those that give each type that the file or one of its direct references
defines to the first of them, in their order and with nothing else. -/
theorem resolve_eq_iff (file : SchemaFile) (schema : Schema) (types : List String)
    (h : types.Pairwise (· < ·)) (imports : List Import) :
    (resolve file schema types).imports = imports ↔ Attributed file schema types imports := by
  constructor
  · rintro rfl
    exact attributed_resolve h
  · intro himports
    have hresolve : Attributed file schema types (resolve file schema types).imports :=
      attributed_resolve h
    have hperm := (List.perm_ext_iff_of_nodup hresolve.distinct.of_map himports.distinct.of_map).mpr
      fun i => ⟨fun hi => hresolve.subset himports hi, fun hi => himports.subset hresolve hi⟩
    apply hperm.eq_of_pairwise _ hresolve.inOrder himports.inOrder
    intro i j _ _ hij hji
    omega

/-- A file that refers to another twice, to itself and to nothing. -/
def relay : SchemaFile :=
  ⟨"relay", ["Msg"], ["clock", "relay", "nowhere", "clock", "users"], []⟩

/-- The types of `deep` are out of reach, and `users` is not the first to define `Time`. -/
def relays : Schema :=
  ⟨[relay, ⟨"clock", ["Time"], ["deep"], []⟩, ⟨"users", ["Msg", "Time", "User"], [], []⟩,
    ⟨"deep", ["Zone"], [], []⟩]⟩

theorem resolve_relay :
    ["Msg", "Time", "User", "Zone"].Pairwise (· < ·) ∧
      Attributed relay relays ["Msg", "Time", "User", "Zone"]
        [⟨"relay", ["Msg"]⟩, ⟨"clock", ["Time"]⟩, ⟨"users", ["User"]⟩] := by
  have hrising : ["Msg", "Time", "User", "Zone"].Pairwise (· < ·) := by decide
  exact ⟨hrising, (resolve_eq_iff relay relays _ hrising _).mp (by decide)⟩

end Callwire.Imports
