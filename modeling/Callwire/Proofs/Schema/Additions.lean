import Callwire.Proofs.Keys
import Callwire.Schema.File

/-!
# Additions to a schema

A file that is added takes the place of the one with its name, or a place at the end. So
the names stand in the order in which they first came, however often a file comes again,
and each leads to the file that came last under it.
-/

set_option autoImplicit false

namespace Callwire.Schema

def names (s : Schema) : List String := s.files.map (·.name)

def arrival (history : List SchemaFile) (name : String) : Nat :=
  (history.map (·.name)).idxOf name

def HasName (name : String) (f : SchemaFile) : Prop := f.name = name

def Latest (history : List SchemaFile) (name : String) (f : SchemaFile) : Prop :=
  HasName name f ∧ Lasts (HasName name) f history

/-! ## One addition -/

section
variable (s : Schema) (f : SchemaFile)

theorem names_add :
    (s.add f).names = if f.name ∈ s.names then s.names else s.names ++ [f.name] :=
  put_names f s.files

theorem mem_names_add {name : String} :
    name ∈ (s.add f).names ↔ name ∈ s.names ∨ name = f.name := by
  rw [names_add]
  split_ifs with h
  · constructor
    · exact .inl
    · rintro (hname | rfl)
      · exact hname
      · exact h
  · simp

theorem get?_add_self : (s.add f).get? f.name = some f := by
  show (put f s.files).find? (·.name == f.name) = some f
  induction s.files with
  | nil => simp [put]
  | cons g files ih =>
    by_cases hg : g.name = f.name
    · simp [put, hg]
    · simp [put, hg, ih]

theorem get?_add_other {name : String} (h : name ≠ f.name) :
    (s.add f).get? name = s.get? name := by
  show (put f s.files).find? (·.name == name) = s.files.find? (·.name == name)
  induction s.files with
  | nil => simp [put, h.symm]
  | cons g files ih =>
    by_cases hg : g.name = f.name
    · simp [put, hg, h.symm]
    · simp [put, hg, List.find?_cons, ih]

/-- A file under another name stands where it stood before. -/
theorem getElem?_add_other {g : SchemaFile} (h : g.name ≠ f.name) (i : Nat) :
    (s.add f).files[i]? = some g ↔ s.files[i]? = some g := by
  show (put f s.files)[i]? = some g ↔ _
  have hne : f ≠ g := fun heq => h (congrArg SchemaFile.name heq.symm)
  induction s.files generalizing i with
  | nil => cases i <;> simp [put, hne]
  | cons x files ih =>
    by_cases hx : x.name = f.name
    · have hxg : x ≠ g := fun heq => h (heq ▸ hx)
      cases i <;> simp [put, hx, hne, hxg]
    · cases i with
      | zero => simp [put, hx]
      | succ i => simpa [put, hx] using ih i

theorem get?_eq_none_iff {name : String} : s.get? name = none ↔ name ∉ s.names := by
  simp [get?, names]

end

/-! ## All additions -/

structure Recorded (history : List SchemaFile) (s : Schema) : Prop where
  distinct : s.names.Nodup
  known : ∀ name, name ∈ s.names ↔ name ∈ history.map (·.name)
  inOrder : s.names.Pairwise fun a b => arrival history a < arrival history b
  latest : ∀ name f, s.get? name = some f ↔ Latest history name f

variable {history : List SchemaFile} {s : Schema}

theorem recorded_empty : Recorded [] empty where
  distinct := .nil
  known := by simp [names, empty]
  inOrder := .nil
  latest name f := by simp [get?, empty, Latest, not_lasts_nil]

theorem arrival_concat {name : String} (h : name ∈ history.map (·.name)) (f : SchemaFile) :
    arrival (history ++ [f]) name = arrival history name := by
  rw [arrival, List.map_append, List.idxOf_append_of_mem h]
  rfl

theorem arrival_lt {name : String} (h : name ∈ history.map (·.name)) :
    arrival history name < history.length := by
  rw [arrival, ← List.length_map (·.name)]
  exact List.idxOf_lt_length_of_mem h

theorem arrival_new {f : SchemaFile} (h : f.name ∉ history.map (·.name)) :
    arrival (history ++ [f]) f.name = history.length := by
  rw [arrival, List.map_append, List.idxOf_append_of_notMem h]
  simp

theorem Recorded.add (h : Recorded history s) (f : SchemaFile) :
    Recorded (history ++ [f]) (s.add f) := by
  have hold : s.names.Pairwise fun a b =>
      arrival (history ++ [f]) a < arrival (history ++ [f]) b := by
    apply h.inOrder.imp_of_mem
    intro a b ha hb hlt
    rwa [arrival_concat ((h.known a).mp ha), arrival_concat ((h.known b).mp hb)]
  constructor
  case distinct =>
    rw [names_add]
    split_ifs with hf
    · exact h.distinct
    · rw [← List.concat_eq_append]
      exact h.distinct.concat hf
  case known =>
    intro name
    rw [mem_names_add, h.known]
    simp
  case inOrder =>
    rw [names_add]
    split_ifs with hf
    · exact hold
    -- a new name came after all that were there
    · refine List.pairwise_append.mpr ⟨hold, List.pairwise_singleton _ _, ?_⟩
      intro a ha b hb
      have hmem := (h.known a).mp ha
      rw [List.mem_singleton.mp hb, arrival_concat hmem,
        arrival_new (mt (h.known f.name).mpr hf)]
      exact arrival_lt hmem
  case latest =>
    intro name g
    by_cases hname : f.name = name
    · rw [Latest, lasts_concat_of_ends (HasName name) hname, ← hname, get?_add_self,
        Option.some_inj]
      exact ⟨fun hg => ⟨hg ▸ rfl, hg⟩, And.right⟩
    · rw [get?_add_other s f (Ne.symm hname), h.latest]
      exact and_congr_right fun hg => (lasts_concat_of_not_ends (HasName name) hg hname).symm

theorem recorded_ofFiles (history : List SchemaFile) : Recorded history (ofFiles history) := by
  induction history using List.reverseRecOn with
  | nil => exact recorded_empty
  | append_singleton history f ih =>
    rw [ofFiles, List.foldl_concat]
    exact ih.add f

structure Spares (s : Schema) (f : SchemaFile) : Prop where
  others : ∀ (i : Nat) (g : SchemaFile), g.name ≠ f.name →
    ((s.add f).files[i]? = some g ↔ s.files[i]? = some g)
  places : f.name ∈ s.names → (s.add f).names = s.names

/-- Whatever files are added to a schema, in whatever order and however often: their names
are distinct and in the order in which they first came, a name leads to the file that came
last under it, and no addition touches other files. -/
theorem additions_are_recorded (history : List SchemaFile) :
    Recorded history (ofFiles history) ∧
      (∀ name, (ofFiles history).get? name = none ↔ ∀ f ∈ history, f.name ≠ name) ∧
      ∀ f, Spares (ofFiles history) f := by
  have h : Recorded history (ofFiles history) := recorded_ofFiles history
  refine ⟨h, ?_, ?_⟩
  · intro name
    rw [get?_eq_none_iff, h.known]
    simp
  · intro f
    constructor
    case others => exact fun i g hg => getElem?_add_other _ f hg i
    case places => exact fun hf => (names_add _ f).trans (if_pos hf)

/-- A file that comes again stays where it was, with what it has now. -/
example :
    (ofFiles [⟨"a", ["A"], [], []⟩, ⟨"b", [], [], []⟩, ⟨"a", [], ["b"], []⟩]).files =
      [⟨"a", [], ["b"], []⟩, ⟨"b", [], [], []⟩] := by
  decide

end Callwire.Schema
