import Callwire.Proofs.Source.Lookups
import Callwire.Proofs.Stub.Scopes
import Callwire.Proofs.Stub.Values
import Callwire.Source.Keyword
import Callwire.Source.Diagnosis
import Mathlib.Tactic

/-!
# What names lead to

Types and traits have their names in common, and a type parameter hides what else
has its name. The code of stubs can only be used where every name in it leads to
what the code means: the bound of a parameter to a trait, the path of a payload
type out of the stubs, a function that is called to the one of the handler, a
value to itself even if a payload type is a value as well. Whether there is a type
at the end of such a path, and whether it has a codec, is left open.
-/

set_option autoImplicit false

namespace Callwire.Stub
open Source (Tokens keywords)

/-! ## Uses of names -/

inductive Use
  | type (name : String)
  /-- `isMaybe` for a bound that is taken back, which only `Sized` can be. -/
  | trait (isMaybe : Bool) (name : String)
  | outer (path : List String)
  | method (name : String)

/-- The conversions every value has. They take the value itself or a shared reference to it,
and so are found before a function that takes an exclusive one. -/
def conversions : List String := ["into", "try_into"]

structure Place where
  params : List String
  types : List String
  traits : List String
  bounds : List String

namespace Place

def IsFree (pl : Place) (name : String) : Prop :=
  name ∉ pl.types ∧ name ∉ pl.traits ∧ name ∉ pl.bounds

instance (pl : Place) (name : String) : Decidable (pl.IsFree name) :=
  inferInstanceAs (Decidable (_ ∧ _ ∧ _))

def LeadsOut (pl : Place) (path : List String) : Prop :=
  if path.head? = some "self" then ∀ n ∈ path.tail.head?, pl.IsFree (unmarked n)
  else ∀ n ∈ path.head?, n ≠ "Self" ∧ unmarked n ∉ pl.params ∧ pl.IsFree (unmarked n)

instance (pl : Place) (path : List String) : Decidable (pl.LeadsOut path) :=
  inferInstanceAs (Decidable (ite _ _ _))

end Place

def Use.isHidden (params : List String) : Use → Bool
  | .outer path => path.head?.any fun n => n != "self" && params.contains (unmarked n)
  | .type _ | .trait _ _ | .method _ => false

def Use.IsMet (pl : Place) : Use → Prop
  | .type n => n = "Self" ∨ n ∈ pl.params ∨ n ∉ pl.traits ∧ n ∉ pl.bounds
  | .trait isMaybe n =>
    n ∉ pl.params ∧ n ∉ pl.types ∧ (isMaybe = true → n = "Sized" ∧ n ∉ pl.traits)
  | .outer path => pl.LeadsOut path
  | .method n => n ∉ conversions

instance (pl : Place) : (u : Use) → Decidable (u.IsMet pl)
  | .type _ => inferInstanceAs (Decidable (_ ∨ _ ∨ _ ∧ _))
  | .trait _ _ => inferInstanceAs (Decidable (_ ∧ _ ∧ (_ → _)))
  | .outer path => inferInstanceAs (Decidable (pl.LeadsOut path))
  | .method _ => inferInstanceAs (Decidable (_ ∉ _))

def Place.Meets (pl : Place) (uses : List Use) : Prop := ∀ u ∈ uses, u.IsMet pl

namespace Place

variable (pl : Place)

end Place

theorem Use.isHidden_nil (u : Use) : u.isHidden [] = false := by
  cases u with
  | outer path => cases h : path.head? <;> simp [isHidden, h]
  | type | trait | method => rfl

theorem Use.IsMet.isHidden {pl : Place} {u : Use} (h : u.IsMet pl) :
    u.isHidden pl.params = false := by
  cases u with
  | outer path =>
    have hout : pl.LeadsOut path := h
    unfold Place.LeadsOut at hout
    cases hn : path.head? with
    | none => simp [Use.isHidden, hn]
    | some n =>
      rw [hn] at hout
      by_cases hself : n = "self"
      · simp [Use.isHidden, hn, hself]
      · rw [if_neg (by simpa using hself)] at hout
        simp [Use.isHidden, hn, (hout n rfl).2.1]
  | type | trait | method => rfl

/-! ### Types -/

def firstUse : Root → List String → List Use
  | .scope, name :: _ => [.type name]
  | _, _ => []

mutual

def Ty.uses : Ty → List Use
  | .given t => t.lookups.map .outer
  | .path root segments => firstUse root (segmentNames segments) ++ segmentUses segments
  | .ref _ _ t => t.uses
  | .slice t => t.uses
  | .unit => []

def segmentNames : List Segment → List String
  | [] => []
  | .mk name _ _ :: rest => name :: segmentNames rest

def segmentUses : List Segment → List Use
  | [] => []
  | .mk _ args _ :: rest => typeUses args ++ segmentUses rest

def typeUses : List Ty → List Use
  | [] => []
  | t :: rest => t.uses ++ typeUses rest

end

attribute [simp] Ty.uses segmentNames segmentUses typeUses

def traitUse (isMaybe : Bool) : Root → List String → List Use
  | .scope, name :: _ => [.trait isMaybe name]
  | _, _ => []

def Bound.uses : Bound → List Use
  | .life _ => []
  | .trait isMaybe root names => traitUse isMaybe root names
  | .callback inputs => .trait false "Fn" :: typeUses inputs

def Param.uses : Param → List Use
  | .self _ _ => []
  | .typed _ t => t.uses

def TypeParam.uses (p : TypeParam) : List Use := p.bounds.flatMap Bound.uses

def Demand.uses (d : Demand) : List Use := d.t.uses ++ d.bounds.flatMap Bound.uses

def Signature.uses (f : Signature) : List Use :=
  f.generics.flatMap TypeParam.uses ++ f.params.flatMap Param.uses ++ f.output.elim [] Ty.uses ++
    f.demands.flatMap Demand.uses

/-! ### Code -/

/-- Of a path to a value only the type before its last name is looked up as a type. -/
def valueUses (root : Root) (names : List String) : List Use := firstUse root names.dropLast

mutual

def Expr.uses : Expr → List Use
  | .path root names => valueUses root names
  | .qualified t root traitNames _ => t.uses ++ traitUse false root traitNames
  | .literal _ => []
  | .call f args _ => f.uses ++ exprUses args
  | .method receiver name args _ => .method name :: (receiver.uses ++ exprUses args)
  | .field e _ => e.uses
  | .wrapped e name args => .method name :: (e.uses ++ exprUses args)
  | .attempt e => e.uses
  | .await e => e.uses
  | .ref _ e => e.uses
  | .deref e => e.uses
  | .paren e => e.uses
  | .unit => []
  | .array elems => exprUses elems
  | .record name fields _ => .type name :: fieldUses fields
  | .ignoring t e => t.uses ++ e.uses
  | .cases e arms => e.uses ++ armUses arms

def exprUses : List Expr → List Use
  | [] => []
  | e :: rest => e.uses ++ exprUses rest

def fieldUses : List (String × Option Expr) → List Use
  | [] => []
  | (_, some e) :: rest => e.uses ++ fieldUses rest
  | (_, none) :: rest => fieldUses rest

def armUses : List Arm → List Use
  | [] => []
  | .value pattern e :: rest => valueUses .scope pattern ++ e.uses ++ armUses rest
  | .block pattern body :: rest => valueUses .scope pattern ++ stmtUses body ++ armUses rest

def stmtUses : List Stmt → List Use
  | [] => []
  | .bind _ e :: rest => e.uses ++ stmtUses rest
  | .run e :: rest => e.uses ++ stmtUses rest
  | .result e :: rest => e.uses ++ stmtUses rest
  | .shared _ t e :: rest => t.uses ++ e.uses ++ stmtUses rest

end

attribute [simp] Expr.uses exprUses fieldUses armUses stmtUses

/-! ### Items -/

def paramNames (generics : List TypeParam) : List String := generics.map (·.name)

def Member.params : Member → List String
  | .function _ _ f _ => paramNames f.generics
  | .constant _ _ _ | .alias _ _ => []

def Member.uses : Member → List Use
  | .constant _ t e => t.uses ++ e.uses
  | .alias _ t => t.uses
  | .function _ _ f body => f.uses ++ stmtUses body

def Item.scopes : Item → List (List String × List Use)
  | .import .. => []
  | .trait _ _ methods => methods.map fun m => (paramNames m.2.generics, m.2.uses)
  | .implementation generics trait? self demands members =>
    (paramNames generics, generics.flatMap TypeParam.uses ++
      (trait?.elim [] fun t => traitUse false t.1 t.2) ++ self.uses ++
        demands.flatMap Demand.uses) ::
      members.map fun m => (paramNames generics ++ m.params, m.uses)
  | .enumeration .. => []
  | .record _ _ generics fields =>
    [(paramNames generics, generics.flatMap TypeParam.uses ++ fields.flatMap (·.t.uses))]
  | .wrapper _ _ param => [([param], [.type param])]
  | .function _ f body => [(paramNames f.generics, f.uses ++ stmtUses body)]

def Item.IsMet (pl : List String → Place) (i : Item) : Prop :=
  ∀ r ∈ i.scopes, (pl r.1).Meets r.2

def typeNames (items : List Item) : List String :=
  items.filterMap fun
    | .enumeration _ name _ => some name
    | .record _ name _ _ => some name
    | .wrapper _ name _ => some name
    | _ => none

def traitNames (items : List Item) : List String :=
  items.filterMap fun
    | .trait _ name _ => some name
    | _ => none

def Use.traits : Use → List String
  | .trait _ name => [name]
  | .type _ | .outer _ | .method _ => []

def traitsOf (uses : List Use) : List String := uses.flatMap Use.traits

def Item.boundNames (i : Item) : List String := i.scopes.flatMap fun r => traitsOf r.2

def bareName? : List String → Option String
  | [name] => some (unmarked name)
  | ["self", name] => some (unmarked name)
  | _ => none

def Use.bareNames : Use → List String
  | .outer path => (bareName? path).toList
  | .type _ | .trait _ _ | .method _ => []

def bareNamesOf (uses : List Use) : List String := uses.flatMap Use.bareNames

/-- Names that a unit or a tuple would have among values. -/
def Item.bareNames (i : Item) : List String := i.scopes.flatMap fun r => bareNamesOf r.2

def place (items : List Item) (params : List String) : Place :=
  ⟨params, typeNames items, traitNames items, items.flatMap Item.boundNames⟩

/-! ## Code that can be used -/

/-- The words that are no names; `gen` is one of them since the edition of 2024. -/
def reserved : List String := "gen" :: keywords

def Item.words (i : Item) : List String :=
  i.name?.toList ++ match i with
    | .trait _ _ methods => methods.map (·.2.name)
    | .implementation _ _ _ _ members => members.map Member.name
    | _ => []

def runtimePath? (runtime : Tokens) : Option Source.Path :=
  match Source.Ty.ofTokens? runtime with
  | some (.path start segments) => some (start, segments)
  | _ => none

def pathUses (p : Source.Path) : List Use := (Source.Ty.path p.1 p.2).lookups.map .outer

@[mk_iff]
structure Resolved (runtime : Tokens) (items : List Item) : Prop where
  words : ∀ i ∈ items, ∀ n ∈ i.words, n ∉ reserved
  declared : (typeNames items ++ traitNames items).Nodup
  members : ToldApart items
  uses : ∀ i ∈ items, i.IsMet (place items)
  values : ∀ n ∈ items.flatMap Item.bareNames, n ∉ items.flatMap Item.values
  runtime : ∃ path, runtimePath? runtime = some path ∧
    ∀ i ∈ items, ∀ r ∈ i.scopes, (place items r.1).Meets (pathUses path)

structure Code where
  runtime : Tokens
  items : List Item
  resolved : Resolved runtime items

end Callwire.Stub
