import Callwire.Proofs.Attempts
import Callwire.Schema.Trait
import Callwire.Source.Reading

/-!
# The grammar of services

Which traits describe a service, and which service: one rule for each way to write a
payload type, a parameter list, a result, a method and a trait. Reading a trait accepts
what the rules derive and gives the service that they derive. It does not look at three
dots after the parameters, so the rules hold of the trait without them.
-/

set_option autoImplicit false

namespace Callwire

/-! ## Dots -/

namespace Source

def Signature.withoutDots (f : Signature) : Signature :=
  { f with params := f.params.filter isSingle }

def Member.withoutDots : Member → Member
  | .function marks visibility isDefault f body =>
    .function marks visibility isDefault f.withoutDots body
  | m => m

def Trait.withoutDots (t : Trait) : Trait :=
  { t with members := t.members.map Member.withoutDots }

end Source

namespace Traits
open Source

/-! ## Payload types -/

/-- What a type stands for: the unit type and two names have a meaning of their own, any
other path is the name of a payload type. A list of arguments is no part of a name, even
if it is empty. -/
inductive Denotes : Ty → PayloadType → Prop
  | unit (trailing : Bool) : Denotes (.tuple [] trailing) .void
  | paren {t : Ty} {p : PayloadType} : Denotes t p → Denotes (.paren t) p
  | void : Denotes (.path .scope [.plain "Void"]) .void
  | error : Denotes (.path .scope [.plain "Error"]) .error
  | scope {names : List String} : names ≠ ["Void"] → names ≠ ["Error"] →
      Denotes (.path .scope (names.map .plain)) (.named ("::".intercalate names))
  | absolute (names : List String) :
      Denotes (.path .absolute (names.map .plain)) (.named ("::" ++ "::".intercalate names))

theorem all_isPlain_iff {segments : List Segment} :
    segments.all Segment.isPlain = true ↔ ∃ names : List String, segments = names.map .plain := by
  constructor
  · intro h
    induction segments with
    | nil => exact ⟨[], rfl⟩
    | cons s segments ih =>
      rw [List.all_cons, Bool.and_eq_true] at h
      obtain ⟨names, rfl⟩ := ih h.2
      obtain ⟨name, args⟩ := s
      cases args with
      | none => exact ⟨name :: names, rfl⟩
      | angle => cases h.1
      | round => cases h.1
  · rintro ⟨names, rfl⟩
    simp [Segment.plain, Segment.isPlain]

theorem pathText_plain (names : List String) :
    pathText (names.map .plain) = "::".intercalate names := by
  simp [pathText, Segment.plain, Segment.name, Function.comp_def]

/-- A name without a colon is joined from itself alone. -/
theorem intercalate_eq_iff {word : String} (hword : word ≠ "") (hcolon : ':' ∉ word.toList)
    (names : List String) : "::".intercalate names = word ↔ names = [word] := by
  cases names with
  | nil => simpa using hword.symm
  | cons name names =>
    cases names with
    | nil => simp
    | cons other names =>
      rw [String.intercalate_cons_cons]
      constructor
      · rintro rfl
        simp at hcolon
      · intro h
        cases h

theorem ofName_intercalate (names : List String) :
    PayloadType.ofName ("::".intercalate names) =
      if names = ["Void"] then .void else if names = ["Error"] then .error
      else .named ("::".intercalate names) := by
  have hvoid : "::".intercalate names = "Void" ↔ names = ["Void"] :=
    intercalate_eq_iff (by decide) (by decide) names
  have herror : "::".intercalate names = "Error" ↔ names = ["Error"] :=
    intercalate_eq_iff (by decide) (by decide) names
  simp only [PayloadType.ofName, hvoid, herror]

def payloadNamed (start : Start) (names : List String) : PayloadType :=
  if start = .absolute then .named ("::" ++ "::".intercalate names)
  else .ofName ("::".intercalate names)

theorem denotes_path_iff {start : Start} {segments : List Segment} {p : PayloadType} :
    Denotes (.path start segments) p ↔
      ∃ names : List String, segments = names.map .plain ∧ p = payloadNamed start names := by
  constructor
  · intro h
    cases h with
    | void => exact ⟨["Void"], rfl, rfl⟩
    | error => exact ⟨["Error"], rfl, rfl⟩
    | @scope names hvoid herror =>
      refine ⟨names, rfl, ?_⟩
      simp [payloadNamed, ofName_intercalate, hvoid, herror]
    | absolute names => exact ⟨names, rfl, rfl⟩
  · rintro ⟨names, rfl, rfl⟩
    cases start with
    | absolute => exact .absolute names
    | scope =>
      have hname : payloadNamed .scope names = .ofName ("::".intercalate names) := rfl
      rw [hname, ofName_intercalate]
      split_ifs with hvoid herror
      · rw [hvoid]
        exact .void
      · rw [herror]
        exact .error
      · exact .scope hvoid herror

theorem ofTy_path_eq_ok_iff (start : Start) (segments : List Segment) (p : PayloadType) :
    PayloadType.ofTy (.path start segments) = .ok p ↔ Denotes (.path start segments) p := by
  rw [denotes_path_iff, PayloadType.ofTy]
  by_cases hplain : segments.all Segment.isPlain = true
  · obtain ⟨names, rfl⟩ := all_isPlain_iff.mp hplain
    have hnames (other : List String) :
        names.map Segment.plain = other.map .plain ↔ names = other := by
      apply List.map_inj_right
      intro a b h
      cases h
      rfl
    rw [if_neg (by simp [hplain]), pathText_plain]
    cases start <;> simp [payloadNamed, hnames, eq_comm]
  · have hnot : ¬ ∃ names : List String, segments = names.map .plain := by
      rwa [← all_isPlain_iff]
    rw [if_pos (by simp [hplain])]
    constructor
    · rintro ⟨⟩
    · rintro ⟨names, hnames, -⟩
      exact absurd ⟨names, hnames⟩ hnot

/-- A type is read as what it denotes, and refused if it denotes nothing. -/
theorem ofTy_eq_ok_iff (t : Ty) (p : PayloadType) : PayloadType.ofTy t = .ok p ↔ Denotes t p := by
  induction t using PayloadType.ofTy.induct with
  | case1 trailing =>
    rw [PayloadType.ofTy]
    constructor
    · rintro ⟨⟩
      exact .unit trailing
    · rintro ⟨⟩
      rfl
  | case2 t ih =>
    rw [PayloadType.ofTy, ih]
    exact ⟨.paren, fun h => by cases h; assumption⟩
  | case3 start segments | case4 segments | case5 start segments =>
    exact ofTy_path_eq_ok_iff _ segments p
  | case6 t hunit hparen hpath =>
    rw [PayloadType.ofTy]
    · constructor
      · rintro ⟨⟩
      · intro h
        cases h with
        | unit trailing => exact (hunit trailing rfl).elim
        | paren h => exact (hparen _ rfl).elim
        | void | error | scope | absolute => exact (hpath _ _ rfl).elim
    · exact hunit
    · exact hparen
    · exact hpath

/-! ## Methods -/

inductive Takes : List Param → PayloadType → Prop
  | nothing {self : Param} : self.isReceiver = true → Takes [self] .void
  | payload {self : Param} {marks : List Mark} {pattern : Pattern} {t : Ty} {p : PayloadType} :
      self.isReceiver = true → Denotes t p → Takes [self, .typed marks pattern t] p

inductive Gives : Option Ty → PayloadType → Prop
  | nothing : Gives none .void
  | payload {t : Ty} {p : PayloadType} : Denotes t p → Gives (some t) p

structure Declares (role : Role) (f : Signature) (m : Method) : Prop where
  isAsync : f.isAsync = false
  generics : f.generics.params = []
  name : m.name = f.name
  request : Takes f.params m.request
  response : Gives f.output m.response
  event : role = .push → m.response = .void

inductive DeclaresMember (role : Role) : Member → Method → Prop
  | function {marks : List Mark} {visibility : Visibility} {isDefault : Bool} {f : Signature}
      {m : Method} : Declares role f m → m.docs = docLines marks →
      DeclaresMember role (.function marks visibility isDefault f none) m

structure Describes (role : Role) (t : Trait) (s : Service) : Prop where
  generics : t.generics.params = []
  name : s.name = t.name
  tags : s.tags = [role.tag]
  docs : s.docs = docLines (t.marks ++ t.inner)
  methods : List.Forall₂ (DeclaresMember role) t.members s.methods

/-! ## Reading -/

variable {role : Role}

theorem requestOf_eq_ok_iff {self : Param} (hself : self.isReceiver = true) (rest : List Param)
    (p : PayloadType) : requestOf rest = .ok p ↔ Takes (self :: rest) p := by
  match rest with
  | [] =>
    constructor
    · rintro ⟨⟩
      exact .nothing hself
    · rintro ⟨⟩
      rfl
  | [.typed marks pattern t] =>
    rw [requestOf, ofTy_eq_ok_iff]
    exact ⟨.payload hself, fun h => by cases h; assumption⟩
  | .typed marks pattern t :: other :: rest =>
    constructor
    · intro h
      obtain ⟨_, -, h⟩ := bind_eq_ok_iff.mp h
      cases h
    · rintro ⟨⟩
  | .receiver .. :: rest | .dots .. :: rest =>
    constructor
    · rintro ⟨⟩
    · rintro ⟨⟩

theorem Takes.receiver_cons {params : List Param} {p : PayloadType} (h : Takes params p) :
    ∃ marks isRef isMut t rest, params = .receiver marks isRef isMut t :: rest ∧
      requestOf rest = .ok p := by
  have hcons : ∃ self rest, params = self :: rest ∧ self.isReceiver = true := by
    cases h with
    | nothing hself => exact ⟨_, _, rfl, hself⟩
    | payload hself => exact ⟨_, _, rfl, hself⟩
  obtain ⟨self, rest, rfl, hself⟩ := hcons
  have hrequest := (requestOf_eq_ok_iff hself rest p).mpr h
  cases self with
  | receiver marks isRef isMut t => exact ⟨marks, isRef, isMut, t, rest, rfl, hrequest⟩
  | typed => cases hself
  | dots => cases hself

theorem responseOf_eq_ok_iff (output : Option Ty) (p : PayloadType) :
    responseOf role output = .ok p ↔ Gives output p ∧ (role = .push → p = .void) := by
  have hgiven (q : PayloadType) :
      (output.map PayloadType.ofTy).getD (.ok .void) = .ok q ↔ Gives output q := by
    cases output with
    | none =>
      constructor
      · rintro ⟨⟩
        exact .nothing
      · rintro ⟨⟩
        rfl
    | some t =>
      rw [Option.map_some, Option.getD_some, ofTy_eq_ok_iff]
      exact ⟨.payload, fun h => by cases h; assumption⟩
  rw [responseOf, bind_eq_ok_iff]
  simp only [hgiven]
  cases role with
  | call => simp
  | push =>
    simp only [PayloadType.isVoid, decide_true, Bool.true_and, Bool.not_eq_true', forall_const]
    constructor
    · rintro ⟨q, hq, h⟩
      split_ifs at h with hvoid
      cases h
      exact ⟨hq, by simpa using hvoid⟩
    · rintro ⟨hp, rfl⟩
      exact ⟨.void, hp, rfl⟩

theorem ofSignature_eq_ok_iff (docs : List String) (f : Signature) (m : Method) :
    Method.ofSignature role docs f = .ok m ↔ Declares role f.withoutDots m ∧ m.docs = docs := by
  rw [Method.ofSignature]
  by_cases hasync : f.isAsync = true
  · rw [if_pos hasync]
    constructor
    · rintro ⟨⟩
    · rintro ⟨h, -⟩
      exact absurd (hasync.symm.trans h.isAsync) (by decide)
  by_cases hgenerics : f.generics.params = []
  · rw [if_neg hasync, if_neg (by simp [hgenerics])]
    constructor
    · intro h
      split at h
      next marks isRef isMut t rest hparams =>
        have hself : (Param.receiver marks isRef isMut t).isReceiver = true := rfl
        obtain ⟨request, hrequest, h⟩ := bind_eq_ok_iff.mp h
        obtain ⟨response, hresponse, h⟩ := bind_eq_ok_iff.mp h
        obtain rfl := Except.ok.inj h
        rw [requestOf_eq_ok_iff hself, ← hparams] at hrequest
        obtain ⟨hgives, hevent⟩ := (responseOf_eq_ok_iff _ _).mp hresponse
        refine ⟨⟨?_, hgenerics, rfl, hrequest, hgives, hevent⟩, rfl⟩
        exact Bool.eq_false_of_not_eq_true hasync
      next => cases h
    · rintro ⟨⟨-, -, hname, htakes, hgives, hevent⟩, rfl⟩
      have hresponse : responseOf role f.output = .ok m.response :=
        (responseOf_eq_ok_iff _ _).mpr ⟨hgives, hevent⟩
      obtain ⟨marks, isRef, isMut, t, rest, hparams, hrequest⟩ := htakes.receiver_cons
      have hfilter : f.params.filter isSingle = .receiver marks isRef isMut t :: rest := hparams
      have hname' : f.name = m.name := hname.symm
      simp only [hfilter, hrequest, hresponse, hname', bind, Except.bind, pure, Except.pure]
  · rw [if_neg hasync, if_pos (by simpa using hgenerics)]
    constructor
    · rintro ⟨⟩
    · rintro ⟨h, -⟩
      exact absurd h.generics hgenerics

theorem ofMember_eq_ok_iff (x : Member) (m : Method) :
    Method.ofMember role x = .ok m ↔ DeclaresMember role x.withoutDots m := by
  match x with
  | .function marks visibility isDefault f none =>
    rw [Method.ofMember, ofSignature_eq_ok_iff]
    exact ⟨fun h => .function h.1 h.2, fun h => by cases h; constructor <;> assumption⟩
  | .function _ _ _ _ (some _) | .const .. | .static .. | .type .. | .macroCall .. | .verbatim _ =>
    constructor
    · rintro ⟨⟩
    · rintro ⟨⟩

/-- A trait is read as the service that it describes when the dots after its parameters
are left out, and refused if it describes none. -/
theorem ofTrait_eq_ok_iff (role : Role) (t : Trait) (s : Service) :
    Service.ofTrait role t = .ok s ↔ Describes role t.withoutDots s := by
  rw [Service.ofTrait]
  by_cases hgenerics : t.generics.params = []
  · rw [if_neg (by simp [hgenerics]), bind_eq_ok_iff]
    have hmethods (methods : List Method) : t.members.mapM (Method.ofMember role) = .ok methods ↔
        List.Forall₂ (DeclaresMember role) t.withoutDots.members methods := by
      rw [mapM_eq_ok_iff, Trait.withoutDots, List.forall₂_map_left_iff]
      simp only [ofMember_eq_ok_iff]
    simp only [hmethods]
    constructor
    · rintro ⟨methods, h, heq⟩
      obtain rfl := Except.ok.inj heq
      exact ⟨hgenerics, rfl, rfl, rfl, h⟩
    · rintro ⟨-, hname, htags, hdocs, h⟩
      refine ⟨s.methods, h, ?_⟩
      obtain ⟨name, methods, tags, docs⟩ := s
      subst hname htags hdocs
      rfl
  · rw [if_pos (by simpa using hgenerics)]
    constructor
    · rintro ⟨⟩
    · intro h
      exact absurd h.generics hgenerics

/-- A method that takes any number of arguments after its payload. -/
def journal : Trait :=
  ⟨[], .inherited, false, false, "Journal", .none, [], false, .none, [],
    [.function [] .inherited false
      ⟨false, false, false, .usual, "write", .none,
        [.receiver [] (some none) false none,
          .typed [] (.bind false false "line" none) (.path .scope [.plain "Line"]),
          .dots [] none], false, none, .none⟩ none]⟩

/-- The dots make a second argument, and the trait is read as if they were not there. -/
theorem dots_are_read_over :
    textOf journal.tokens = "trait Journal \x7b fn write (& self , line : Line , ...) ; \x7d" ∧
      Service.ofTrait .call journal =
        .ok ⟨"Journal", [⟨"write", .named "Line", .void, []⟩], ["is_call"], []⟩ ∧
      ¬ ∃ s, Describes .call journal s := by
  refine ⟨by decide +kernel, rfl, ?_⟩
  rintro ⟨⟨_, methods, _, _⟩, h⟩
  have hmethods : List.Forall₂ (DeclaresMember .call) journal.members methods := h.methods
  rcases hmethods with _ | ⟨⟨hdeclares, -⟩, -⟩
  cases hdeclares.request

end Traits

end Callwire
