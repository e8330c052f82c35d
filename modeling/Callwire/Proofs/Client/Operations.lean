import Callwire.Proofs.Client.Numbering

/-!
# Operations on the calls of a client

Everything that can be done to a table of calls, in any order, and what a
sequence of operations lets out: the frames to send and the results of callers.
-/

set_option autoImplicit false

namespace Callwire

section
variable {ε : Type}

def Effect.resultFor (caller : Nat) : Effect ε → Option CallResult
  | .finish c r => if c = caller then some r else none
  | .trace _ | .event _ => none

def resultsFor (caller : Nat) (l : List (Effect ε)) : List CallResult :=
  l.filterMap (Effect.resultFor caller)

@[simp] theorem resultsFor_nil (caller : Nat) : resultsFor caller ([] : List (Effect ε)) = [] :=
  rfl

@[simp] theorem resultsFor_append (caller : Nat) (l m : List (Effect ε)) :
    resultsFor caller (l ++ m) = resultsFor caller l ++ resultsFor caller m :=
  List.filterMap_append

@[simp] theorem resultsFor_trace (caller : Nat) (t : Trace) (l : List (Effect ε)) :
    resultsFor caller (.trace t :: l) = resultsFor caller l := rfl

@[simp] theorem resultsFor_reply (caller c : Nat) (abandoned : Bool) (r : CallResult) :
    resultsFor caller (reply (ε := ε) c abandoned r) =
      if c = caller ∧ abandoned = false then [r] else [] := by
  cases abandoned with
  | true => simp [reply]
  | false => by_cases h : c = caller <;> simp [reply, resultsFor, Effect.resultFor, h]

theorem resultsFor_traces {caller : Nat} {l : List (Effect ε)} (h : ∀ e ∈ l, ∃ t, e = .trace t) :
    resultsFor caller l = [] := by
  apply List.filterMap_eq_nil_iff.mpr
  intro e he
  obtain ⟨t, rfl⟩ := h e he
  rfl

theorem resultsFor_flatMap {α : Type} (caller : Nat) (l : List α) (f : α → List (Effect ε)) :
    resultsFor caller (l.flatMap f) = l.flatMap fun a => resultsFor caller (f a) := by
  induction l with
  | nil => rfl
  | cons a l ih => rw [List.flatMap_cons, resultsFor_append, ih, List.flatMap_cons]

end

def Outgoing.frame? : Outgoing → Option Bytes
  | .framed frame => some frame
  | .declined | .panicked => none

namespace Calls

variable {ε : Type}

inductive Op
  | outbound (now : Instant) (call : Call)
  | inbound (frame : Bytes)
  | expire (t : Instant)
  | setTimeout (timeout : Option Nat)
  | giveUp (caller : Nat)
  | close

def Op.call? : Op → Option Call
  | .outbound _ call => some call
  | _ => none

def handed (ops : List Op) : List Call := ops.filterMap Op.call?

def timeoutAfter (timeout : Option Nat) : List Op → Option Nat
  | [] => timeout
  | .setTimeout t :: ops => timeoutAfter t ops
  | _ :: ops => timeoutAfter timeout ops

def deadlines (timeout : Option Nat) : List Op → List (Option Instant)
  | [] => []
  | .outbound now _ :: ops =>
    (timeout.map fun t => now + Instant.ofMillis t) :: deadlines timeout ops
  | .setTimeout t :: ops => deadlines t ops
  | _ :: ops => deadlines timeout ops

def step (c : Calls) : Op → Calls × Option Bytes × List (Effect Empty)
  | .outbound now call =>
    let (c, outgoing, effects) := c.outbound now call
    (c, outgoing.frame?, effects)
  | .inbound frame =>
    let (c, effects, _) := c.inbound frame
    (c, none, effects)
  | .expire t =>
    let (c, effects) := c.expire t
    (c, none, effects)
  | .setTimeout timeout => (c.setTimeout timeout, none, [])
  | .giveUp caller => (c.abandon caller, none, [])
  | .close =>
    let (c, effects) := c.close
    (c, none, effects)

def after (c : Calls) : List Op → Calls
  | [] => c
  | op :: ops => after (c.step op).1 ops

def frames (c : Calls) : List Op → List Bytes
  | [] => []
  | op :: ops =>
    (c.step op).2.1.toList ++ frames (c.step op).1 ops

def effects (c : Calls) : List Op → List (Effect Empty)
  | [] => []
  | op :: ops => (c.step op).2.2 ++ effects (c.step op).1 ops

theorem after_append (c : Calls) (ops rest : List Op) :
    c.after (ops ++ rest) = (c.after ops).after rest := by
  induction ops generalizing c with
  | nil => rfl
  | cons op ops ih => exact ih _

theorem effects_append (c : Calls) (ops rest : List Op) :
    c.effects (ops ++ rest) = c.effects ops ++ (c.after ops).effects rest := by
  induction ops generalizing c with
  | nil => rfl
  | cons op ops ih => simp only [List.cons_append, effects, after, ih, List.append_assoc]

theorem handed_append (ops rest : List Op) : handed (ops ++ rest) = handed ops ++ handed rest :=
  List.filterMap_append

theorem handed_cons (op : Op) (ops : List Op) :
    handed (op :: ops) = op.call?.toList ++ handed ops := by
  cases op <;> rfl

theorem Numbered.step {c : Calls} {calls : List Call} (h : Numbered c calls) (op : Op) :
    Numbered (c.step op).1 (calls ++ op.call?.toList) := by
  cases op with
  | outbound now call => exact h.outbound now call
  | inbound frame =>
    show Numbered (c.inbound frame).1 (calls ++ [])
    rw [List.append_nil]
    exact h.inbound frame
  | expire t =>
    show Numbered (c.expire (ε := Empty) t).1 (calls ++ [])
    rw [List.append_nil]
    exact h.expire t
  | setTimeout timeout =>
    show Numbered (c.setTimeout timeout) (calls ++ [])
    rw [List.append_nil]
    exact h.setTimeout timeout
  | giveUp caller =>
    show Numbered (c.abandon caller) (calls ++ [])
    rw [List.append_nil]
    exact h.abandon caller
  | close =>
    show Numbered (c.close (ε := Empty)).1 (calls ++ [])
    rw [List.append_nil]
    exact h.close

theorem Numbered.after {c : Calls} {calls : List Call} (h : Numbered c calls) (ops : List Op) :
    Numbered (c.after ops) (calls ++ handed ops) := by
  induction ops generalizing c calls with
  | nil => rwa [show handed [] = [] from rfl, List.append_nil]
  | cons op ops ih =>
    rw [handed_cons, ← List.append_assoc]
    exact ih (h.step op)

theorem timeout_outbound (c : Calls) (now : Instant) (call : Call) :
    (c.outbound (ε := ε) now call).1.timeout = c.timeout := by
  unfold outbound
  split
  · rfl
  · dsimp only
    split
    · rfl
    · split_ifs <;> rfl

theorem timeout_inbound (c : Calls) (frame : Bytes) :
    (c.inbound (ε := ε) frame).1.timeout = c.timeout := by
  by_cases hr : ∃ r, Frame.decode .client frame = .ok (.response r)
  · obtain ⟨r, hr⟩ := hr
    rw [inbound_of_response hr]
    cases hf : c.find? r.requestId.toInt.toNat with
    | none => rw [respond_of_none hf]
    | some p =>
      rw [respond_of_some hf]
      rfl
  · rw [(inbound_of_other (fun r hd => hr ⟨r, hd⟩) c).1]

theorem timeout_after (c : Calls) (ops : List Op) :
    (c.after ops).timeout = timeoutAfter c.timeout ops := by
  induction ops generalizing c with
  | nil => rfl
  | cons op ops ih =>
    rw [after, ih]
    cases op with
    | outbound now call => rw [step, timeout_outbound, timeoutAfter]; simp
    | inbound frame => rw [step, timeout_inbound, timeoutAfter]; simp
    | expire t => rfl
    | setTimeout timeout => rfl
    | giveUp caller => rfl
    | close => rfl

end Calls

end Callwire
