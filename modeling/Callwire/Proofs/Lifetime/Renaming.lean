import Callwire.Proofs.Lifetime.Life

/-!
# Callers under other numbers

A connection only hands the numbers of its callers on. Under other numbers it does the same,
and the results go to the callers under these numbers.
-/

set_option autoImplicit false

namespace Callwire

section
variable {ε : Type} (ρ : Nat → Nat)

def Call.rename (c : Call) : Call := { c with caller := ρ c.caller }

def PendingCall.rename (p : PendingCall) : PendingCall := { p with caller := ρ p.caller }

def Effect.rename : Effect ε → Effect ε
  | .finish caller r => .finish (ρ caller) r
  | .trace t => .trace t
  | .event e => .event e

theorem reply_rename (caller : Nat) (abandoned : Bool) (r : CallResult) :
    (reply (ε := ε) caller abandoned r).map (.rename ρ) = reply (ρ caller) abandoned r := by
  cases abandoned <;> rfl

/-- What has no result among it stays as it is. -/
theorem rename_of_quiet {effects : List (Effect ε)} (h : ∀ caller r, .finish caller r ∉ effects) :
    effects.map (.rename ρ) = effects := by
  refine (List.map_congr_left fun e he => ?_).trans (List.map_id _)
  cases e with
  | finish caller r => exact absurd he (h caller r)
  | trace t => rfl
  | event e => rfl

theorem finished_rename (effects : List (Effect ε)) :
    finished (effects.map (.rename ρ)) = (finished effects).map fun r => (ρ r.1, r.2) := by
  induction effects with
  | nil => rfl
  | cons e effects ih =>
    cases e with
    | finish caller r => exact congrArg ((ρ caller, r) :: ·) ih
    | trace t => exact ih
    | event e => exact ih

end

namespace Calls

variable {ε : Type} (ρ : Nat → Nat) (c : Calls)

def rename : Calls := { c with pending := c.pending.map (·.rename ρ) }

theorem outbound_rename (now : Instant) (call : Call) :
    (c.rename ρ).outbound (ε := ε) now (call.rename ρ) =
      ((c.outbound (ε := ε) now call).1.rename ρ, (c.outbound (ε := ε) now call).2.1,
        (c.outbound now call).2.2.map (.rename ρ)) := by
  unfold outbound
  cases hn : c.nextId with
  | none => simp [rename, hn, Call.rename, reply_rename]
  | some id =>
    cases he : Request.encode ⟨call.method, Int32.ofNat id, call.payload⟩ with
    | error e => simp [rename, hn, he, Call.rename, reply_rename, advance]
    | ok frame =>
      simp only [rename, hn, he, Call.rename, advance]
      split_ifs <;> simp [PendingCall.rename, reply_rename]

theorem failureTrace_rename (method : String) (r : CallResult) :
    (failureTrace (ε := ε) method r).map (.rename ρ) = failureTrace method r := by
  cases r <;> rfl

theorem find?_rename (id : Nat) : (c.rename ρ).find? id = (c.find? id).map (·.rename ρ) :=
  List.find?_map

theorem without_rename (id : Nat) : (c.rename ρ).without id = (c.without id).rename ρ := by
  simp only [rename, without, List.filter_map]
  rfl

theorem respond_rename (r : Response) : (c.rename ρ).respond (ε := ε) r =
    ((c.respond (ε := ε) r).1.rename ρ, (c.respond r).2.map (.rename ρ)) := by
  unfold respond
  rw [find?_rename]
  cases c.find? r.requestId.toInt.toNat with
  | none => rfl
  | some p =>
    simp only [Option.map_some, List.map_append, failureTrace_rename, PendingCall.reply,
      reply_rename]
    rw [← without_rename]
    rfl

theorem inbound_rename (frame : Bytes) : (c.rename ρ).inbound (ε := ε) frame =
    ((c.inbound (ε := ε) frame).1.rename ρ, (c.inbound (ε := ε) frame).2.1.map (.rename ρ),
      (c.inbound (ε := ε) frame).2.2) := by
  unfold inbound
  rcases Frame.decode .client frame with e | r | r | p
  · rfl
  · rfl
  · simp only [respond_rename]
  · rfl

theorem expire_rename (t : Instant) : (c.rename ρ).expire (ε := ε) t =
    ((c.expire (ε := ε) t).1.rename ρ, (c.expire t).2.map (.rename ρ)) := by
  have htimed : ∀ p : PendingCall,
      (timedOut (ε := ε) p).map (.rename ρ) = timedOut (p.rename ρ) := by
    intro p
    simp only [timedOut, List.map_cons, PendingCall.reply, reply_rename]
    rfl
  simp only [expire, rename, List.filter_map, List.flatMap_map, List.map_flatMap, htimed]
  rfl

theorem close_rename : (c.rename ρ).close (ε := ε) =
    ((c.close (ε := ε)).1.rename ρ, (c.close).2.map (.rename ρ)) := by
  simp only [close, rename, List.flatMap_map, List.map_flatMap, PendingCall.reply, reply_rename]
  rfl

/-- A caller gives up under its own number. -/
theorem abandon_rename (caller : Nat)
    (h : ∀ p ∈ c.pending, ρ p.caller = ρ caller ↔ p.caller = caller) :
    (c.rename ρ).abandon (ρ caller) = (c.abandon caller).rename ρ := by
  simp only [abandon, rename, List.map_map]
  congr 1
  apply List.map_congr_left
  intro p hp
  simp only [Function.comp, PendingCall.rename, h p hp]
  split_ifs <;> rfl

end Calls

namespace Client

variable {H S ε : Type} (ρ : Nat → Nat)

def renamed (c : Client H) (blocked : List Call) : Client H :=
  { c with calls := c.calls.rename ρ, queue := c.queue.map (·.rename ρ), blocked }

variable {t : Terminal S} {deliver : H → Push → Delivery H ε}

section
variable (c : Client H) (blocked : List Call)

theorem inbound_renamed
    (quiet : ∀ hub p caller r, Effect.finish caller r ∉ (deliver hub p).effects)
    (frame : Bytes) : (c.renamed ρ blocked).inbound deliver frame =
      ((c.inbound deliver frame).1.renamed ρ blocked,
        (c.inbound deliver frame).2.map (.rename ρ)) := by
  have hcalls := c.calls.inbound_rename (ε := ε) ρ frame
  rcases hi : c.calls.inbound (ε := ε) frame with ⟨calls, effects, _ | push⟩
  · rw [hi] at hcalls
    simp only [inbound, renamed, hcalls, hi]
  · rw [hi] at hcalls
    simp only [inbound, renamed, hcalls, hi, List.map_append,
      rename_of_quiet ρ (quiet c.hub push)]
    rfl

theorem receive_renamed
    (quiet : ∀ hub p caller r, Effect.finish caller r ∉ (deliver hub p).effects) (l : S) :
    (c.renamed ρ blocked).receive t deliver l =
      (c.receive t deliver l).map fun r =>
        (r.1.renamed ρ blocked, r.2.1, r.2.2.map (.rename ρ)) := by
  unfold receive
  rcases t.receive l with ⟨l', r⟩
  cases r with
  | message frame => simp only [inbound_renamed ρ c blocked quiet, Option.map_some]
  | waiting => rfl
  | finished => rfl
  | failed f => rfl

theorem take_renamed (now : Instant) (l : S) : (c.renamed ρ blocked).take (ε := ε) t now l =
    (c.take (ε := ε) t now l).map fun r =>
      (r.1.renamed ρ blocked, r.2.1, r.2.2.map (.rename ρ)) := by
  cases hq : c.queue with
  | nil => simp [take, renamed, hq]
  | cons call rest =>
    have hout := c.calls.outbound_rename (ε := ε) ρ now call
    rcases ho : c.calls.outbound (ε := ε) now call with ⟨calls, _ | frame | _, effects⟩
    · rw [ho] at hout
      simp only [take, renamed, hq, List.map_cons, hout, ho, Option.map_some]
    · rw [ho] at hout
      simp only [take, renamed, hq, List.map_cons, hout, ho]
      cases t.send l frame <;> rfl
    · rw [ho] at hout
      simp only [take, renamed, hq, List.map_cons, hout, ho, Option.map_some]

theorem runSweep_renamed (now : Instant) : (c.renamed ρ blocked).runSweep (ε := ε) now =
    (c.runSweep (ε := ε) now).map fun r => (r.1.renamed ρ blocked, r.2.map (.rename ρ)) := by
  simp only [runSweep, renamed, Calls.expire_rename]
  split_ifs <;> rfl

theorem applyConfig_renamed (now : Instant) : (c.renamed ρ blocked).applyConfig now =
    (c.applyConfig now).map fun d => d.renamed ρ blocked := by
  simp only [applyConfig, renamed, Option.map_map]
  rfl

theorem leave_renamed (e : TaskEnd) (l : S) : (c.renamed ρ blocked).leave (ε := ε) t e l =
    ((c.leave (ε := ε) t e l).1.renamed ρ blocked, (c.leave (ε := ε) t e l).2.1,
      (c.leave t e l).2.2.map (.rename ρ)) := by
  have hend : (endTrace (ε := ε) e).map (.rename ρ) = endTrace e := by cases e <;> rfl
  simp only [leave, renamed, Calls.close_rename, List.map_append, hend, List.flatMap_map,
    List.map_flatMap, reply_rename]
  rfl

/-- Apart from calls that get room, an action does the same under other numbers. -/
theorem act_renamed
    (quiet : ∀ hub p caller r, Effect.finish caller r ∉ (deliver hub p).effects)
    (now : Instant) {a : Action} (ha : a ≠ .enqueue) (l : S) :
    (c.renamed ρ blocked).act t deliver now a l =
      (c.act t deliver now a l).map fun r =>
        (r.1.renamed ρ blocked, r.2.1, r.2.2.map (.rename ρ)) := by
  have hphase : (c.renamed ρ blocked).phase = c.phase := rfl
  cases hp : c.phase with
  | running =>
    cases a with
    | enqueue => exact absurd rfl ha
    | receive => simp only [act, hphase, hp, receive_renamed ρ c blocked quiet]
    | take => simp only [act, hphase, hp, take_renamed]
    | sweep =>
      simp only [act, hphase, hp, runSweep_renamed, Option.map_map]
      rfl
    | configure =>
      simp only [act, hphase, hp, applyConfig_renamed, Option.map_map]
      rfl
    | close =>
      simp only [act, hphase, hp, show (c.renamed ρ blocked).closing = c.closing from rfl]
      split_ifs <;> rfl
    | leave => simp [act, hphase, hp]
  | leaving e =>
    cases a with
    | enqueue => exact absurd rfl ha
    | leave => simp only [act, hphase, hp, leave_renamed, Option.map_some]
    | receive | take | sweep | configure | close => simp [act, hphase, hp]
  | ended e =>
    cases a with
    | enqueue => exact absurd rfl ha
    | receive | take | sweep | configure | close | leave => simp [act, hphase, hp]

end

end Client

end Callwire
