import Callwire.Proofs.Push.Calls

/-!
# Registrations during a delivery

While the listeners of a push run, callbacks and other threads may register more. The
listeners were looked up before, so those that are new have to wait for the next push,
unless they subscribe with a subscriber that is still to run.
-/

set_option autoImplicit false

namespace Callwire.Sample

variable {τ : Type}

namespace Hub

def runAmid (payload : Bytes) : List (List (Registration τ)) → List (Listener τ) → Hub τ →
    Delivery (Hub τ) (τ × Seen)
  | amid, [], h => ⟨h.register amid.flatten, [], false⟩
  | amid, listener :: rest, h =>
    let d := Hub.run payload [listener] (h.register (amid.headD []))
    if d.panicked then d
    else
      let later := runAmid payload amid.tail rest d.hub
      { later with effects := d.effects ++ later.effects }

def deliverAmid (amid : List (List (Registration τ))) (h : Hub τ) (p : Push) :
    Delivery (Hub τ) (τ × Seen) :=
  match h.listeners.of p.name with
  | [] => { h.deliver p with hub := h.register amid.flatten }
  | listeners => runAmid p.payload amid listeners h

theorem run_cons (payload : Bytes) (listener : Listener τ) (rest : List (Listener τ))
    (h : Hub τ) : Hub.run payload (listener :: rest) h =
      let d := Hub.run payload [listener] h
      if d.panicked then d
      else
        let later := Hub.run payload rest d.hub
        { later with effects := d.effects ++ later.effects } := by
  cases listener with
  | plain tag panics => cases panics <;> rfl
  | subscriber index e =>
    cases hs : h.subscribers[index]? with
    | none => simp [Hub.run, hs]
    | some s => simp [Hub.run, hs]

theorem runAmid_nil (payload : Bytes) (listeners : List (Listener τ)) (h : Hub τ) :
    runAmid payload [] listeners h = Hub.run payload listeners h := by
  induction listeners generalizing h with
  | nil => rfl
  | cons listener rest ih =>
    rw [run_cons]
    simp only [runAmid, List.headD_nil, List.tail_nil, Hub.register, List.foldl_nil, ih]

/-- Without them it is an ordinary delivery. -/
theorem deliverAmid_nil : deliverAmid (τ := τ) [] = Hub.deliver := by
  funext h p
  unfold deliverAmid
  cases hl : h.listeners.of p.name with
  | nil => simp [Hub.deliver, Hub.register, hl]
  | cons listener rest => simp only [runAmid_nil, Hub.deliver, hl]

theorem runAmid_quiet (payload : Bytes) (caller : Nat) (r : CallResult)
    (listeners : List (Listener τ)) (amid : List (List (Registration τ))) (h : Hub τ) :
    .finish caller r ∉ (runAmid payload amid listeners h).effects := by
  induction listeners generalizing amid h with
  | nil => exact fun hmem => by cases hmem
  | cons listener rest ih =>
    intro hmem
    simp only [runAmid] at hmem
    split_ifs at hmem
    · exact Hub.run_quiet payload caller r _ _ hmem
    · rcases List.mem_append.mp hmem with hmem | hmem
      · exact Hub.run_quiet payload caller r _ _ hmem
      · exact ih _ _ hmem

theorem deliverAmid_quiet (amid : List (List (Registration τ))) (h : Hub τ) (p : Push)
    (caller : Nat) (r : CallResult) : .finish caller r ∉ (h.deliverAmid amid p).effects := by
  unfold deliverAmid
  split
  · exact Hub.deliver_quiet h p caller r
  · exact runAmid_quiet p.payload caller r _ amid h

end Hub

namespace Registrations

structure Delivered (rs during : List (Registration τ)) (lower upper : List (τ × Seen))
    (d : Delivery (Hub τ) (τ × Seen)) : Prop where
  hub : d.hub = hub (rs ++ during)
  calm : d.panicked = false
  all : lower.Sublist (events d.effects)
  only : (events d.effects).Sublist upper

theorem flatten_eq (amid : List (List (Registration τ))) :
    amid.headD [] ++ amid.tail.flatten = amid.flatten := by
  cases amid <;> rfl

theorem delivered_run (payload : Bytes) (listeners : List (Listener τ))
    (hcalm : ∀ l ∈ listeners, l.Calm) {rs : List (Registration τ)}
    {amid : List (List (Registration τ))} (h : orderly 0 (rs ++ amid.flatten) = true) :
    Delivered rs amid.flatten (listeners.flatMap (Listener.calls rs payload))
      (listeners.flatMap (Listener.calls (rs ++ amid.flatten) payload))
      (Hub.runAmid payload amid listeners (hub rs)) := by
  induction listeners generalizing rs amid with
  | nil => exact ⟨(hub_append rs _).symm, rfl, List.Sublist.refl _, List.Sublist.refl _⟩
  | cons listener rest ih =>
    rw [← flatten_eq amid, ← List.append_assoc] at h
    have hbefore := orderly_of_front h (List.prefix_append _ _)
    obtain ⟨hhub, hpanic, hcalls⟩ :=
      run_listener hbefore payload (hcalm listener List.mem_cons_self)
    have hlater := ih (fun l hl => hcalm l (List.mem_cons_of_mem _ hl)) h
    rw [List.append_assoc, flatten_eq] at hlater
    have hrun : Hub.runAmid payload amid (listener :: rest) (hub rs) =
        let d := Hub.run payload [listener] (hub (rs ++ amid.headD []))
        let later := Hub.runAmid payload amid.tail rest (hub (rs ++ amid.headD []))
        { later with effects := d.effects ++ later.effects } := by
      simp only [Hub.runAmid, ← hub_append, hpanic, hhub, Bool.false_eq_true, if_false]
    rw [hrun]
    refine ⟨?_, hlater.calm, ?_, ?_⟩
    · rw [hlater.hub, List.append_assoc, flatten_eq]
    · rw [List.flatMap_cons, events_append, hcalls]
      refine (listener.calls_sublist rs _ payload).append (List.Sublist.trans ?_ hlater.all)
      exact List.Sublist.flatMap_right rest fun l _ => l.calls_sublist rs _ payload
    · rw [List.flatMap_cons, events_append, hcalls]
      refine List.Sublist.append ?_ hlater.only
      rw [← flatten_eq amid, ← List.append_assoc]
      exact listener.calls_sublist _ _ payload

/-- A push that is delivered calls the callbacks that were registered before. -/
theorem delivered_amid {rs : List (Registration τ)} {amid : List (List (Registration τ))}
    (h : orderly 0 (rs ++ amid.flatten) = true) (p : Push) :
    Delivered rs amid.flatten (called rs p) (called (rs ++ amid.flatten) p)
      ((hub rs).deliverAmid amid p) := by
  have hbefore := orderly_of_front h (List.prefix_append _ _)
  have hlisteners := of_hub hbefore p.name
  have hrun := delivered_run p.payload (listeners rs p.name) (fun _ => calm_listeners) h
  rw [called_eq, called_eq] at hrun
  have hfinal : Delivered rs amid.flatten (called rs p) (called (rs ++ amid.flatten) p)
      (Hub.runAmid p.payload amid (listeners rs p.name) (hub rs)) :=
    ⟨hrun.hub, hrun.calm, hrun.all, hrun.only.trans (called_sublist rs _ p)⟩
  unfold Hub.deliverAmid
  rw [hlisteners]
  cases hl : listeners rs p.name with
  | nil =>
    rw [hl] at hlisteners hfinal
    have hnone : (hub rs).deliver p =
        ⟨hub rs, [.trace ⟨.error, "No listener for " ++ Text.quoted p.name⟩], false⟩ := by
      simp only [Hub.deliver, hlisteners]
    simp only [hnone]
    exact ⟨hfinal.hub, rfl, hfinal.all, hfinal.only⟩
  | cons listener rest =>
    rw [hl] at hfinal
    exact hfinal

end Registrations

end Callwire.Sample
