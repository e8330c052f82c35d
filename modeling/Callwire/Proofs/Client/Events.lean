import Callwire.Proofs.Session.Hearing

/-!
# What listeners see

Frames come to a client one after the other, and a push among them is all that its
listeners learn of. Whatever else the client does calls no listener.
-/

set_option autoImplicit false

namespace Callwire

section
variable {ε α : Type}

def Effect.event? : Effect ε → Option ε
  | .event e => some e
  | .trace _ | .finish _ _ => none

def events (l : List (Effect ε)) : List ε := l.filterMap Effect.event?

@[simp] theorem events_append (l m : List (Effect ε)) : events (l ++ m) = events l ++ events m :=
  List.filterMap_append

theorem events_flatMap (l : List α) {f : α → List (Effect ε)} (h : ∀ x, events (f x) = []) :
    events (l.flatMap f) = [] := by
  induction l with
  | nil => rfl
  | cons x l ih => rw [List.flatMap_cons, events_append, h, ih, List.append_nil]

@[simp] theorem events_reply (caller : Nat) (abandoned : Bool) (r : CallResult) :
    events (reply (ε := ε) caller abandoned r) = [] := by
  unfold reply
  split_ifs <;> rfl

end

def Push.read? (frame : Bytes) : Option Push :=
  match Frame.decode .client frame with
  | .ok (.push p) => some p
  | _ => none

theorem Push.read?_eq_some_iff (frame : Bytes) (p : Push) :
    Push.read? frame = some p ↔ Frame.decode .client frame = .ok (.push p) := by
  unfold Push.read?
  split
  · rename_i q hq
    rw [hq, Option.some.injEq, Except.ok.injEq, Frame.push.injEq]
  · rename_i hother
    simpa using hother p

namespace Calls

variable {ε : Type} (c : Calls)

theorem events_inbound (frame : Bytes) : events (c.inbound (ε := ε) frame).2.1 = [] := by
  by_cases hr : ∃ response, Frame.decode .client frame = .ok (.response response)
  · obtain ⟨response, hr⟩ := hr
    rw [inbound_of_response hr]
    cases hf : c.find? response.requestId.toInt.toNat with
    | none =>
      rw [respond_of_none hf]
      rfl
    | some p =>
      rw [respond_of_some hf, events_append]
      cases result response <;> exact events_reply p.caller p.abandoned _
  · obtain ⟨-, htraces⟩ := inbound_of_other (ε := ε) (fun q hd => hr ⟨q, hd⟩) c
    rw [events, List.filterMap_eq_nil_iff]
    intro e he
    obtain ⟨t, rfl⟩ := htraces e he
    rfl

theorem events_outbound (now : Instant) (call : Call) :
    events (c.outbound (ε := ε) now call).2.2 = [] := by
  unfold outbound
  cases c.nextId with
  | none => exact events_reply _ _ _
  | some id =>
    simp only
    cases Request.encode ⟨call.method, Int32.ofNat id, call.payload⟩ with
    | error e => exact events_reply _ _ _
    | ok frame =>
      simp only
      split_ifs
      · rfl
      · exact events_reply _ _ _

theorem events_expire (t : Instant) : events (c.expire (ε := ε) t).2 = [] :=
  events_flatMap _ fun p => events_reply p.caller p.abandoned _

theorem events_close : events (c.close (ε := ε)).2 = [] :=
  events_flatMap _ fun p => events_reply p.caller p.abandoned _

theorem push_inbound (frame : Bytes) : (c.inbound (ε := ε) frame).2.2 = Push.read? frame := by
  unfold inbound Push.read?
  cases Frame.decode .client frame with
  | error e => rfl
  | ok f => cases f <;> rfl

end Calls

namespace Client

variable {H S ε : Type}

def arrival (t : Terminal S) (l : S) : Action → Option Bytes
  | .receive =>
    match (t.receive l).2 with
    | .message frame => some frame
    | _ => none
  | .enqueue | .take | .sweep | .configure | .close | .leave => none

variable {deliver : H → Push → Delivery H ε} {now : Instant} {c c' : Client H} {l : S}
  {sent : List Bytes} {a : Action} {p : S × List Bytes} {effects : List (Effect ε)}

theorem events_leave (t : Terminal S) (e : TaskEnd) (c : Client H) (l : S) :
    events (c.leave (ε := ε) t e l).2.2 = [] := by
  have hqueue : events (c.queue.flatMap fun q =>
      reply (ε := ε) q.caller q.abandoned (.error .closed)) = [] :=
    events_flatMap _ fun q => events_reply q.caller q.abandoned _
  have hend : events (endTrace (ε := ε) e) = [] := by cases e <;> rfl
  show events ((c.calls.close (ε := ε)).2 ++ _ ++ _) = []
  rw [events_append, events_append, Calls.events_close, hqueue, hend]
  rfl

theorem hears_inbound (deliver : H → Push → Delivery H ε) (c : Client H) (frame : Bytes) :
    match Push.read? frame with
    | some q => (c.inbound deliver frame).1.hub = (deliver c.hub q).hub ∧
        events (c.inbound deliver frame).2 = events (deliver c.hub q).effects
    | none => (c.inbound deliver frame).1.hub = c.hub ∧
        events (c.inbound deliver frame).2 = [] := by
  have hevents := c.calls.events_inbound (ε := ε) frame
  have hpush := c.calls.push_inbound (ε := ε) frame
  unfold inbound
  rcases hi : c.calls.inbound (ε := ε) frame with ⟨calls, es, push⟩
  rw [hi] at hevents hpush
  change push = Push.read? frame at hpush
  rw [← hpush]
  cases push with
  | none => exact ⟨rfl, hevents⟩
  | some q =>
    refine ⟨rfl, ?_⟩
    show events (es ++ _) = _
    rw [events_append, hevents, List.nil_append]

/-- Listeners learn of the push that has arrived, and of nothing else. -/
theorem Change.hears {t : Terminal S}
    (hc : Change t.recording deliver now c (l, sent) a c' p effects) :
    match (arrival t l a).bind Push.read? with
    | some q => c'.hub = (deliver c.hub q).hub ∧ events effects = events (deliver c.hub q).effects
    | none => c'.hub = c.hub ∧ events effects = [] := by
  cases hc with
  | queued hb hphase hlt => exact ⟨rfl, rfl⟩
  | refused hb hphase => exact ⟨rfl, events_reply _ _ _⟩
  | @received _ frame hp hreceive =>
    have harrival : arrival t l .receive = some frame := by
      simp only [arrival, (recording_receive hreceive).1]
    rw [harrival]
    exact hears_inbound deliver c frame
  | exhausted hp hreceive =>
    have harrival : arrival t l .receive = none := by
      simp only [arrival, (recording_receive hreceive).1]
    rw [harrival]
    exact ⟨rfl, rfl⟩
  | broken hp hreceive =>
    have harrival : arrival t l .receive = none := by
      simp only [arrival, (recording_receive hreceive).1]
    rw [harrival]
    exact ⟨rfl, rfl⟩
  | @declined call _ _ _ hp hq ho =>
    have hevents := c.calls.events_outbound (ε := ε) now call
    rw [ho] at hevents
    exact ⟨rfl, hevents⟩
  | @sent call _ _ _ _ _ hp hq ho hs =>
    have hevents := c.calls.events_outbound (ε := ε) now call
    rw [ho] at hevents
    exact ⟨rfl, hevents⟩
  | @unsent call _ _ _ _ _ hp hq ho hs =>
    have hevents := c.calls.events_outbound (ε := ε) now call
    rw [ho] at hevents
    exact ⟨rfl, hevents⟩
  | @panicked call _ _ _ hp hq ho =>
    have hevents := c.calls.events_outbound (ε := ε) now call
    rw [ho] at hevents
    exact ⟨rfl, hevents⟩
  | swept hp hdue => exact ⟨rfl, c.calls.events_expire _⟩
  | configured hp hcfg => exact ⟨rfl, rfl⟩
  | told hp hcl => exact ⟨rfl, rfl⟩
  | @left e hp => exact ⟨rfl, c.events_leave _ e _⟩

theorem Change.running_of_arrival {t : Terminal S}
    (hc : Change t.recording deliver now c (l, sent) a c' p effects)
    (h : (arrival t l a).isSome = true) : c.phase = .running := by
  cases hc with
  | received hp | exhausted hp | broken hp => exact hp
  | queued | refused | declined | sent | unsent | panicked | swept | configured | told | left =>
    cases h

variable {ends : Side → Terminal S} {Carries : Bytes → Prop}

/-- The frame that arrives is the first of those on their way. -/
theorem Change.arrives (fifo : Fifo ends Carries)
    (hc : Change (ends .a).recording deliver now c (l, sent) a c' p effects) {ms : List Bytes}
    (hms : fifo.underway .a l ms) :
    match arrival (ends .a) l a with
    | some frame => ∃ rest, ms = frame :: rest ∧ fifo.underway .a p.1 rest
    | none => c'.phase = .running → fifo.underway .a p.1 ms := by
  cases hc with
  | @received _ frame hp hreceive =>
    obtain ⟨hr, -⟩ := recording_receive hreceive
    have harrival : arrival (ends .a) l .receive = some frame := by
      simp only [arrival, hr]
    rw [harrival]
    exact fifo.received hr hms
  | exhausted hp hreceive =>
    have harrival : arrival (ends .a) l .receive = none := by
      simp only [arrival, (recording_receive hreceive).1]
    rw [harrival]
    exact fun hrun => by cases hrun
  | broken hp hreceive =>
    have harrival : arrival (ends .a) l .receive = none := by
      simp only [arrival, (recording_receive hreceive).1]
    rw [harrival]
    exact fun hrun => by cases hrun
  | sent hp hq ho hs => exact fun _ => fifo.send_keeps (recording_send hs).1 hms
  | queued | refused | declined | unsent | panicked | swept | configured | told =>
    exact fun _ => hms
  | left hp => exact fun hrun => by cases hrun

end Client

end Callwire
