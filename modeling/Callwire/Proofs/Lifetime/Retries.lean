import Callwire.Proofs.Lifetime.Omission
import Callwire.Proofs.Lifetime.Settled
import Callwire.Proofs.Stub.Agreement

/-!
# Calls that can be made again

A call that ends because its name cannot be framed, because its request cannot be encoded or
because the connection is closed already has changed nothing for anyone else.
-/

set_option autoImplicit false

namespace Callwire

namespace Client.Life

variable {S H ε : Type} {u : Setting S H ε} {s : Life S H}

theorem resultsOf_without {k j : Nat} (hj : j ≠ k) :
    (s.without k).resultsOf (closeUp k j) = s.resultsOf j := by
  simp only [resultsOf, without, List.filter_map, List.filter_filter, List.map_map]
  congr 1
  apply List.filter_congr
  intro x _
  by_cases hk : x.caller = k
  · simp [hk, hj.symm]
  · simp [hk, closeUp_inj hk hj]

structure Traceless (k : Nat) (s t : Life S H) : Prop where
  taken : ∀ x ∈ s.taken, x.call.caller ≠ k
  frames : ∀ (i : Nat) (f : Bytes), s.sent[i]? = some f → ∃ x, s.taken[i]? = some x ∧
    Request.encode ⟨x.call.method, Int32.ofNat (i + 1), x.call.payload⟩ = .ok f
  sent : t.sent = s.sent
  link : t.link = s.link
  nextId : t.client.calls.nextId = s.client.calls.nextId
  pending : t.client.calls.pending = s.client.calls.pending.map (·.rename (closeUp k))
  results : ∀ j, j ≠ k → t.resultsOf (closeUp k j) = s.resultsOf j
  all : t = s.without k

/-- A call that is refused was never handed over, so the run without it ends in the same way. -/
theorem traceless_of_refused (now : Instant) (link : S) (hub : H) (timeout : Option Nat)
    (moves : List (Move S H)) {k : Nat} {r : CallResult}
    (hr : r ∈ ((start now link hub timeout).run u moves).resultsOf k) (hrefused : Refused r) :
    Traceless k ((start now link hub timeout).run u moves)
      ((start now link hub timeout).run u ((start now link hub timeout).omitting u k moves)) := by
  have hsound := sound_start (S := S) now link hub timeout
  have hnot : ¬Handed k ((start now link hub timeout).run u moves) := by
    intro hhanded
    obtain ⟨x, hx, hk, rfl⟩ := mem_resultsOf.mp hr
    exact hhanded.results x hx hk hrefused
  obtain ⟨hapart, hrun⟩ := (apart_start k now link hub timeout).run_without hsound hnot
  have hstart : (start now link hub timeout).without k = start (S := S) now link hub timeout := by
    simp [without, start, Client.without, Client.renamed, Client.start, Calls.rename, Calls.fresh]
  rw [hstart] at hrun
  rw [hrun]
  constructor
  case taken => exact hapart.taken
  case frames =>
    intro i f hf
    obtain ⟨call, hcall, hframe⟩ := (hsound.run moves).holds.frames i f hf
    rw [List.getElem?_map, Option.map_eq_some_iff] at hcall
    obtain ⟨x, hx, rfl⟩ := hcall
    exact ⟨x, hx, hframe⟩
  case results => exact fun j hj => resultsOf_without hj
  case sent | link | nextId | pending | all => rfl

end Client.Life

namespace Stub
open Source (Tokens)

variable {σ V E : Type}

def World.bytes (w : World σ V E) (request : Option Ty) (arg : Option V) :
    Except CodecError Bytes :=
  match request, arg with
  | some t, some v => w.encode t v
  | _, _ => .ok []

structure AsksOnce (w : World σ V E) (proxy : Function) (request : Option Ty) (name : String) :
    Prop where
  unencoded : ∀ arg e st, arg.isSome = request.isSome → w.bytes request arg = .error e →
    w.proxy proxy arg st = some (.error (w.ofCodec e), st)
  asked : ∀ arg b answer st st', arg.isSome = request.isSome → w.bytes request arg = .ok b →
    w.ask st name b = (answer, st') → ∃ result, w.proxy proxy arg st = some (result, st') ∧
      ∀ e, answer = .error e → result = .error e

theorem writeIf_of_bytes (w : World σ V E) {request : Option Ty} {arg : Option V}
    (harg : arg.isSome = request.isSome) : w.writeIf (request.bind fun t => arg.map (t, ·)) =
      match w.bytes request arg with
      | .ok b => pure b
      | .error e => throw (w.ofCodec e) := by
  cases request with
  | none => rfl
  | some t =>
    obtain ⟨v, rfl⟩ := Option.isSome_iff_exists.mp harg
    rfl

/-- Reading an answer leaves the state alone. -/
theorem readIf_eq (w : World σ V E) (response : Option Ty) (b : Bytes) (st : σ) :
    ∃ result, w.readIf response b st = some (result, st) := by
  cases response with
  | none => exact ⟨_, rfl⟩
  | some t =>
    cases hd : w.decode t b with
    | ok v =>
      refine ⟨.ok (some (t, v)), ?_⟩
      simp only [World.readIf, World.read, hd]
      rfl
    | error e =>
      refine ⟨.error (w.ofCodec e), ?_⟩
      simp only [World.readIf, World.read, hd]
      rfl

theorem asksOnce_proxyOf (w : World σ V E) (p : MethodParts) :
    AsksOnce w (proxyOf p) p.request p.wireName := by
  constructor
  · intro arg e st harg hbytes
    have hwrite := writeIf_of_bytes w harg
    rw [hbytes] at hwrite
    have hproxy : w.proxy (proxyOf p) arg = _ := proxy_eq harg
    rw [hproxy, World.asking, hwrite]
    rfl
  · intro arg b answer st st' harg hbytes hask
    have hwrite := writeIf_of_bytes w harg
    rw [hbytes] at hwrite
    have hproxy : w.proxy (proxyOf p) arg = _ := proxy_eq harg
    have hrequest : w.request p.wireName b st = some (answer, st') := congrArg some hask
    rw [hproxy, World.asking, hwrite, pure_bind]
    cases answer with
    | error e =>
      refine ⟨.error e, ?_, fun _ h => congrArg Except.error (Except.error.inj h)⟩
      simp only [bind, ExceptT.bind, ExceptT.mk, StateT.bind, hrequest]
      rfl
    | ok b =>
      obtain ⟨result, hresult⟩ := readIf_eq w p.response b st'
      refine ⟨result, ?_, fun _ h => by cases h⟩
      simp only [bind, ExceptT.bind, ExceptT.mk, StateT.bind, hrequest]
      exact hresult

end Stub

open Client Client.Life Stub in
/-- Calls with a name that cannot be framed and calls after the end of a connection are never
handed to it, and a request that cannot be encoded is not even asked for. -/
theorem refused_calls_leave_no_trace {S H ε : Type} (u : Setting S H ε) (now : Instant) (link : S)
    (hub : H) (timeout : Option Nat) (moves : List (Life.Move S H)) (runtime : Source.Tokens)
    (s : Service) :
    (∀ k r, r ∈ ((start now link hub timeout).run u moves).resultsOf k → Refused r →
      Traceless k ((start now link hub timeout).run u moves)
        ((start now link hub timeout).run u ((start now link hub timeout).omitting u k moves))) ∧
    ∀ client, callClient runtime s = .ok client → ∀ (i : Nat) (m : Method),
      s.methods[i]? = some m → ∃ proxy request, (proxies client)[i]? = some proxy ∧
        payloadType runtime m.request = .ok request ∧
        ∀ {σ V E : Type} (w : Stub.World σ V E), AsksOnce w proxy request m.name := by
  constructor
  · intro k r hr hrefused
    exact traceless_of_refused now link hub timeout moves hr hrefused
  · intro client hclient i m hm
    obtain ⟨ps, hps, rfl⟩ := eq_of_callClient hclient
    obtain ⟨p, hp, hparts⟩ := getElem?_of_mapM hps hm
    have hdescribes := describes_of_parts hparts
    refine ⟨proxyOf p, p.request, by simp [proxies_clientItems, hp], hdescribes.request, ?_⟩
    intro σ V E w
    rw [← hdescribes.wireName]
    exact asksOnce_proxyOf w p

section
open Client Client.Life Stub

/-- The second call has no name, and the fourth one comes after the end. -/
def refusedMoves : List (Life.Move Link (Sample.Hub Nat)) :=
  [.call "raw" [1], .act .enqueue, .act .take, .call "" [2], .call "raw" [3], .act .enqueue,
    .act .take, .close, .act .close, .act .leave, .call "raw" [4], .act .enqueue]

def refusedStart : Life Link (Sample.Hub Nat) := start 0 (.memory .fresh) .empty none

def muteWorld : Stub.World Nat Unit String :=
  ⟨fun _ _ => .error (.other "mute"), fun _ _ => .ok (), fun e => e.message,
    fun st _ _ => (.ok (), st), fun st _ b => (.ok b, st + 1)⟩

theorem refused_calls_of_tally :
    (refusedStart.run sampleSetting refusedMoves).resultsOf 1 = [.error (.frame .emptyName)] ∧
      (refusedStart.run sampleSetting refusedMoves).resultsOf 3 = [.error .alreadyClosed] ∧
      refusedStart.omitting sampleSetting 1 refusedMoves =
        [.call "raw" [1], .act .enqueue, .act .take, .call "raw" [3], .act .enqueue,
          .act .take, .close, .act .close, .act .leave, .call "raw" [4], .act .enqueue] ∧
      Traceless 1 (refusedStart.run sampleSetting refusedMoves)
        (refusedStart.run sampleSetting (refusedStart.omitting sampleSetting 1 refusedMoves)) ∧
      Traceless 3 (refusedStart.run sampleSetting refusedMoves)
        (refusedStart.run sampleSetting (refusedStart.omitting sampleSetting 3 refusedMoves)) ∧
      ∃ client proxy, callClient [.name "wsrpc"] tally = .ok client ∧
        (proxies client)[0]? = some proxy ∧
        muteWorld.proxy proxy (some ()) 0 = some (.error "mute", 0) := by
  obtain ⟨client, hclient⟩ := exists_of_isOk
    (by decide +kernel : (callClient [.name "wsrpc"] tally).isOk = true)
  obtain ⟨hcalls, htyped⟩ := refused_calls_leave_no_trace sampleSetting 0 (.memory .fresh) .empty
    none refusedMoves [.name "wsrpc"] tally
  have hfirst : (refusedStart.run sampleSetting refusedMoves).resultsOf 1 =
      [.error (.frame .emptyName)] := rfl
  have hlast : (refusedStart.run sampleSetting refusedMoves).resultsOf 3 =
      [.error .alreadyClosed] := rfl
  obtain ⟨proxy, request, hproxy, hrequest, hasks⟩ := htyped client hclient 0 _ rfl
  have hsome : (payloadType [.name "wsrpc"] (.named "Step")).toOption.map Option.isSome =
      some true := by decide +kernel
  rw [hrequest] at hsome
  obtain ⟨t, rfl⟩ := Option.isSome_iff_exists.mp (Option.some.inj hsome)
  refine ⟨hfirst, hlast, rfl, ?_, ?_, client, proxy, hclient, hproxy, ?_⟩
  · exact hcalls 1 _ (by rw [← refusedStart, hfirst]; exact List.mem_singleton_self _)
      (.inr ⟨_, rfl⟩)
  · exact hcalls 3 _ (by rw [← refusedStart, hlast]; exact List.mem_singleton_self _) (.inl rfl)
  · exact (hasks muteWorld).unencoded (some ()) _ 0 rfl rfl

end

end Callwire
