import Callwire.Proofs.Session.Hearing
import Callwire.Proofs.Frame.Sides

/-!
# Matching responses with requests

The request of the call taken as number `i` is dispatched as number `i`, and its
response carries the same number. So what a client makes of a response is the
outcome of the very request that the caller asked for.
-/

set_option autoImplicit false

namespace Callwire

def reported : Except ServiceError Bytes → CallResult
  | .ok b => .ok b
  | .error e => .error (.remote e.message)

namespace Response

def Writable (x : Except ServiceError Bytes) : Prop :=
  ∀ e, x = .error e → (Bytes.ofString e.message).length < UInt64.size

section
variable {n : Nat} (h0 : 0 < n) (hn : n ≤ Frame.maxId)
include h0 hn

theorem to_id (x : Except ServiceError Bytes) :
    (Response.to (Int32.ofNat n) x).id.toInt = n ∨
      (Response.to (Int32.ofNat n) x).id.toInt = -n := by
  have hid := Calls.number_toInt hn
  cases x with
  | ok b => exact Or.inl hid
  | error e =>
    right
    show (-Int32.ofNat n).toInt = -n
    rw [Frame.toInt_neg_of_pos (by omega), hid]

theorem to_requestId (x : Except ServiceError Bytes) :
    (Response.to (Int32.ofNat n) x).requestId.toInt.toNat = n :=
  (requestId_eq_iff _ h0 hn).mpr (to_id h0 hn x)

theorem decode_to (x : Except ServiceError Bytes) :
    Frame.decode .client (Response.to (Int32.ofNat n) x).encode =
      .ok (.response (Response.to (Int32.ofNat n) x)) := by
  have hmax : Frame.maxId = 16777215 := rfl
  have hid := to_id h0 hn x
  exact Frame.client_response (by omega)

theorem result_to {x : Except ServiceError Bytes} (hx : Writable x) :
    Calls.result (Response.to (Int32.ofNat n) x) = reported x := by
  have hid := Calls.number_toInt hn
  cases x with
  | ok b => exact Calls.result_of_id h0 hid
  | error e =>
    have hneg : (Response.to (Int32.ofNat n) (.error e)).id.toInt = -n := by
      show (-Int32.ofNat n).toInt = -n
      rw [Frame.toInt_neg_of_pos (by omega), hid]
    rw [Calls.result_of_neg hneg, show (Response.to (Int32.ofNat n) (.error e)).payload =
      Failure.bytes ⟨e.message⟩ from rfl, Calls.verdict_bytes (hx e rfl)]
    rfl

end

end Response

section
variable {M : Type} {table : MethodTable M} {taken : List Call}
  {dispatched : List (Dispatched M)}

def Answers (dispatched : List (Dispatched M)) (g : Bytes) : Prop :=
  (∃ push : Push, push.encode = .ok g) ∨
    ∃ (i : Nat) (d : Dispatched M) (x : Execution M), dispatched[i]? = some d ∧
      d.executions = [x] ∧ g = (Response.to (Int32.ofNat (i + 1)) x.result).encode

def Executed (table : MethodTable M) (call : Call) (d : Dispatched M) : Prop :=
  (table.get? call.method = none ∧ d.executions = []) ∨
    ∃ m result, table.get? call.method = some m ∧ d.executions = [⟨m, call.payload, result⟩]

def Matched (table : MethodTable M) (taken : List Call) (dispatched : List (Dispatched M))
    (caller : Nat) (r : CallResult) : Prop :=
  ∃ (i : Nat) (call : Call) (d : Dispatched M) (m : M) (result : Except ServiceError Bytes),
    taken[i]? = some call ∧ call.caller = caller ∧ dispatched[i]? = some d ∧
    table.get? call.method = some m ∧ d.executions = [⟨m, call.payload, result⟩] ∧
    r = reported result

theorem Answers.append {g : Bytes} (h : Answers dispatched g) (more : List (Dispatched M)) :
    Answers (dispatched ++ more) g := by
  rcases h with h | ⟨i, d, x, hd, hx, hg⟩
  · exact Or.inl h
  · exact Or.inr ⟨i, d, x, Calls.getElem?_of_append hd _, hx, hg⟩

theorem Matched.append {caller : Nat} {r : CallResult} (h : Matched table taken dispatched caller r)
    (calls : List Call) (more : List (Dispatched M)) :
    Matched table (taken ++ calls) (dispatched ++ more) caller r := by
  obtain ⟨i, call, d, m, result, hcall, hcaller, hd, hrest⟩ := h
  exact ⟨i, call, d, m, result, Calls.getElem?_of_append hcall _, hcaller,
    Calls.getElem?_of_append hd _, hrest⟩

/-- A response that completes a pending call matches it. -/
theorem matched_of_completes {calls : Calls} (hnum : calls.Numbered taken)
    (hlen : dispatched.length ≤ Frame.maxId)
    (hexec : ∀ (i : Nat) (d : Dispatched M), dispatched[i]? = some d →
      ∃ call, taken[i]? = some call ∧ Executed table call d)
    (hshort : ∀ d ∈ dispatched, ∀ x ∈ d.executions, Response.Writable x.result)
    {g : Bytes} (hg : Answers dispatched g) {caller : Nat} {r : CallResult}
    (hc : calls.Completes g caller r) : Matched table taken dispatched caller r := by
  obtain ⟨response, p, hdecode, hfind, rfl, rfl⟩ := hc
  rcases hg with ⟨push, hpush⟩ | ⟨i, d, x, hd, hx, rfl⟩
  · -- a push is never read as a response
    rw [Frame.client_of_push hpush] at hdecode
    cases hdecode
  · obtain ⟨hlt, -⟩ := List.getElem?_eq_some_iff.mp hd
    have h0 : 0 < i + 1 := Nat.succ_pos i
    have hn : i + 1 ≤ Frame.maxId := by omega
    rw [Response.decode_to h0 hn, Except.ok.injEq, Frame.response.injEq] at hdecode
    subst hdecode
    rw [Response.to_requestId h0 hn] at hfind
    have hid : p.id = i + 1 := by simpa using List.find?_some hfind
    obtain ⟨-, -, call, hcall, hcaller⟩ := hnum.pending p (List.mem_of_find?_eq_some hfind)
    rw [hid, Nat.add_sub_cancel] at hcall
    obtain ⟨call', hcall', hexecuted⟩ := hexec i d hd
    rw [hcall, Option.some.injEq] at hcall'
    subst hcall'
    have hmem : x ∈ d.executions := by rw [hx]; exact List.mem_singleton_self x
    have hresult := Response.result_to h0 hn (hshort d (List.mem_of_getElem? hd) x hmem)
    rcases hexecuted with ⟨-, hnone⟩ | ⟨m, result, hm, hone⟩
    · rw [hnone] at hx
      cases hx
    · rw [hone, List.cons.injEq] at hx
      obtain ⟨rfl, -⟩ := hx
      exact ⟨i, call, d, m, result, hcall, hcaller, hd, hm, hone, hresult⟩

end

end Callwire
