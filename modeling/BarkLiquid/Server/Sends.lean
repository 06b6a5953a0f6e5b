import BarkLiquid.Server.StatusOrder
import Mathlib.Algebra.BigOperators.Group.Finset

/-!
# `BarkLiquid.Server.Sends` — one `sendtoaddress` per `initiate_liquid_payment` call

`initiate_liquid_payment` calls the Elements daemon's `sendtoaddress` once, between recording the
payment as `Pending` and recording the answer, and no other code of the server sends. So under any
interleaving of the server's calls, the sidechain's sends for a payment hash are never more than
the initiate calls for that hash that have arrived (`sends_le_initiates`). Nothing tighter holds on
the server's side: two initiate calls for one hash both send.

The proof counts, for a hash `h`, the sends the sidechain recorded plus the calls that may still
send (`ServerSys.owed`). A step of a call moves it from "may send" to "has sent" or to "will not
send" (`resume_count`), and only an arriving initiate call for `h` adds to the count
(`step_count`); the run lemma sums the steps (`run_count`).

## Contents
* `ServerState.sendsFor`, `ServerCall.owesSend`, `ServerSys.owed` — the two counts.
* `ServerSys.Fresh`, `Reachable.fresh` — every call is numbered below `arrived`.
* `resume_count`, `step_count`, `run_count` — the step lemmas and the run lemma.
* `sends_le_initiates` — over every run from startup.
-/

namespace BarkLiquid.Server

open Finset

/-! ## The counts -/

/-- The `sendtoaddress` calls the sidechain recorded for payments under `h`. -/
def ServerState.sendsFor (s : ServerState) (h : PaymentHash) : Nat :=
  s.sidechainSends.countP fun x => x.1.paymentHash == h

/-- **A call that may still send for `h`**: an initiate call for `h` that has not passed its
    `sendtoaddress`. -/
def ServerCall.owesSend (h : PaymentHash) : ServerCall → Bool
  | .initiate _ _ k _ _ => k == h
  | .sending p _ => p.paymentHash == h
  | _ => false

/-- One for a call that may still send for `h`. -/
def owes (h : PaymentHash) : Option ServerCall → Nat
  | some c => if c.owesSend h then 1 else 0
  | none => 0

/-- The calls that may still send for `h`. -/
def ServerSys.owed (sys : ServerSys) (h : PaymentHash) : Nat :=
  ∑ i ∈ range sys.arrived, owes h (sys.calls i)

@[simp] theorem ServerState.sendsFor_store (s : ServerState) (p : LiquidPayment) (h : PaymentHash) :
    (s.store p).sendsFor h = s.sendsFor h := rfl

@[simp] theorem ServerState.sendsFor_recordSend (s : ServerState) (p : LiquidPayment)
    (r : Except String String) (h : PaymentHash) :
    (s.recordSend p r).sendsFor h = s.sendsFor h + if p.paymentHash = h then 1 else 0 := by
  simp [sendsFor, List.countP_append, List.countP_cons]

/-! ## Step lemmas -/

/-- **Step lemma of one call.** A call adds a send for `h` only by giving up its own claim to
    one. -/
theorem resume_count (cfg : ServerConfig) (c : ServerCall) (s : ServerState) (h : PaymentHash) :
    (c.resume cfg s).2.sendsFor h + owes h (some (c.resume cfg s).1) ≤
      s.sendsFor h + owes h (some c) := by
  cases c with
  | initiate a amt k ids reply =>
    by_cases hv : InitiateValid cfg ids
    · simp [ServerCall.resume, ServerCall.block, initiateBegin_of_valid _ hv, owes,
        ServerCall.owesSend]
    · obtain ⟨e, he⟩ := initiateBegin_of_invalid a amt k s hv
      simp [ServerCall.resume, ServerCall.block, he, owes, ServerCall.owesSend]
  | sending p reply =>
    simp only [ServerCall.resume, ServerCall.block, sendtoaddress_apply,
      ServerState.sendsFor_recordSend, owes, ServerCall.owesSend]
    split <;> simp_all
  | recording p sent =>
    cases sent <;> simp [ServerCall.resume, ServerCall.block, owes, ServerCall.owesSend]
  | check k reply =>
    simp only [ServerCall.resume, ServerCall.block, checkBegin_apply]
    cases s.liquidPayments k with
    | none => simp [owes, ServerCall.owesSend]
    | some p => cases hp : checkPaymentStatus cfg k p <;> simp [hp, owes, ServerCall.owesSend]
  | querying k p reply =>
    obtain ⟨r, -, hr | hr⟩ := checkEnd_cases k p reply s <;>
      simp [ServerCall.resume, ServerCall.block, hr, owes, ServerCall.owesSend]
  | returned r => simp [ServerCall.resume]

/-- **Every call is numbered below `arrived`.** -/
def ServerSys.Fresh (sys : ServerSys) : Prop :=
  ∀ i, sys.arrived ≤ i → sys.calls i = none

section System

variable {cfg : ServerConfig} {sys : ServerSys}

theorem ServerSys.Fresh.step (hf : sys.Fresh) (a : ServerAction) : (sys.step cfg a).Fresh := by
  have harrive : ∀ c : ServerCall, (sys.arrive c).Fresh := fun c i hi => by
    simp only [ServerSys.arrive] at hi ⊢
    rw [Function.update_noteq (by omega), hf i (by omega)]
  cases a with
  | initiate => exact harrive _
  | check => exact harrive _
  | resume i =>
    simp only [ServerSys.step]
    cases hc : sys.calls i with
    | none => exact hf
    | some c =>
      intro j hj
      simp only at hj ⊢
      have hij : j ≠ i := fun hji => by subst hji; simp [hf j hj] at hc
      rw [Function.update_noteq hij, hf j hj]

theorem Reachable.fresh (h : Reachable cfg sys) : sys.Fresh := by
  induction h with
  | init => exact fun _ _ => rfl
  | step a _ ih => exact ih.step a

/-- A new call adds its own claim to the count. -/
theorem ServerSys.owed_arrive (c : ServerCall) (h : PaymentHash) :
    (sys.arrive c).owed h = sys.owed h + owes h (some c) := by
  simp only [ServerSys.owed, ServerSys.arrive, sum_range_succ, Function.update_same]
  congr 1
  refine sum_congr rfl fun i hi => ?_
  rw [Function.update_noteq (by simp at hi; omega)]

/-- Replacing call `i` changes the count by the difference of the two calls' claims. -/
theorem ServerSys.owed_update (hf : sys.Fresh) {i : Nat} {c : ServerCall}
    (hc : sys.calls i = some c) (st : ServerState) (c' : ServerCall) (h : PaymentHash) :
    (ServerSys.mk st (Function.update sys.calls i (some c')) sys.arrived).owed h +
        owes h (some c) = sys.owed h + owes h (some c') := by
  have hi : i ∈ range sys.arrived := by
    by_contra hn
    simp [hf i (by simpa using hn)] at hc
  simp only [ServerSys.owed, Function.apply_update (fun _ => owes h), sum_update_of_mem hi]
  rw [sum_eq_add_sum_diff_singleton hi, hc]
  omega

/-- **Step lemma.** An action adds to the sends and the claims for `h` only when it is a new
    initiate call for `h`. -/
theorem step_count (hf : sys.Fresh) (a : ServerAction) (h : PaymentHash) :
    (sys.step cfg a).state.sendsFor h + (sys.step cfg a).owed h ≤
      sys.state.sendsFor h + sys.owed h + if a.initiateHash == some h then 1 else 0 := by
  cases a with
  | initiate a amt k ids r =>
    simp only [ServerSys.step, ServerSys.owed_arrive]
    simp [ServerSys.arrive, ServerAction.initiateHash, owes, ServerCall.owesSend]
    omega
  | check k r =>
    simp only [ServerSys.step, ServerSys.owed_arrive]
    simp [ServerSys.arrive, ServerAction.initiateHash, owes, ServerCall.owesSend]
  | resume i =>
    simp only [ServerSys.step, ServerAction.initiateHash]
    cases hc : sys.calls i with
    | none => simp
    | some c =>
      have hupd := ServerSys.owed_update hf hc (c.resume cfg sys.state).2
        (c.resume cfg sys.state).1 h
      have hres := resume_count cfg c sys.state h
      simp only at hupd ⊢
      omega

/-- **Run lemma.** Along a run, the sends and the claims for `h` grow by at most the initiate calls
    for `h` that arrive. -/
theorem run_count (hf : sys.Fresh) (as : List ServerAction) (h : PaymentHash) :
    (sys.run cfg as).state.sendsFor h + (sys.run cfg as).owed h ≤
      sys.state.sendsFor h + sys.owed h + as.countP (·.initiateHash == some h) := by
  induction as generalizing sys with
  | nil => simp [ServerSys.run]
  | cons a as ih =>
    have := @step_count cfg sys hf a h
    have := ih (@ServerSys.Fresh.step cfg sys hf a)
    simp only [ServerSys.run, List.countP_cons] at *
    omega

end System

/-- **One send per initiate call.** Under every interleaving of the server's calls from startup,
    the sidechain records no more `sendtoaddress` calls for a payment hash than
    `initiate_liquid_payment` calls for that hash have arrived. -/
theorem sends_le_initiates (cfg : ServerConfig) (as : List ServerAction) (h : PaymentHash) :
    (ServerSys.init.run cfg as).state.sendsFor h ≤ as.countP (·.initiateHash == some h) := by
  have hrun := @run_count cfg ServerSys.init (fun _ _ => rfl) as h
  have hinit : ServerSys.init.state.sendsFor h + ServerSys.init.owed h = 0 := by
    simp [ServerSys.owed, ServerSys.init, ServerState.sendsFor, ServerState.init]
  omega

end BarkLiquid.Server
