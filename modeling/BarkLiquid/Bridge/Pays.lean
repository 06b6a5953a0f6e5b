import BarkLiquid.Server.Sends
import BarkLiquid.Wallet.Concurrent

/-!
# `BarkLiquid.Bridge.Pays` — concurrent payments under one hash, through the server to Liquid

The wallet and the server are two processes joined by the network. `pay_liquid_address` sends
its `InitiateLiquidPaymentRequest` as its last message; the RPC handler (not among the sources)
starts `initiate_liquid_payment` with the request's fields, and that call may send on Liquid. Here
the wallet runs several `pay_liquid_address` calls for one hash, interleaved at their awaits
(`Wallet.Concurrent`), the network delivers their initiate requests in order, and the server
interleaves its calls (`Server.Run`), with calls of other clients arriving too.

Neither side alone bounds the sends for a hash: the server sends once per initiate call, however
many arrive for one hash (`Server.Sends`), and the wallet's duplicate check does not stop a second
concurrent call (`Wallet.Concurrent`). What bounds them is the table's `UNIQUE` constraint, which
lets one call at most insert the row and send the request. So in every interleaving of the
wallet's calls, the deliveries and the server's calls, the sends for the hash grow by at most one
beyond the initiate calls other clients make for it and those in flight at the start
(`concurrent_pays_send_once`).

The wallet's calls see the server's answers through their worlds, which are arbitrary; the system
therefore contains every behaviour of the real one, and the bound holds of it.

## Contents
* `PayNet`, `PayNetAction`, `PayNet.step`, `PayNet.run` — the joined system.
* `PayNet.Inv`, `PayNet.Inv.step`, `PayNet.Inv.run` — the invariant, its step and run lemmas.
* `concurrent_pays_send_once` — the bound.
-/

namespace BarkLiquid.Bridge

open Wallet Server

/-- **The wallet's calls for one hash, the network and the server.** `delivered` counts the
    wallet's initiate requests that have reached the server. -/
structure PayNet where
  pays : PaySys
  server : ServerSys
  delivered : Nat

/-- The server call a delivered initiate request starts: the handler passes the request's fields
    to `initiate_liquid_payment`, and the daemon will answer its `sendtoaddress` with `reply`. -/
def initiateCall (req : InitiateLiquidPaymentRequest) (reply : Except String String) :
    ServerAction :=
  .initiate req.liquidAddress req.amountSat req.paymentHash req.htlcVtxoIds reply

@[simp] theorem initiateCall_initiateHash (req : InitiateLiquidPaymentRequest)
    (reply : Except String String) : (initiateCall req reply).initiateHash = some req.paymentHash :=
  rfl

/-- What can happen next. -/
inductive PayNetAction where
  /-- The wallet's executor resumes call `i`. -/
  | wallet (i : Nat)
  /-- The oldest undelivered initiate request reaches the server. -/
  | deliver (reply : Except String String)
  /-- The server resumes a call, or a call of another client arrives. -/
  | server (a : ServerAction)

/-- **The transition function.** Delivering with nothing to deliver does nothing. -/
def PayNet.step (cfg : ServerConfig) (net : PayNet) : PayNetAction → PayNet
  | .wallet i => { net with pays := net.pays.step i }
  | .deliver reply =>
    match net.pays.wallet.initiates[net.delivered]? with
    | some req =>
      { net with server := net.server.step cfg (initiateCall req reply),
                 delivered := net.delivered + 1 }
    | none => net
  | .server a => { net with server := net.server.step cfg a }

/-- A schedule, one action after another. -/
def PayNet.run (cfg : ServerConfig) (net : PayNet) (schedule : List PayNetAction) : PayNet :=
  schedule.foldl (PayNet.step cfg) net

/-- `pay_liquid_address` for hash `h` started on `w` once per world, address and amount, against
    the server `sys`; the requests `w` sent before were delivered. -/
def PayNet.start (w : WalletState) (h : PaymentHash) (pays : List (WalletEnv × String × Amount))
    (sys : ServerSys) : PayNet :=
  ⟨PaySys.start w h pays, sys, w.initiates.length⟩

/-- An initiate call for `h` of another client. -/
def PayNetAction.foreignInitiate (h : PaymentHash) : PayNetAction → Bool
  | .server a => a.initiateHash == some h
  | _ => false

/-! ## The invariant -/

/-- The initiate requests for `h` the wallet sent since `w`. -/
def newInitiates (w s : WalletState) (h : PaymentHash) : Nat :=
  (s.initiates.drop w.initiates.length).countP (·.paymentHash == h)

/-- The wallet's initiate requests for `h` not yet delivered. -/
def PayNet.undelivered (net : PayNet) (h : PaymentHash) : Nat :=
  (net.pays.wallet.initiates.drop net.delivered).countP (·.paymentHash == h)

/-- **The invariant of the joined system.** The sends for `h`, the server's calls that may still
    send for `h` and the requests for `h` on the way are no more than the wallet's new requests for
    `h` and `bound`. -/
structure PayNet.Inv (h : PaymentHash) (w : WalletState) (bound : Nat) (net : PayNet) : Prop where
  pays : net.pays.Inv h w
  fresh : net.server.Fresh
  delivered_ge : w.initiates.length ≤ net.delivered
  delivered_le : net.delivered ≤ net.pays.wallet.initiates.length
  count : net.server.state.sendsFor h + net.server.owed h + net.undelivered h ≤
    newInitiates w net.pays.wallet h + bound

section Inv

variable {cfg : ServerConfig} {h : PaymentHash} {w : WalletState} {bound : Nat} {net : PayNet}

/-- Counting the requests for `h` past position `k` after one request for `h` was appended. -/
theorem countP_drop_append {reqs : List InitiateLiquidPaymentRequest} {k : Nat}
    (hk : k ≤ reqs.length) {req : InitiateLiquidPaymentRequest} (hreq : req.paymentHash = h) :
    ((reqs ++ [req]).drop k).countP (·.paymentHash == h) =
      (reqs.drop k).countP (·.paymentHash == h) + 1 := by
  simp [List.drop_append_of_le_length hk, hreq]

theorem PayNet.Inv.wallet (hi : net.Inv h w bound) (i : Nat) :
    (net.step cfg (.wallet i)).Inv h w bound := by
  obtain ⟨hpays, hfresh, hge, hle, hcount⟩ := hi
  refine ⟨PaySys.inv_step hpays i, hfresh, hge, ?_, ?_⟩ <;>
    rcases PaySys.step_recorded hpays i with hr | hr <;>
    simp only [PayNet.step, PayNet.undelivered, newInitiates] at hcount ⊢
  · rw [show (net.pays.step i).wallet.initiates = _ from congrArg Prod.snd hr]
    exact hle
  · obtain ⟨req, -, hreq⟩ := hr.initiates
    rw [hreq, List.length_append]
    omega
  · rw [show (net.pays.step i).wallet.initiates = _ from congrArg Prod.snd hr]
    exact hcount
  · obtain ⟨req, hh, hreq⟩ := hr.initiates
    rw [hreq, countP_drop_append hle hh, countP_drop_append (hge.trans hle) hh]
    omega

theorem PayNet.Inv.deliver (hi : net.Inv h w bound) (reply : Except String String) :
    (net.step cfg (.deliver reply)).Inv h w bound := by
  simp only [PayNet.step]
  cases hreq : net.pays.wallet.initiates[net.delivered]? with
  | none => exact hi
  | some req =>
    obtain ⟨hpays, hfresh, hge, hle, hcount⟩ := hi
    have hlt : net.delivered < net.pays.wallet.initiates.length :=
      (List.getElem?_eq_some_iff.mp hreq).1
    have hdrop : net.pays.wallet.initiates.drop net.delivered =
        req :: net.pays.wallet.initiates.drop (net.delivered + 1) := by
      rw [List.drop_eq_getElem_cons hlt, (List.getElem?_eq_some_iff.mp hreq).2]
    have hstep := @step_count cfg _ hfresh (initiateCall req reply) h
    refine ⟨hpays, hfresh.step _, by simp only; omega, hlt, ?_⟩
    simp only [PayNet.undelivered, hdrop, List.countP_cons] at hcount ⊢
    rw [initiateCall_initiateHash] at hstep
    by_cases hh : req.paymentHash = h <;> simp [hh] at hstep hcount ⊢ <;> omega

theorem PayNet.Inv.server (hi : net.Inv h w bound) (a : ServerAction) :
    (net.step cfg (.server a)).Inv h w (bound + if a.initiateHash == some h then 1 else 0) := by
  obtain ⟨hpays, hfresh, hge, hle, hcount⟩ := hi
  have hstep := @step_count cfg _ hfresh a h
  refine ⟨hpays, hfresh.step a, hge, hle, ?_⟩
  simp only [PayNet.step, PayNet.undelivered, newInitiates] at hcount ⊢
  omega

/-- **Step lemma.** Every action keeps the invariant; another client's initiate call for `h` adds
    one to the bound. -/
theorem PayNet.Inv.step (hi : net.Inv h w bound) (a : PayNetAction) :
    (net.step cfg a).Inv h w (bound + if a.foreignInitiate h then 1 else 0) := by
  cases a with
  | wallet i => simpa [PayNetAction.foreignInitiate] using hi.wallet i
  | deliver reply => simpa [PayNetAction.foreignInitiate] using hi.deliver reply
  | server a => exact hi.server a

/-- **Run lemma.** -/
theorem PayNet.Inv.run (hi : net.Inv h w bound) (schedule : List PayNetAction) :
    (net.run cfg schedule).Inv h w (bound + schedule.countP (·.foreignInitiate h)) := by
  induction schedule generalizing net bound with
  | nil => simpa [PayNet.run] using hi
  | cons a as ih =>
    simp only [PayNet.run, List.foldl_cons, List.countP_cons] at ih ⊢
    rw [← Nat.add_assoc, Nat.add_right_comm]
    exact ih (hi.step a)

end Inv

/-- The wallet sends at most one initiate request for `h` in a batch of calls for `h`. -/
theorem newInitiates_le_one {h : PaymentHash} {w : WalletState} {sys : PaySys}
    (hinv : sys.Inv h w) : newInitiates w sys.wallet h ≤ 1 := by
  rcases hinv.initiates with hr | ⟨req, -, hr⟩
  · simp [newInitiates, hr]
  · simp only [newInitiates, hr, List.drop_left]
    exact List.countP_le_length _

/-- **One payment, at most one Liquid send.** Start any number of `pay_liquid_address` calls for
    hash `h` on a wallet `w`, each in its own world, against any reachable server, and let the
    wallet's executor, the network and the server interleave in any order, with calls of other
    clients arriving. The sidechain's sends for `h` grow by at most one, beyond one per initiate
    call for `h` that was in flight at the start or that another client made. -/
theorem concurrent_pays_send_once {cfg : ServerConfig} {sys : ServerSys} (hsys : Reachable cfg sys)
    (w : WalletState) (h : PaymentHash) (pays : List (WalletEnv × String × Amount))
    (schedule : List PayNetAction) :
    ((PayNet.start w h pays sys).run cfg schedule).server.state.sendsFor h ≤
      sys.state.sendsFor h + sys.owed h + 1 + schedule.countP (·.foreignInitiate h) := by
  have hstart : (PayNet.start w h pays sys).Inv h w (sys.state.sendsFor h + sys.owed h) :=
    ⟨PaySys.inv_start pays, hsys.fresh, le_rfl, le_rfl,
      by simp only [PayNet.start, PayNet.undelivered, newInitiates]; omega⟩
  have hend := @PayNet.Inv.run cfg h w _ _ hstart schedule
  have hone := newInitiates_le_one hend.pays
  have := hend.count
  omega

/-- Two pays for hash 7 on `demoWallet`, interleaved segment by segment, the requests delivered,
    and the server's first call run to its end. -/
def twoPaysSchedule : List PayNetAction :=
  [.wallet 0, .wallet 1, .wallet 0, .wallet 1, .wallet 0, .wallet 1, .wallet 0, .wallet 1,
   .wallet 0, .wallet 1, .wallet 0, .wallet 1, .wallet 0, .wallet 1, .wallet 0, .wallet 1,
   .deliver (.ok "tx"), .deliver (.ok "tx"), .server (.resume 0), .server (.resume 0),
   .server (.resume 0)]

theorem two_pays_send_once :
    ((PayNet.start demoWallet 7 [(demoEnv, "addr", 40000), (demoEnv, "addr", 40000)]
        ServerSys.init).run demoConfig twoPaysSchedule).server.state.sendsFor 7 ≤
      ServerSys.init.state.sendsFor 7 + ServerSys.init.owed 7 + 1 +
        twoPaysSchedule.countP (·.foreignInitiate 7) :=
  concurrent_pays_send_once .init demoWallet 7 _ twoPaysSchedule

end BarkLiquid.Bridge
