import BarkLiquid.Bridge.Pays
import BarkLiquid.Server.Backed
import BarkLiquid.Wallet.Lifecycle

/-!
# `BarkLiquid.Bridge.Agreement` — the wallet's reconciliation against the server's tracker

The wallet settles a Liquid payment on what the server says: `check_liquid_payment` asks the
server's `check_liquid_payment` for the status under the HTLC policy's hash, finishes its row on
`Complete`, and revokes the HTLC VTXOs (removing the row) on `Failed` or on `Pending` past the
HTLC expiry. This module joins the two sides so that the answer the wallet acts on is the one the
server computes from its tracker.

`WalletServer` is a wallet and a server. A wallet call runs with its server RPCs answered by the
server in the state it is in (`servedEnv`), and the server then serves, in order, the initiate and
check requests the call sent, each as a call that arrives and runs alone (`serve`): by
`check_alone` its answer is the one the wallet got (`serve_check`). Between wallet calls the server
runs anything: other clients' calls, and resumptions of calls in flight.

Over every reachable `WalletServer`:

* `check_completes_on_confirmed` — a check that finishes its row leaves the server's entry under
  the queried hash `Confirmed`;
* `check_completes_after_send` — and that entry, now `Confirmed`, carries the txid of a
  `sendtoaddress` for the queried hash that had succeeded before the check;
* `check_revokes_on_failure` — a check that removes its row found the server's entry under the
  queried hash `Failed`, the record of a `sendtoaddress` that failed, or `Pending`/`Sent` with the
  tip past the HTLC expiry.

From every `WalletServer`:

* `check_finishes_confirmed` — conversely, with no fault, a check finishes a row whose queried
  entry is `Confirmed`, or `Sent` and confirmed by the daemon;
* `check_revokes_failed` — and, when the revocation's round succeeds and no write fails, a check
  removes a row whose queried entry is `Failed`;
* `pay_step_forwards` — a pay changes neither the wallet's rows nor the server, or the server runs
  `initiate_liquid_payment` on the address, amount and hash of the row it stored and the HTLC
  outputs built from its cosign reply;
* `pay_step_records` — conversely, a pay that nothing stops, whose HTLC outputs the server holds,
  makes all of its writes, and the server records the payment under its hash, `Sent` with the
  daemon's txid or `Failed`.

The queried hash is the one of the stored HTLC VTXOs' policy, which the wallet never compares with
the hash of its row.
-/

namespace BarkLiquid.Bridge

open Wallet Server

/-! ## The wallet served by the server -/

/-- The Elements daemon's answers during one wallet call: to `sendtoaddress`, if the server's
    initiate call gets that far, and to `gettransaction`, if its check call does. -/
structure Daemon where
  sendtoaddress : Except String String
  gettransaction : Except String (Option Nat)

/-- **The wallet's world with the server's tracker RPCs answered by the server**, in the state
    `st` it is in when the call is made. The handlers pass the requests' fields to
    `initiate_liquid_payment` and `check_liquid_payment`; the rest of the world is `env`'s. -/
def servedEnv (env : WalletEnv) (cfg : ServerConfig) (st : ServerState) (d : Daemon) : WalletEnv :=
  { env with
    initiateLiquidPayment := fun req =>
      resultValue (Server.initiateLiquidPayment cfg d.sendtoaddress req.liquidAddress req.amountSat
        req.paymentHash req.htlcVtxoIds st)
    checkLiquidPayment := fun req =>
      resultValue (Server.checkLiquidPayment cfg d.gettransaction req.hash st) }

/-- A wallet call in its world served by the server. -/
def servedCall (cfg : ServerConfig) (st : ServerState) (d : Daemon) : WalletCall → WalletCall
  | .pay env liquidAddress amount paymentHash => .pay (servedEnv env cfg st d) liquidAddress amount
      paymentHash
  | .check env paymentHash => .check (servedEnv env cfg st d) paymentHash

/-- **The server serves one request**: the call arrives and runs alone to its answer. -/
def serve (cfg : ServerConfig) (d : Daemon) (sys : ServerSys) : ServerRequest → ServerSys
  | .initiate req => sys.run cfg [initiateCall req d.sendtoaddress, .resume sys.arrived,
      .resume sys.arrived, .resume sys.arrived]
  | .check req => sys.run cfg [.check req.hash d.gettransaction, .resume sys.arrived,
      .resume sys.arrived]
  | _ => sys

/-- **A wallet and the server it talks to.** -/
structure WalletServer where
  wallet : WalletState
  server : ServerSys

/-- What can happen next: a wallet call, answered by the server, or a step of the server. -/
inductive WalletServerAction where
  | wallet (c : WalletCall) (d : Daemon)
  | server (a : ServerAction)

/-- **The transition function.** A wallet call runs in its world served by the server; the server
    then serves the tracker requests the call sent. `none` is a check the wallet does not make. -/
def WalletServer.step (cfg : ServerConfig) (b : WalletServer) :
    WalletServerAction → Option WalletServer
  | .wallet c d => ((servedCall cfg b.server.state d c).run b.wallet).map fun s =>
      ⟨s, (s.trackerRequests.drop b.wallet.trackerRequests.length).foldl (serve cfg d) b.server⟩
  | .server a => some ⟨b.wallet, b.server.step cfg a⟩

/-- The states some run reaches from any wallet and a server at startup. -/
inductive WalletServer.Reachable (cfg : ServerConfig) : WalletServer → Prop
  | init (w : WalletState) : WalletServer.Reachable cfg ⟨w, ServerSys.init⟩
  | step {b b' : WalletServer} (a : WalletServerAction) : WalletServer.Reachable cfg b →
      b.step cfg a = some b' → WalletServer.Reachable cfg b'

/-- A run of actions, while the wallet makes each of its calls. -/
def WalletServer.run (cfg : ServerConfig) : WalletServer → List WalletServerAction →
    Option WalletServer
  | b, [] => some b
  | b, a :: as => (b.step cfg a).bind fun b' => WalletServer.run cfg b' as

theorem WalletServer.Reachable.run {cfg : ServerConfig} {b b' : WalletServer}
    (hb : b.Reachable cfg) (as : List WalletServerAction) (h : b.run cfg as = some b') :
    b'.Reachable cfg := by
  induction as generalizing b with
  | nil => cases h; exact hb
  | cons a as ih =>
    simp only [WalletServer.run, Option.bind_eq_some] at h
    obtain ⟨b₁, h₁, h⟩ := h
    exact ih (hb.step a h₁) h

/-! ## The server's side -/

section Serve

variable {cfg : ServerConfig} {sys : ServerSys}

/-- Serving keeps the server reachable: it is a run of the server. -/
theorem serve_reachable (hsys : Server.Reachable cfg sys) (d : Daemon) (r : ServerRequest) :
    Server.Reachable cfg (serve cfg d sys r) := by
  cases r <;> first | exact hsys.run _ | exact hsys

theorem serveAll_reachable (hsys : Server.Reachable cfg sys) (d : Daemon)
    (rs : List ServerRequest) : Server.Reachable cfg (rs.foldl (serve cfg d) sys) := by
  induction rs generalizing sys with
  | nil => exact hsys
  | cons r rs ih => exact ih (serve_reachable hsys d r)

/-- **The server's side of every reachable state is a reachable server.** -/
theorem WalletServer.Reachable.server {b : WalletServer} (hb : b.Reachable cfg) :
    Server.Reachable cfg b.server := by
  induction hb with
  | init => exact .init
  | step a _ hstep ih =>
    cases a with
    | wallet c d =>
      simp only [WalletServer.step, Option.map_eq_some'] at hstep
      obtain ⟨s, -, rfl⟩ := hstep
      exact serveAll_reachable ih d _
    | server a =>
      cases hstep
      exact ih.step a

/-- **A served check answers what the wallet was told.** The call for the wallet's request
    returns the sequential `check_liquid_payment` of the state the server was in, and leaves the
    server in its final state. -/
theorem serve_check (d : Daemon) (req : CheckLiquidPaymentRequest) :
    (serve cfg d sys (.check req)).state =
      resultState (Server.checkLiquidPayment cfg d.gettransaction req.hash sys.state) ∧
    (serve cfg d sys (.check req)).calls sys.arrived =
      some (.returned (resultValue (Server.checkLiquidPayment cfg d.gettransaction req.hash
        sys.state))) := by
  have halone := check_alone cfg req.hash d.gettransaction sys.state
  simp only at halone
  simp only [serve, ServerSys.run, ServerSys.step, ServerSys.arrive, Function.update_same,
    halone, and_self]

/-- **Serving an initiate request** runs `initiate_liquid_payment` alone on the request's fields. -/
theorem serve_initiate (d : Daemon) (req : InitiateLiquidPaymentRequest) :
    (serve cfg d sys (.initiate req)).state =
      resultState (Server.initiateLiquidPayment cfg d.sendtoaddress req.liquidAddress req.amountSat
        req.paymentHash req.htlcVtxoIds sys.state) := by
  have halone := initiate_alone cfg req.liquidAddress req.amountSat req.paymentHash
    req.htlcVtxoIds d.sendtoaddress sys.state
  simp only at halone
  simp only [serve, initiateCall, ServerSys.run, ServerSys.step, ServerSys.arrive,
    Function.update_same, halone]

end Serve

/-! ## The wallet's side -/

section Wallet

variable {env : WalletEnv}

/-- **What a check that changed its row did.** It got the server's status under the hash of the
    first HTLC VTXO's policy and sent that one tracker request; it finished the row only on
    `Complete`, and removed it only on `Failed` or on `Pending` past the HTLC expiry. -/
theorem checkLiquidPayment_changed {payment : LiquidSend} {s : WalletState}
    (hch : (resultState (checkLiquidPayment env payment s)).db.liquidSends ≠ s.db.liquidSends) :
    ∃ reply s₁, checkStatus env payment s = .ok reply s₁ ∧
      (resultState (checkLiquidPayment env payment s)).trackerRequests =
        s.trackerRequests ++ [.check ⟨reply.policy.paymentHash, false⟩] ∧
      ((reply.status = .complete ∧
          (resultState (checkLiquidPayment env payment s)).db.liquidSends =
            finishRow s.db.liquidSends payment.paymentHash) ∨
        ((reply.status = .failed ∨ (reply.status = .pending ∧ reply.tip > reply.policy.htlcExpiry)) ∧
          (resultState (checkLiquidPayment env payment s)).db.liquidSends =
            Function.update s.db.liquidSends payment.paymentHash none)) := by
  have hkeep : (resultState (checkStatus env payment s)).db = s.db := checkStatus_keeps env payment s
  rw [Wallet.checkLiquidPayment, bind_apply] at hch ⊢
  cases h : checkStatus env payment s with
  | error e s₁ =>
    rw [h, resultState_error] at hkeep
    simp only [h, resultState_error, hkeep] at hch
    exact absurd rfl hch
  | ok reply s₁ =>
    obtain ⟨rfl, -⟩ := checkStatus_ok env h
    simp only [h, resultState_bind_pure] at hch ⊢
    refine ⟨reply, _, rfl, ?_, ?_⟩
    · rw [applyPaymentStatus_keeps_tracker env payment reply _]
      simp [WalletState.trackerRequests, List.filter_append, ServerRequest.tracked]
    · rcases (applyPaymentStatus_rows env payment reply _).resolve_left hch with hc |
        ⟨hr, vtxos, effective, s₂, -, hdb⟩
      · exact .inl hc
      · exact .inr ⟨hr, by rw [hdb]; exact (revocationWrites_settle _ _ _ _).2.1⟩

end Wallet

/-! ## Agreement -/

section Agreement

variable {cfg : ServerConfig} {b b' : WalletServer} {env : WalletEnv} {h : PaymentHash} {d : Daemon}

/-- **Spec of a check step**: the check ran, in its world served by the server, on the unfinished
    row stored under its hash; the server then served the tracker requests it sent. -/
theorem check_step_run (hstep : b.step cfg (.wallet (.check env h) d) = some b') :
    ∃ row, b.wallet.db.liquidSends h = some row ∧ row.finished = false ∧
      b'.wallet = resultState (Wallet.checkLiquidPayment (servedEnv env cfg b.server.state d)
        (b.wallet.loadLiquidSend h row) b.wallet) ∧
      b'.server = (b'.wallet.trackerRequests.drop b.wallet.trackerRequests.length).foldl
        (serve cfg d) b.server := by
  simp only [WalletServer.step, servedCall, WalletCall.run, Option.map_eq_some'] at hstep
  obtain ⟨s', hrun, rfl⟩ := hstep
  cases hrow : b.wallet.db.liquidSends h with
  | none => simp [hrow] at hrun
  | some row =>
    simp only [hrow] at hrun
    split_ifs at hrun with hfin
    cases hrun
    exact ⟨row, rfl, by simpa using hfin, rfl, rfl⟩

/-- **Step lemma of a check that changes its row.** The check ran on the unfinished row stored
    under its hash; its status query returned, and the server served the one tracker request it
    sent, under the hash of the first HTLC VTXO's policy. It finished the row on `Complete`, and
    removed it on `Failed` or on `Pending` past the HTLC expiry. -/
theorem check_step_changed (hstep : b.step cfg (.wallet (.check env h) d) = some b')
    (hch : b'.wallet.db.liquidSends h ≠ b.wallet.db.liquidSends h) :
    ∃ row reply s₁, b.wallet.db.liquidSends h = some row ∧ row.finished = false ∧
      checkStatus (servedEnv env cfg b.server.state d) (b.wallet.loadLiquidSend h row) b.wallet =
        .ok reply s₁ ∧
      b'.server = serve cfg d b.server (.check ⟨reply.policy.paymentHash, false⟩) ∧
      ((reply.status = .complete ∧
          b'.wallet.db.liquidSends h = some { row with finished := true }) ∨
        ((reply.status = .failed ∨ (reply.status = .pending ∧ reply.tip > reply.policy.htlcExpiry)) ∧
          b'.wallet.db.liquidSends h = none)) := by
  obtain ⟨row, hrow, hfin, hw, hs⟩ := check_step_run hstep
  rw [hw] at hch hs ⊢
  obtain ⟨reply, s₁, hst, htr, hrows⟩ := checkLiquidPayment_changed fun heq => hch (congrFun heq h)
  refine ⟨row, reply, s₁, hrow, hfin, hst, by simp [hs, htr], ?_⟩
  rcases hrows with ⟨hc, hr⟩ | ⟨hc, hr⟩
  · exact .inl ⟨hc, by simp [hr, finishRow, hrow]⟩
  · exact .inr ⟨hc, by simp [hr]⟩

/-- The server's answer to the wallet's check request, and the state the request left. -/
theorem served_check_answer {env : WalletEnv} {st : ServerState} {q : PaymentHash}
    {res : LiquidPaymentResult}
    (hres : (servedEnv env cfg st d).checkLiquidPayment ⟨q, false⟩ = .ok res) :
    ∃ st', Server.checkLiquidPayment cfg d.gettransaction q st = .ok res st' :=
  resultValue_eq_ok hres

/-- **Step lemma of a check that finishes its row.** It asked the server under the hash of the
    row's first HTLC VTXO's policy, found the entry under that hash `Sent` or `Confirmed`, and
    left it `Confirmed`. -/
theorem check_step_complete (hb : b.Reachable cfg)
    (hstep : b.step cfg (.wallet (.check env h) d) = some b') {row : LiquidSendRow}
    (hrow : b'.wallet.db.liquidSends h = some row) (hfin : row.finished = true) :
    ∃ first policy p, (b.wallet.getLiquidSend h).bind (·.htlcVtxos.head?) = some first ∧
      first.policy = .serverHtlcSend policy ∧
      b.server.state.liquidPayments policy.paymentHash = some p ∧
      (p.status = .sent ∨ p.status = .confirmed) ∧
      b'.server.state.liquidPayments policy.paymentHash = some { p with status := .confirmed } := by
  obtain ⟨row₀, hrow₀, hfin₀, -⟩ := check_step_run hstep
  obtain ⟨row₀, reply, s₁, hrow₀, -, hst, hserver, hcase⟩ :=
    check_step_changed hstep fun heq => by simp_all
  have hcomplete : reply.status = .complete := by
    rcases hcase with ⟨hc, -⟩ | ⟨-, hnone⟩
    · exact hc
    · simp [hrow] at hnone
  obtain ⟨-, -, hfirst, hpolicy, res, hres, hstatus⟩ := checkStatus_ok _ hst
  obtain ⟨st', hsrv⟩ := served_check_answer hres
  have hcode := PaymentStatus.tryFrom_eq_ok (hcomplete ▸ hstatus)
  obtain ⟨p, hp, hans⟩ := checkLiquidPayment_answer (Inv.of_reachable hb.server).state hsrv
  rw [hserver, (serve_check d _).1, hsrv, resultState_ok]
  refine ⟨reply.first, reply.policy, p, by simp [WalletState.getLiquidSend, hrow₀, hfirst],
    hpolicy, hp, ?_⟩
  rcases hans with ⟨-, hsent, hp'⟩ | ⟨hr, -⟩ | ⟨hr, -⟩
  · exact ⟨hsent, hp'⟩
  all_goals rw [hcode] at hr; cases hr

/-- **The wallet completes only what the server confirmed.** In every reachable state, a check
    that finishes the row of its hash asked the server under the hash of the row's first HTLC
    VTXO's policy, and leaves the server's entry under that hash `Confirmed`. -/
theorem check_completes_on_confirmed (hb : b.Reachable cfg)
    (hstep : b.step cfg (.wallet (.check env h) d) = some b') {row : LiquidSendRow}
    (hrow : b'.wallet.db.liquidSends h = some row) (hfin : row.finished = true) :
    ∃ first policy, (b.wallet.getLiquidSend h).bind (·.htlcVtxos.head?) = some first ∧
      first.policy = .serverHtlcSend policy ∧
      (b'.server.state.liquidPayments policy.paymentHash).map (·.status) = some .confirmed := by
  obtain ⟨first, policy, p, hfirst, hpolicy, -, -, hp'⟩ := check_step_complete hb hstep hrow hfin
  exact ⟨first, policy, hfirst, hpolicy, by simp [hp']⟩

/-- **The wallet completes only after a successful send on Liquid.** In every reachable state, a
    check that finishes the row of its hash asked the server under the hash of the row's first
    HTLC VTXO's policy; the sidechain had already recorded a `sendtoaddress` that succeeded for a
    payment under that hash, and the server's entry, now `Confirmed`, carries that send's txid. -/
theorem check_completes_after_send (hb : b.Reachable cfg)
    (hstep : b.step cfg (.wallet (.check env h) d) = some b') {row : LiquidSendRow}
    (hrow : b'.wallet.db.liquidSends h = some row) (hfin : row.finished = true) :
    ∃ first policy p txid, (b.wallet.getLiquidSend h).bind (·.htlcVtxos.head?) = some first ∧
      first.policy = .serverHtlcSend policy ∧
      (p, .ok txid) ∈ b.server.state.sidechainSends ∧ p.paymentHash = policy.paymentHash ∧
      (b'.server.state.liquidPayments policy.paymentHash).map (·.status) = some .confirmed ∧
      (b'.server.state.liquidPayments policy.paymentHash).bind (·.liquidTxid) = some txid := by
  obtain ⟨first, policy, q, hfirst, hpolicy, hq, hst, hq'⟩ := check_step_complete hb hstep hrow hfin
  obtain ⟨p, txid, hm, hqp⟩ := (BackedInv.of_reachable hb.server).state _ q hq hst
  have hkey : q.paymentHash = policy.paymentHash := (Inv.of_reachable hb.server).state.keyed _ _ hq
  have hhash : p.paymentHash = q.paymentHash := (congrArg LiquidPayment.paymentHash hqp).symm
  have htxid : q.liquidTxid = some txid := congrArg LiquidPayment.liquidTxid hqp
  exact ⟨first, policy, p, txid, hfirst, hpolicy, hm, hhash.trans hkey, by simp [hq'],
    by simp [hq', htxid]⟩

/-- **Step lemma of a check whose query the server answers.** In a world where the server is
    connected and the tip is known, the check ran on the row stored under its hash, and its status
    query returned the server's answer under the hash of the first HTLC VTXO's policy. -/
theorem check_step_status (hstep : b.step cfg (.wallet (.check env h) d) = some b')
    (hsrv : env.requireServer = .ok ()) {tip : BlockHeight} (htip : env.tip = .ok tip)
    {first : Vtxo} {policy : ServerHtlcSendVtxoPolicy}
    (hfirst : (b.wallet.getLiquidSend h).bind (·.htlcVtxos.head?) = some first)
    (hpolicy : first.policy = .serverHtlcSend policy) {res : LiquidPaymentResult}
    {st' : ServerState}
    (hans : Server.checkLiquidPayment cfg d.gettransaction policy.paymentHash b.server.state =
      .ok res st')
    {status : PaymentStatus} (hstatus : PaymentStatus.tryFrom res.status = .ok status) :
    ∃ row, b.wallet.db.liquidSends h = some row ∧
      b'.wallet = resultState (Wallet.checkLiquidPayment (servedEnv env cfg b.server.state d)
        (b.wallet.loadLiquidSend h row) b.wallet) ∧
      ∃ s₁, checkStatus (servedEnv env cfg b.server.state d) (b.wallet.loadLiquidSend h row)
        b.wallet = .ok ⟨tip, first, policy, status⟩ s₁ := by
  obtain ⟨row, hrow, -, hw, -⟩ := check_step_run hstep
  simp only [WalletState.getLiquidSend, hrow, Option.map_some', Option.some_bind] at hfirst
  have hanswer : (servedEnv env cfg b.server.state d).checkLiquidPayment
      ⟨policy.paymentHash, false⟩ = .ok res := by simp [servedEnv, hans, resultValue]
  exact ⟨row, hrow, hw, _, checkStatus_eq_ok (servedEnv env cfg b.server.state d) htip hfirst
    hpolicy hsrv hanswer hstatus b.wallet⟩

/-- **The wallet completes a payment the server confirms.** A check, in a world where the server
    is connected, the tip is known and no write fails, of a row whose first HTLC VTXO's policy
    names a hash under which the server's entry is `Confirmed`, or `Sent` with a txid that the
    daemon reports confirmed at least once, finishes the row. -/
theorem check_finishes_confirmed (hstep : b.step cfg (.wallet (.check env h) d) = some b')
    (hsrv : env.requireServer = .ok ()) {tip : BlockHeight} (htip : env.tip = .ok tip)
    (hfault : ∀ w, env.fault w = none) {first : Vtxo} {policy : ServerHtlcSendVtxoPolicy}
    {p : LiquidPayment} (hfirst : (b.wallet.getLiquidSend h).bind (·.htlcVtxos.head?) = some first)
    (hpolicy : first.policy = .serverHtlcSend policy)
    (hp : b.server.state.liquidPayments policy.paymentHash = some p)
    (hconf : p.status = .confirmed ∨ (p.status = .sent ∧ cfg.elementsd = true ∧
      p.liquidTxid.isSome ∧ ∃ c, d.gettransaction = .ok c ∧ 1 ≤ c.getD 0)) :
    b'.wallet.db.liquidSends h =
      (b.wallet.db.liquidSends h).map fun r => { r with finished := true } := by
  obtain ⟨res, st', hans, hres⟩ := checkLiquidPayment_complete hp hconf
  obtain ⟨row, hrow, hw, s₁, hst⟩ := check_step_status hstep hsrv htip hfirst hpolicy hans
    (by rw [hres, PaymentStatus.tryFrom_toI32])
  rw [hw, @checkLiquidPayment_completes (servedEnv env cfg b.server.state d) _ _ _ _ hfault hst rfl]
  simp [finishRow, hrow]

/-- **The wallet revokes a payment the server reports failed.** A check, in a world where the
    server is connected, the tip is known, no write fails and the revocation's round with the
    server succeeds, of a row whose first HTLC VTXO's policy names a hash under which the server's
    entry is `Failed`, removes the row. -/
theorem check_revokes_failed (hstep : b.step cfg (.wallet (.check env h) d) = some b')
    (hsrv : env.requireServer = .ok ()) {tip : BlockHeight} (htip : env.tip = .ok tip)
    (hfault : ∀ w, env.fault w = none) {first : Vtxo} {policy : ServerHtlcSendVtxoPolicy}
    {p : LiquidPayment} (hfirst : (b.wallet.getLiquidSend h).bind (·.htlcVtxos.head?) = some first)
    (hpolicy : first.policy = .serverHtlcSend policy)
    (hp : b.server.state.liquidPayments policy.paymentHash = some p) (hfailed : p.status = .failed)
    (hrev : ∀ payment ∈ b.wallet.getLiquidSend h, ∀ s, ∃ out s',
      revocationVtxos env payment s = .ok out s') :
    b'.wallet.db.liquidSends h = none := by
  have hans : Server.checkLiquidPayment cfg d.gettransaction policy.paymentHash b.server.state =
      .ok ⟨"Payment failed", PaymentStatus.failed.toI32, policy.paymentHash⟩ b.server.state := by
    rcases p with ⟨a, amt, ph, ids, st, tx⟩
    subst hfailed
    simp [Server.checkLiquidPayment, checkBegin_apply, hp, checkPaymentStatus]
  obtain ⟨row, hrow, hw, s₁, hst⟩ := check_step_status hstep hsrv htip hfirst hpolicy hans
    (PaymentStatus.tryFrom_toI32 .failed)
  rw [hw, @checkLiquidPayment_revokes (servedEnv env cfg b.server.state d) _ _ _ _ hfault hst rfl
    (hrev _ (by simp [WalletState.getLiquidSend, hrow]))]
  simp

/-- The wallet of `demoPaid` beside a server whose initiate call for hash 7 (HTLC VTXO 1 of
    `demoConfig`) was answered `reply` by the daemon. -/
def demoServed (reply : Except String String) : WalletServer :=
  ⟨demoPaid, ServerSys.init.run demoConfig
    [.initiate "addr" 40000 7 [1] reply, .resume 0, .resume 0, .resume 0]⟩

theorem demoServed_reachable (reply : Except String String) :
    (demoServed reply).Reachable demoConfig :=
  (WalletServer.Reachable.init demoPaid).run [.server (.initiate "addr" 40000 7 [1] reply),
    .server (.resume 0), .server (.resume 0), .server (.resume 0)] rfl

/-- The check of hash 7, with the transaction confirmed once. -/
def demoCheck : WalletServerAction :=
  .wallet (.check demoEnv 7) ⟨.ok "tx", .ok (some 1)⟩

/-- The state after that check, against the server that sent. -/
def demoConfirmed : WalletServer :=
  ((demoServed (.ok "tx")).step demoConfig demoCheck).getD (demoServed (.ok "tx"))

theorem confirmed_check_completes :
    ∃ first policy, ((demoServed (.ok "tx")).wallet.getLiquidSend 7).bind (·.htlcVtxos.head?) =
        some first ∧ first.policy = .serverHtlcSend policy ∧
      (demoConfirmed.server.state.liquidPayments policy.paymentHash).map (·.status) =
        some .confirmed :=
  @check_completes_on_confirmed demoConfig (demoServed (.ok "tx")) demoConfirmed demoEnv 7
    ⟨.ok "tx", .ok (some 1)⟩ (demoServed_reachable _) rfl ⟨"addr", 40000, [10], 0, true⟩
    (by decide) rfl

theorem confirmed_check_finishes :
    demoConfirmed.wallet.db.liquidSends 7 =
      ((demoServed (.ok "tx")).wallet.db.liquidSends 7).map fun r => { r with finished := true } :=
  @check_finishes_confirmed demoConfig (demoServed (.ok "tx")) demoConfirmed demoEnv 7
    ⟨.ok "tx", .ok (some 1)⟩ rfl rfl 700 rfl (fun _ => rfl)
    ⟨10, 40000, .serverHtlcSend ⟨100, 7, 800⟩, 900, "oor"⟩ ⟨100, 7, 800⟩
    ⟨"addr", 40000, 7, [1], .sent, some "tx"⟩ (by rfl) rfl (by rfl)
    (.inr ⟨rfl, rfl, rfl, some 1, rfl, by decide⟩)

theorem confirmed_check_follows_send :
    ∃ first policy p txid, ((demoServed (.ok "tx")).wallet.getLiquidSend 7).bind
        (·.htlcVtxos.head?) = some first ∧ first.policy = .serverHtlcSend policy ∧
      (p, .ok txid) ∈ (demoServed (.ok "tx")).server.state.sidechainSends ∧
      p.paymentHash = policy.paymentHash ∧
      (demoConfirmed.server.state.liquidPayments policy.paymentHash).map (·.status) =
        some .confirmed ∧
      (demoConfirmed.server.state.liquidPayments policy.paymentHash).bind (·.liquidTxid) =
        some txid :=
  @check_completes_after_send demoConfig (demoServed (.ok "tx")) demoConfirmed demoEnv 7
    ⟨.ok "tx", .ok (some 1)⟩ (demoServed_reachable _) rfl ⟨"addr", 40000, [10], 0, true⟩
    (by decide) rfl

/-- **The wallet revokes only on the server's failure or the HTLC's expiry.** In every reachable
    state, a check that removes the row of its hash asked the server under the hash of the row's
    first HTLC VTXO's policy, and found the entry under that hash `Failed`, the record of an
    initiate call whose `sendtoaddress` returned an error; or `Pending` or `Sent`, with the chain
    tip past the policy's HTLC expiry. -/
theorem check_revokes_on_failure (hb : b.Reachable cfg)
    (hstep : b.step cfg (.wallet (.check env h) d) = some b')
    (hgone : b'.wallet.db.liquidSends h = none) :
    ∃ first policy, (b.wallet.getLiquidSend h).bind (·.htlcVtxos.head?) = some first ∧
      first.policy = .serverHtlcSend policy ∧
      ((∃ p e, (p, .error e) ∈ b.server.state.sidechainSends ∧ p.paymentHash = policy.paymentHash ∧
          b.server.state.liquidPayments policy.paymentHash = some { p with status := .failed }) ∨
        (∃ p tip, b.server.state.liquidPayments policy.paymentHash = some p ∧
          (p.status = .pending ∨ p.status = .sent) ∧ env.tip = .ok tip ∧
          tip > policy.htlcExpiry)) := by
  have hsys := (Inv.of_reachable hb.server).state
  obtain ⟨row₀, hrow₀, -⟩ := check_step_run hstep
  obtain ⟨row₀, reply, s₁, hrow₀, -, hst, -, hcase⟩ :=
    check_step_changed hstep fun heq => by simp [hgone, hrow₀] at heq
  have hrevoke : reply.status = .failed ∨
      (reply.status = .pending ∧ reply.tip > reply.policy.htlcExpiry) :=
    hcase.elim (fun hc => by simp [hgone] at hc) (·.1)
  obtain ⟨-, htip, hfirst, hpolicy, res, hres, hstatus⟩ := checkStatus_ok _ hst
  obtain ⟨st', hsrv⟩ := served_check_answer hres
  obtain ⟨p, hp, hans⟩ := checkLiquidPayment_answer hsys hsrv
  refine ⟨reply.first, reply.policy, by simp [WalletState.getLiquidSend, hrow₀, hfirst], hpolicy, ?_⟩
  rcases hrevoke with hfail | ⟨hpend, hexp⟩
  · have hcode := PaymentStatus.tryFrom_eq_ok (hfail ▸ hstatus)
    rcases hans with ⟨hr, -⟩ | ⟨-, hpst, -⟩ | ⟨hr, -⟩
    · rw [hcode] at hr; cases hr
    · obtain ⟨p₀, e, hmem, rfl⟩ := hsys.failedSent _ p hp hpst
      exact .inl ⟨p₀, e, hmem, hsys.keyed _ { p₀ with status := .failed } hp, hp⟩
    · rw [hcode] at hr; cases hr
  · have hcode := PaymentStatus.tryFrom_eq_ok (hpend ▸ hstatus)
    rcases hans with ⟨hr, -⟩ | ⟨hr, -⟩ | ⟨-, hpst, -⟩
    · rw [hcode] at hr; cases hr
    · rw [hcode] at hr; cases hr
    · exact .inr ⟨p, reply.tip, hp, hpst, htip, hexp⟩

/-- The state after the check of hash 7, against the server whose send failed. -/
def demoRevoked : WalletServer :=
  ((demoServed (.error "insufficient funds")).step demoConfig demoCheck).getD
    (demoServed (.error "insufficient funds"))

theorem failed_send_check_revokes :
    ∃ first policy,
      ((demoServed (.error "insufficient funds")).wallet.getLiquidSend 7).bind
          (·.htlcVtxos.head?) = some first ∧
        first.policy = .serverHtlcSend policy ∧
      ((∃ p e, (p, .error e) ∈ (demoServed (.error "insufficient funds")).server.state.sidechainSends ∧
          p.paymentHash = policy.paymentHash ∧
          (demoServed (.error "insufficient funds")).server.state.liquidPayments policy.paymentHash =
            some { p with status := .failed }) ∨
        (∃ p tip, (demoServed (.error "insufficient funds")).server.state.liquidPayments
            policy.paymentHash = some p ∧
          (p.status = .pending ∨ p.status = .sent) ∧ demoEnv.tip = .ok tip ∧
          tip > policy.htlcExpiry)) :=
  @check_revokes_on_failure demoConfig (demoServed (.error "insufficient funds")) demoRevoked
    demoEnv 7 ⟨.ok "tx", .ok (some 1)⟩ (demoServed_reachable _) rfl (by decide)

theorem failed_check_revokes :
    demoRevoked.wallet.db.liquidSends 7 = none :=
  @check_revokes_failed demoConfig (demoServed (.error "insufficient funds")) demoRevoked demoEnv 7
    ⟨.ok "tx", .ok (some 1)⟩ rfl rfl 700 rfl (fun _ => rfl)
    ⟨10, 40000, .serverHtlcSend ⟨100, 7, 800⟩, 900, "oor"⟩ ⟨100, 7, 800⟩
    ⟨"addr", 40000, 7, [1], .failed, none⟩ (by rfl) rfl (by rfl) rfl
    (fun payment hpay s => by
      rw [Option.mem_def] at hpay
      cases hpay
      exact ⟨_, _, rfl⟩)

/-- **The server forwards what the wallet recorded.** A pay either changes neither the wallet's
    rows nor the server; or its cosign reply was accepted, and it stores, under its hash where there
    was none, the pending row of its address and amount, the HTLC outputs built from that reply and
    the movement the wallet creates next, and the server runs `initiate_liquid_payment` on exactly
    that address, amount and hash and those HTLC outputs' ids. -/
theorem pay_step_forwards {a : String} {amt : Amount}
    (hstep : b.step cfg (.wallet (.pay env a amt h) d) = some b') :
    (b'.wallet.db.liquidSends = b.wallet.db.liquidSends ∧ b'.server = b.server) ∨
    ∃ ctx s₁ out, payStart env a amt h b.wallet = .ok ctx s₁ ∧
      payCosigned env amt ctx s₁ = .ok out s₁ ∧ b.wallet.db.liquidSends h = none ∧
      b'.wallet.db.liquidSends = Function.update b.wallet.db.liquidSends h
        (some (pendingRow a amt out.1 b.wallet.db.nextMovementId)) ∧
      b'.server.state = resultState (Server.initiateLiquidPayment cfg d.sendtoaddress a amt h
        (out.1.map (·.id)) b.server.state) := by
  simp only [WalletServer.step, servedCall, WalletCall.run, Option.map_some',
    Option.some.injEq] at hstep
  subst hstep
  have htracked : ∀ s : WalletState, s.trackerRequests = s.announced.2 := fun _ => rfl
  rcases @payLiquidAddress_forwards (servedEnv env cfg b.server.state d) a amt h b.wallet with
    heq | ⟨ctx, s₁, out, h₁, h₂, hnone, hrows, hsent⟩
  · simp only [WalletState.announced, Prod.mk.injEq] at heq
    refine .inl ⟨heq.1, ?_⟩
    simp [heq.2]
  · refine .inr ⟨ctx, s₁, out, h₁, h₂, hnone, hrows, ?_⟩
    simp only [htracked, hsent, List.drop_left, List.foldl_cons, List.foldl_nil, serve_initiate]
    rfl

/-- The demo wallet's pay of 40000 sat under hash 7, beside a server at startup. -/
def demoForwarded : WalletServer :=
  ((⟨demoWallet, ServerSys.init⟩ : WalletServer).step demoConfig
    (.wallet (.pay demoEnv "addr" 40000 7) ⟨.ok "tx", .ok none⟩)).getD ⟨demoWallet, ServerSys.init⟩

theorem demo_pay_forwarded :
    (demoForwarded.wallet.db.liquidSends = demoWallet.db.liquidSends ∧
        demoForwarded.server = ServerSys.init) ∨
    ∃ ctx s₁ out, payStart demoEnv "addr" 40000 7 demoWallet = .ok ctx s₁ ∧
      payCosigned demoEnv 40000 ctx s₁ = .ok out s₁ ∧ demoWallet.db.liquidSends 7 = none ∧
      demoForwarded.wallet.db.liquidSends = Function.update demoWallet.db.liquidSends 7
        (some (pendingRow "addr" 40000 out.1 demoWallet.db.nextMovementId)) ∧
      demoForwarded.server.state = resultState (Server.initiateLiquidPayment demoConfig
        (.ok "tx") "addr" 40000 7 (out.1.map (·.id)) ServerSys.init.state) :=
  @pay_step_forwards demoConfig ⟨demoWallet, ServerSys.init⟩ demoForwarded demoEnv 7
    ⟨.ok "tx", .ok none⟩ "addr" 40000 (by rfl)

/-- **A payment that nothing stops reaches the tracker.** A pay on a hash with no row, in a world
    where every step of `pay_liquid_address` succeeds (those of `payLiquidAddress_run_ok`), whose
    HTLC outputs the server holds as spendable `ServerHtlcSend` VTXOs, makes all of its writes to
    the VTXO store and the table, and the server records the payment under its hash: the sidechain
    records one `sendtoaddress` for it, and the entry is `Sent` with the daemon's txid, or
    `Failed`. -/
theorem pay_step_records {a : String} {amt : Amount} {inputs : List Vtxo}
    {keypairs : List Keypair} {req : LiquidPayHtlcCosignRequest}
    {resp : LiquidPayHtlcCosignResponse} {sigs : List ArkoorCosignResponse}
    {policy : ServerHtlcSendVtxoPolicy} {builder : ArkoorPackageBuilder}
    {out : List Vtxo × Option Vtxo} {htlcVtxos : List Vtxo} {metadata : String}
    (hstep : b.step cfg (.wallet (.pay env a amt h) d) = some b')
    (hsrv : env.requireServer = .ok ()) (hdust : p2trDust ≤ amt)
    (hnew : b.wallet.db.liquidSends h = none) (hfault : ∀ w, env.fault w = none)
    (hsel : env.selectVtxosToCover
      (b.wallet.db.apply (.storeKeyIndex (b.wallet.db.keyIndex + 1))) amt = .ok inputs)
    (hkeys : inputs.mapM env.getVtxoKey = .ok keypairs)
    (hreq : req = ⟨a, amt, inputs.map (·.id), (keypairs.map env.noncePair).map (·.2),
      (env.keypairAt b.wallet.db.keyIndex).publicKey⟩)
    (hcosign : env.requestLiquidPayHtlcCosign req = .ok resp)
    (hsigs : resp.sigs.mapM id = .ok sigs) (hpolicy : resp.policy = .ok (.serverHtlcSend policy))
    (hkey : policy.userPubkey = (env.keypairAt b.wallet.db.keyIndex).publicKey)
    (hbuilder : builder = .send inputs req.userNonces ⟨amt, .serverHtlcSend policy⟩
      (some req.userPubkey))
    (hpkg : env.newPackage builder = .ok ()) (hverify : env.verifyCosignResponse builder sigs = true)
    (hbuild : env.buildVtxos builder sigs = .ok out)
    (hhtlc : htlcVtxos = out.1.map fun v => { v with policy := .serverHtlcSend policy })
    (hvalid : ∀ v ∈ htlcVtxos, env.validateVtxo v = .ok ())
    (hamount : amt ≤ 2 ^ 63 - 1) (hsum : (htlcVtxos.map (·.amount)).sum ≤ 2 ^ 63 - 1)
    (hchange : ∀ c ∈ out.2, ∃ last tx, inputs.getLast? = some last ∧
      env.getTx last.chainAnchor = .ok (some tx) ∧ env.validateChange c tx = .ok ())
    (hmeta : env.htlcMetadata htlcVtxos = .ok metadata)
    (hknown : InitiateValid cfg (htlcVtxos.map (·.id))) :
    b'.wallet.db.holdings = (b.wallet.db.applyAll
        (persistWrites a amt h inputs htlcVtxos out.2 b.wallet.db.nextMovementId)).holdings ∧
      b'.server.state.sidechainSends = b.server.state.sidechainSends ++
        [(⟨a, amt, h, htlcVtxos.map (·.id), .pending, none⟩, d.sendtoaddress)] ∧
      b'.server.state.liquidPayments h = some ⟨a, amt, h, htlcVtxos.map (·.id),
        if d.sendtoaddress.toBool then .sent else .failed, d.sendtoaddress.toOption⟩ := by
  obtain ⟨reply, hinit⟩ : ∃ r, (servedEnv env cfg b.server.state d).initiateLiquidPayment
      (initiateRequest a amt h htlcVtxos) = .ok r := by
    cases hd : d.sendtoaddress <;> simp [servedEnv, initiateRequest, Server.initiateLiquidPayment,
      initiateBegin_of_valid _ hknown, resultValue, hd]
  obtain ⟨s', hrun, hhold, hsent⟩ := @payLiquidAddress_run_ok (servedEnv env cfg b.server.state d)
    b.wallet a amt h inputs keypairs req resp sigs policy builder out htlcVtxos metadata reply hsrv
    hdust hnew hfault hsel hkeys hreq hcosign hsigs hpolicy hkey hbuilder hpkg hverify hbuild hhtlc
    hvalid hamount hsum hchange hmeta hinit
  simp only [WalletServer.step, servedCall, WalletCall.run, hrun, resultState_ok, Option.map_some',
    Option.some.injEq] at hstep
  subst hstep
  have htracked : s'.trackerRequests =
      b.wallet.trackerRequests ++ [.initiate (initiateRequest a amt h htlcVtxos)] := by
    simp [WalletState.trackerRequests, hsent, List.filter_append, ServerRequest.tracked]
  refine ⟨hhold, ?_⟩
  simp only [htracked, List.drop_left, List.foldl_cons, List.foldl_nil, serve_initiate]
  cases hd : d.sendtoaddress <;> simp [Server.initiateLiquidPayment, initiateRequest,
    initiateBegin_of_valid _ hknown, hd, Except.toBool, Except.toOption]

/-- A server that holds the HTLC output `demoEnv` signs, VTXO 10, spendable. -/
def htlcConfig : ServerConfig where
  vtxos id := if id = 10 then some ⟨⟨10, 40000, .serverHtlcSend ⟨100, 7, 800⟩, 900, "oor"⟩, true⟩
    else none
  elementsd := true

/-- The demo wallet's pay of 40 000 sat under hash 7, beside that server at startup. -/
def demoRecorded : WalletServer :=
  ((⟨demoWallet, ServerSys.init⟩ : WalletServer).step htlcConfig
    (.wallet (.pay demoEnv "addr" 40000 7) ⟨.ok "tx", .ok none⟩)).getD ⟨demoWallet, ServerSys.init⟩

theorem demo_pay_recorded :
    demoRecorded.wallet.db.holdings = (demoWallet.db.applyAll (persistWrites "addr" 40000 7
        [⟨1, 100000, .pubkey 100, 900, "anchor"⟩] [⟨10, 40000, .serverHtlcSend ⟨100, 7, 800⟩, 900, "oor"⟩]
        (some ⟨11, 60000, .pubkey 100, 900, "oor"⟩) 0)).holdings ∧
      demoRecorded.server.state.sidechainSends = ServerSys.init.state.sidechainSends ++
        [(⟨"addr", 40000, 7, [10], .pending, none⟩, .ok "tx")] ∧
      demoRecorded.server.state.liquidPayments 7 =
        some ⟨"addr", 40000, 7, [10], .sent, some "tx"⟩ :=
  @pay_step_records htlcConfig ⟨demoWallet, ServerSys.init⟩ demoRecorded demoEnv 7
    ⟨.ok "tx", .ok none⟩ "addr" 40000 [⟨1, 100000, .pubkey 100, 900, "anchor"⟩] [⟨51⟩]
    ⟨"addr", 40000, [1], [51], 100⟩ ⟨[.ok 0], .ok (.serverHtlcSend ⟨100, 7, 800⟩)⟩ [0] ⟨100, 7, 800⟩
    (.send [⟨1, 100000, .pubkey 100, 900, "anchor"⟩] [51] ⟨40000, .serverHtlcSend ⟨100, 7, 800⟩⟩
      (some 100))
    ([⟨10, 40000, .pubkey 0, 900, "oor"⟩], some ⟨11, 60000, .pubkey 100, 900, "oor"⟩)
    [⟨10, 40000, .serverHtlcSend ⟨100, 7, 800⟩, 900, "oor"⟩] "htlc" (by rfl) rfl (by decide) rfl
    (fun _ => rfl) rfl rfl rfl rfl rfl rfl rfl rfl rfl rfl rfl rfl (fun _ _ => rfl) (by decide)
    (by decide) (fun _ _ => ⟨_, _, rfl, rfl, rfl⟩) rfl (by decide)

end Agreement

end BarkLiquid.Bridge
