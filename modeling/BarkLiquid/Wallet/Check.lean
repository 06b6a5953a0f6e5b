import BarkLiquid.Wallet.Pay

/-!
# `BarkLiquid.Wallet.Check` — `Wallet::check_liquid_payment` and `process_liquid_revocation`

The faithful layer of the wallet's reconciliation routine. `check_liquid_payment` reads the chain
tip and the policy of the first HTLC VTXO, asks the server for the payment's status under the
policy's hash, and branches on it:

* `Complete` — the completion writes (`completionWrites`): the row finished, the HTLC VTXOs
  spent, the movement finished as `Finished`;
* `Failed`, or `Pending` with the tip past the HTLC expiry — `process_liquid_revocation`, whose
  writes are `revocationWrites`; if it fails, and some HTLC VTXO expires within
  `vtxo_refresh_expiry_threshold` blocks of the tip, the exit fallback marks all of them for
  unilateral exit and fails the movement (`exitFallback`);
* `Pending` before the expiry — nothing.

Each branch is a sequence of writes run with `?`, and a failed write stops it where it is. The
writes are fixed by the call's own inputs: the completion's by the payment, the revocation's by the
VTXOs the server cosigned (`revocationPlan`), the exit's by the tip (`exitPlan`). So one run leaves
the store as after a prefix of the completion's writes, all of the revocation's, or a prefix of the
revocation's that stopped before its last write followed by a prefix of the exit's
(`CheckOutcome`, `checkLiquidPayment_one_write_prefix`). When the server's status calls for a
revocation, the call ends with the revocation made (the HTLC VTXOs spent, the row removed) or, if
it failed, the HTLC VTXOs marked for exit exactly when the tip is past `min_expiry - threshold`
(`checkLiquidPayment_revokes_or_exits`).

The `debug_assert!` that all HTLC VTXOs share one policy is not compiled into release builds and
is left out; so is the logging.
-/

namespace BarkLiquid.Wallet

/-- The writes of a completion, in order. -/
def completionWrites (payment : LiquidSend) : List WalletWrite :=
  [.finishLiquidSend payment.paymentHash, .markVtxosAsSpent (payment.htlcVtxos.map (·.id)),
    .finishMovement payment.movementId .finished]

/-- The writes of a revocation that produced `vtxos`, in order. -/
def revocationWrites (payment : LiquidSend) (vtxos : List Vtxo) (effective : Int) :
    List WalletWrite :=
  [.updateMovement payment.movementId { effectiveBalance := some effective, producedVtxos := vtxos },
    .storeSpendableVtxos vtxos, .markVtxosAsSpent (payment.htlcVtxos.map (·.id)),
    .finishMovement payment.movementId .failed, .removeLiquidSend payment.paymentHash]

/-- The ledger writes of the exit fallback, after the HTLC VTXOs are marked for exit. -/
def exitMovementWrites (payment : LiquidSend) (effective : Int) : List WalletWrite :=
  [.updateMovement payment.movementId
      { effectiveBalance := some effective, exitedVtxos := payment.htlcVtxos },
    .finishMovement payment.movementId .failed]

/-- The movement's effective balance after an exit: `-amount + Σ exited`. -/
def exitEffective (payment : LiquidSend) : Int :=
  -(payment.amount : Int) + (((payment.htlcVtxos.map (·.amount)).sum : Amount) : Int)

/-- The writes of the exit fallback, in order: the HTLC VTXOs marked for exit, then the ledger's. -/
def exitWrites (payment : LiquidSend) : List WalletWrite :=
  .markVtxosForExit payment.htlcVtxos :: exitMovementWrites payment (exitEffective payment)

/-- The least expiry height among the HTLC VTXOs (`.min().unwrap()` on a list whose first element
    is `first`). -/
def minExpiry (first : Vtxo) (vtxos : List Vtxo) : BlockHeight :=
  vtxos.foldl (fun m v => min m v.expiryHeight) first.expiryHeight

section Code

variable (env : WalletEnv)

/-- `process_liquid_revocation` up to its first write: the revoked VTXOs the server cosigned, and
    the movement's effective balance `-amount + Σ revoked`. -/
def revocationVtxos (payment : LiquidSend) : WalletM (List Vtxo × Int) := do
  liftExcept env.requireServer
  let htlcVtxos := payment.htlcVtxos
  let keypairs ← liftExcept (htlcVtxos.mapM env.getVtxoKey)
  let pubs := keypairs.map fun k => (env.noncePair k).2
  let revocation := ArkoorPackageBuilder.htlcRevocation htlcVtxos pubs
  liftExcept (env.newPackage revocation)
  let req : RevokeLiquidPayHtlcRequest := ⟨htlcVtxos.map (·.id), pubs⟩
  send (.revoke req)
  let sigs ← liftExcept (env.requestLiquidPayHtlcRevocation req)
  let cosignResp ← context "invalid server cosign response" (sigs.mapM id)
  ensure (env.verifyCosignResponse revocation cosignResp)
    "invalid arkoor cosignature received from server"
  let out ← liftExcept (env.buildVtxos revocation cosignResp)
  let amount ← liftExcept (toSigned payment.amount)
  let revoked ← liftExcept (toSigned (out.1.map (·.amount)).sum)
  pure (out.1, -amount + revoked)

/-- **`Wallet::process_liquid_revocation`.** -/
def processLiquidRevocation (payment : LiquidSend) : WalletM Unit := do
  let (vtxos, effective) ← revocationVtxos env payment
  (revocationWrites payment vtxos effective).forM (write env)

/-- The exit fallback after a failed revocation: when some HTLC VTXO expires soon, all of them are
    marked for unilateral exit and the movement fails. -/
def exitFallback (payment : LiquidSend) (tip : BlockHeight) (first : Vtxo) : WalletM Unit :=
  if tip > minExpiry first payment.htlcVtxos - env.vtxoRefreshExpiryThreshold then do
    write env (.markVtxosForExit payment.htlcVtxos)
    let amount ← liftExcept (toSigned payment.amount)
    let exited ← liftExcept (toSigned (payment.htlcVtxos.map (·.amount)).sum)
    (exitMovementWrites payment (-amount + exited)).forM (write env)
  else pure ()

/-- `if let Err(e) = self.process_liquid_revocation(payment).await { .. }`. -/
def revokeOrExit (payment : LiquidSend) (tip : BlockHeight) (first : Vtxo) : WalletM Unit :=
  onError (processLiquidRevocation env payment) fun _ => exitFallback env payment tip first

/-- What `check_liquid_payment` knows once the server has answered: the chain tip, the first HTLC
    VTXO, its policy, and the decoded status. -/
structure StatusReply where
  tip : BlockHeight
  first : Vtxo
  policy : ServerHtlcSendVtxoPolicy
  status : PaymentStatus

/-- `check_liquid_payment` up to the server's status. The query goes out under the hash of the
    first HTLC VTXO's policy. -/
def checkStatus (payment : LiquidSend) : WalletM StatusReply := do
  let tip ← liftExcept env.tip
  let first ← contextOpt "no vtxo provided" payment.htlcVtxos.head?
  let policy ← contextOpt "VTXO is not an HTLC send" first.policy.asServerHtlcSend
  liftExcept env.requireServer
  let req : CheckLiquidPaymentRequest := ⟨policy.paymentHash, false⟩
  send (.check req)
  let res ← liftExcept (env.checkLiquidPayment req)
  let paymentStatus ← liftExcept (PaymentStatus.tryFrom res.status)
  pure ⟨tip, first, policy, paymentStatus⟩

/-- The branch on the server's status: `should_revoke` for `Failed` and for `Pending` past the
    HTLC expiry, the completion for `Complete`. -/
def applyPaymentStatus (payment : LiquidSend) (reply : StatusReply) : WalletM Unit :=
  match reply.status with
  | .failed => revokeOrExit env payment reply.tip reply.first
  | .pending =>
    if reply.tip > reply.policy.htlcExpiry then revokeOrExit env payment reply.tip reply.first
    else pure ()
  | .complete => (completionWrites payment).forM (write env)

/-- **`Wallet::check_liquid_payment`.** It returns `Ok(None)` whenever it returns `Ok`. -/
def checkLiquidPayment (payment : LiquidSend) : WalletM (Option Preimage) := do
  let reply ← checkStatus env payment
  applyPaymentStatus env payment reply
  pure none

end Code

/-! ## The stores a check may leave -/

section Outcomes

variable (env : WalletEnv)

/-- `should_revoke`: the server reports `Failed`, or `Pending` with the tip past the HTLC expiry. -/
def StatusReply.ShouldRevoke (reply : StatusReply) : Prop :=
  reply.status = .failed ∨ (reply.status = .pending ∧ reply.tip > reply.policy.htlcExpiry)

instance (reply : StatusReply) : Decidable reply.ShouldRevoke :=
  inferInstanceAs (Decidable (_ ∨ _))

/-- The writes a revocation from `s` makes when none fails: those for the VTXOs the server
    cosigned, and none when its preparation fails. -/
def revocationPlan (payment : LiquidSend) (s : WalletState) : List WalletWrite :=
  match revocationVtxos env payment s with
  | .ok (vtxos, effective) _ => revocationWrites payment vtxos effective
  | .error _ _ => []

/-- The writes the exit fallback makes at `tip` when none fails: none unless some HTLC VTXO expires
    within the refresh threshold. -/
def exitPlan (payment : LiquidSend) (tip : BlockHeight) (first : Vtxo) : List WalletWrite :=
  if tip > minExpiry first payment.htlcVtxos - env.vtxoRefreshExpiryThreshold then
    exitWrites payment
  else []

/-- **The stores a revocation with its exit fallback may leave behind**, from `s`: all of the
    revocation's writes, for the VTXOs the server cosigned; or a prefix of them that stopped before
    the last, followed by a prefix of the exit fallback's. -/
def RevokeOutcome (payment : LiquidSend) (tip : BlockHeight) (first : Vtxo) (s : WalletState)
    (db' : WalletDb) : Prop :=
  (∃ vtxos effective s₁, revocationVtxos env payment s = .ok (vtxos, effective) s₁ ∧
    db' = s.db.applyAll (revocationWrites payment vtxos effective)) ∨
  ∃ k j, k < 5 ∧ db' = s.db.applyAll ((revocationPlan env payment s).take k ++
    (exitPlan env payment tip first).take j)

/-- **The stores the branch on a status reply may leave behind**, from `s`: a prefix of the
    completion's writes on `Complete`; what a revocation leaves when `should_revoke`; the store as
    it was on `Pending` before the expiry. -/
def StatusOutcome (payment : LiquidSend) (reply : StatusReply) (s : WalletState) (db' : WalletDb) :
    Prop :=
  (reply.status = .complete ∧ ∃ k, db' = s.db.applyAll ((completionWrites payment).take k)) ∨
  (reply.ShouldRevoke ∧ RevokeOutcome env payment reply.tip reply.first s db') ∨
  (reply.status = .pending ∧ reply.tip ≤ reply.policy.htlcExpiry ∧ db' = s.db)

/-- **The stores one run of `check_liquid_payment` may leave behind**, from `s`: the store as it
    was when the status query fails, and otherwise what the branch on its reply may leave. -/
def CheckOutcome (payment : LiquidSend) (s : WalletState) (db' : WalletDb) : Prop :=
  (∃ e s₁, checkStatus env payment s = .error e s₁ ∧ db' = s.db) ∨
  ∃ reply s₁, checkStatus env payment s = .ok reply s₁ ∧ StatusOutcome env payment reply s₁ db'

end Outcomes

/-! ## Write sequences -/

section Writes

variable (env : WalletEnv)

/-- **A sequence of writes run with `?`** stops at its first failure: it leaves the store as after
    a prefix of the writes, the whole of them exactly when it returns. -/
theorem forM_write (ws : List WalletWrite) (s : WalletState) :
    ∃ k ≤ ws.length, resultState (ws.forM (write env) s) = { s with db := s.db.applyAll (ws.take k) }
      ∧ ((∃ s', ws.forM (write env) s = .ok () s') ↔ k = ws.length) := by
  induction ws generalizing s with
  | nil => exact ⟨0, le_rfl, rfl, by simp⟩
  | cons w ws ih =>
    rw [List.forM_cons', bind_apply, write_apply]
    rcases s.db.violation w with _ | e
    · rcases env.fault w with _ | e
      · obtain ⟨k, hk, hs, hok⟩ := ih { s with db := s.db.apply w }
        exact ⟨k + 1, by simpa using hk, by simpa using hs, by simpa using hok⟩
      all_goals exact ⟨0, by simp, rfl, by simp⟩
    all_goals exact ⟨0, by simp, rfl, by simp⟩

/-- With no fault, writes that no constraint can refuse all succeed. -/
theorem forM_write_of_no_fault (hf : ∀ w, env.fault w = none) {ws : List WalletWrite}
    (hws : ∀ w ∈ ws, ∀ db : WalletDb, db.violation w = none) (s : WalletState) :
    ws.forM (write env) s = .ok () { s with db := s.db.applyAll ws } := by
  induction ws generalizing s with
  | nil => rfl
  | cons w ws ih =>
    rw [List.forM_cons', bind_apply, write_apply, hws w (.head _) s.db, hf w]
    exact ih (fun w' hw' => hws w' (.tail _ hw')) _

end Writes

/-! ## Specs of the branches -/

section Specs

variable (env : WalletEnv)

/-- The revocation's preparation writes nothing; it only sends the revocation request. -/
theorem revocationVtxos_keeps_of {β : Type} {view : WalletState → β}
    (hr : ∀ (s : WalletState) (req : RevokeLiquidPayHtlcRequest),
      view { s with sent := s.sent ++ [.revoke req] } = view s) (payment : LiquidSend) :
    Keeps view (revocationVtxos env payment) :=
  (keeps_liftExcept _).bind fun _ => (keeps_liftExcept _).bind fun _ =>
  (keeps_liftExcept _).bind fun _ => (keeps_send _ fun s => hr s _).bind fun _ =>
  (keeps_liftExcept _).bind fun _ => (keeps_context _ _).bind fun _ =>
  (keeps_ensure _ _).bind fun _ => (keeps_liftExcept _).bind fun _ =>
  (keeps_liftExcept _).bind fun _ => (keeps_liftExcept _).bind fun _ => keeps_pure _

theorem revocationVtxos_keeps (payment : LiquidSend) :
    Keeps (fun s => s.db) (revocationVtxos env payment) :=
  revocationVtxos_keeps_of env (fun _ _ => by rfl) payment

theorem checkStatus_keeps (payment : LiquidSend) :
    Keeps (fun s => s.db) (checkStatus env payment) :=
  (keeps_liftExcept _).bind fun _ => (keeps_contextOpt _ _).bind fun _ =>
  (keeps_contextOpt _ _).bind fun _ => (keeps_liftExcept _).bind fun _ =>
  (keeps_send _ fun _ => by rfl).bind fun _ => (keeps_liftExcept _).bind fun _ =>
  (keeps_liftExcept _).bind fun _ => keeps_pure _

/-- **Spec of a status query that returned.** It read the tip and the first HTLC VTXO's
    `ServerHtlcSend` policy, sent one check request, under the policy's hash, and decoded the
    server's answer; it wrote nothing. -/
theorem checkStatus_ok {payment : LiquidSend} {s s₁ : WalletState} {reply : StatusReply}
    (h : checkStatus env payment s = .ok reply s₁) :
    s₁ = { s with sent := s.sent ++ [.check ⟨reply.policy.paymentHash, false⟩] } ∧
      env.tip = .ok reply.tip ∧ payment.htlcVtxos.head? = some reply.first ∧
      reply.first.policy = .serverHtlcSend reply.policy ∧
      ∃ res, env.checkLiquidPayment ⟨reply.policy.paymentHash, false⟩ = .ok res ∧
        PaymentStatus.tryFrom res.status = .ok reply.status := by
  obtain ⟨tip, _, r₁, h₁⟩ := bind_eq_ok h
  obtain ⟨htip, rfl⟩ := liftExcept_eq_ok_iff.1 r₁
  obtain ⟨first, _, r₂, h₂⟩ := bind_eq_ok h₁
  obtain ⟨hfirst, rfl⟩ := contextOpt_eq_ok_iff.1 r₂
  obtain ⟨policy, _, r₃, h₃⟩ := bind_eq_ok h₂
  obtain ⟨hpolicy, rfl⟩ := contextOpt_eq_ok_iff.1 r₃
  obtain ⟨_, _, r₄, h₄⟩ := bind_eq_ok h₃
  obtain ⟨-, rfl⟩ := liftExcept_eq_ok_iff.1 r₄
  obtain ⟨_, _, r₅, h₅⟩ := bind_eq_ok h₄
  cases r₅
  obtain ⟨res, _, r₆, h₆⟩ := bind_eq_ok h₅
  obtain ⟨hres, rfl⟩ := liftExcept_eq_ok_iff.1 r₆
  obtain ⟨status, _, r₇, h₇⟩ := bind_eq_ok h₆
  obtain ⟨hstatus, rfl⟩ := liftExcept_eq_ok_iff.1 r₇
  cases h₇
  exact ⟨rfl, htip, hfirst, by simpa using hpolicy, res, hres, hstatus⟩

/-- **A status query that the world answers** returns that answer, having sent the one check
    request under the policy's hash. -/
theorem checkStatus_eq_ok {payment : LiquidSend} {tip : BlockHeight} {first : Vtxo}
    {policy : ServerHtlcSendVtxoPolicy} {res : LiquidPaymentResult} {status : PaymentStatus}
    (htip : env.tip = .ok tip) (hfirst : payment.htlcVtxos.head? = some first)
    (hpolicy : first.policy = .serverHtlcSend policy) (hsrv : env.requireServer = .ok ())
    (hres : env.checkLiquidPayment ⟨policy.paymentHash, false⟩ = .ok res)
    (hstatus : PaymentStatus.tryFrom res.status = .ok status) (s : WalletState) :
    checkStatus env payment s = .ok ⟨tip, first, policy, status⟩
      { s with sent := s.sent ++ [.check ⟨policy.paymentHash, false⟩] } := by
  simp [checkStatus, htip, hfirst, hpolicy, hsrv, hres, hstatus, VtxoPolicy.asServerHtlcSend]

theorem revocationPlan_of_ok {payment : LiquidSend} {s s₁ : WalletState} {vtxos : List Vtxo}
    {effective : Int} (h : revocationVtxos env payment s = .ok (vtxos, effective) s₁) :
    revocationPlan env payment s = revocationWrites payment vtxos effective := by
  simp only [revocationPlan, h]

/-- **Spec of a revocation.** It leaves the store as after a prefix of its five writes, all of
    them exactly when it returns. -/
theorem processLiquidRevocation_writes (payment : LiquidSend) (s : WalletState) :
    ∃ k ≤ 5, (resultState (processLiquidRevocation env payment s)).db =
        s.db.applyAll ((revocationPlan env payment s).take k) ∧
      ((∃ s', processLiquidRevocation env payment s = .ok () s') ↔ k = 5) := by
  have hkeep : (resultState (revocationVtxos env payment s)).db = s.db :=
    revocationVtxos_keeps env payment s
  rw [processLiquidRevocation, bind_apply]
  cases h : revocationVtxos env payment s with
  | error e s₁ =>
    rw [h] at hkeep
    exact ⟨0, Nat.zero_le _, hkeep, by simp⟩
  | ok out s₁ =>
    obtain ⟨vtxos, effective⟩ := out
    rw [h] at hkeep
    obtain ⟨k, hk, hs, hok⟩ := forM_write env (revocationWrites payment vtxos effective) s₁
    refine ⟨k, hk, ?_, hok⟩
    rw [hs, revocationPlan_of_ok env h]
    exact congrArg (WalletDb.applyAll · _) hkeep

/-- **A revocation that returned** made all five of its writes, for the VTXOs the server
    cosigned. -/
theorem processLiquidRevocation_ok {payment : LiquidSend} {s s' : WalletState}
    (h : processLiquidRevocation env payment s = .ok () s') :
    ∃ vtxos effective s₁, revocationVtxos env payment s = .ok (vtxos, effective) s₁ ∧
      s'.db = s.db.applyAll (revocationWrites payment vtxos effective) := by
  obtain ⟨k, -, hs, hok⟩ := processLiquidRevocation_writes env payment s
  rw [hok.mp ⟨s', h⟩, h, resultState_ok] at hs
  cases hr : revocationVtxos env payment s with
  | error e s₁ => simp [processLiquidRevocation, hr] at h
  | ok out s₁ =>
    refine ⟨out.1, out.2, s₁, rfl, ?_⟩
    rwa [revocationPlan_of_ok env hr, List.take_of_length_le (by simp [revocationWrites])] at hs

/-- **What a whole revocation leaves**: every stored HTLC VTXO of the payment `Spent`, the payment's
    row removed and nothing else of the table changed, and the movement finished `Failed`. -/
theorem revocationWrites_settle (payment : LiquidSend) (vtxos : List Vtxo) (effective : Int)
    (db : WalletDb) :
    (∀ v ∈ payment.htlcVtxos, ∀ w,
      (db.applyAll (revocationWrites payment vtxos effective)).vtxos v.id = some w →
        w.state = .spent) ∧
    (db.applyAll (revocationWrites payment vtxos effective)).liquidSends =
      Function.update db.liquidSends payment.paymentHash none ∧
    .finished payment.movementId .failed ∈
      (db.applyAll (revocationWrites payment vtxos effective)).movements := by
  refine ⟨fun v hv w hw => ?_, rfl, by simp [revocationWrites, WalletDb.apply]⟩
  simp only [revocationWrites, WalletDb.applyAll_cons, WalletDb.applyAll_nil, WalletDb.apply,
    markSpent] at hw
  rw [if_pos (List.mem_map_of_mem _ hv)] at hw
  obtain ⟨_, -, rfl⟩ := Option.map_eq_some'.mp hw
  rfl

theorem exitFallback_of_not_expiring {payment : LiquidSend} {tip : BlockHeight} {first : Vtxo}
    (h : ¬ tip > minExpiry first payment.htlcVtxos - env.vtxoRefreshExpiryThreshold)
    (s : WalletState) : exitFallback env payment tip first s = .ok () s := by
  rw [exitFallback, if_neg h]
  rfl

/-- **Spec of the exit fallback.** A prefix of its planned writes; the first one (the HTLC VTXOs
    marked for exit) is made when some HTLC VTXO expires soon and the exit subsystem accepts it. -/
theorem exitFallback_writes (payment : LiquidSend) (tip : BlockHeight) (first : Vtxo)
    (s : WalletState) :
    ∃ j ≤ 3, (resultState (exitFallback env payment tip first s)).db =
        s.db.applyAll ((exitPlan env payment tip first).take j) ∧
      (tip > minExpiry first payment.htlcVtxos - env.vtxoRefreshExpiryThreshold →
        env.fault (.markVtxosForExit payment.htlcVtxos) = none → 1 ≤ j) := by
  by_cases hc : tip > minExpiry first payment.htlcVtxos - env.vtxoRefreshExpiryThreshold
  swap
  · exact ⟨0, Nat.zero_le _, by rw [exitFallback_of_not_expiring env hc]; rfl, fun h => absurd h hc⟩
  rw [exitPlan, if_pos hc, exitFallback, if_pos hc, bind_apply,
    write_of_touchesRows (.markVtxosForExit _) rfl]
  cases hf : env.fault (.markVtxosForExit payment.htlcVtxos) with
  | some e => exact ⟨0, Nat.zero_le _, rfl, fun _ h => nomatch h⟩
  | none =>
    simp only [bind_apply]
    cases ha : toSigned payment.amount with
    | error e => exact ⟨1, by omega, rfl, fun _ _ => le_rfl⟩
    | ok amount =>
      cases hx : toSigned (payment.htlcVtxos.map (·.amount)).sum with
      | error e => exact ⟨1, by omega, rfl, fun _ _ => le_rfl⟩
      | ok exited =>
        have heff : -amount + exited = exitEffective payment := by
          rw [toSigned_eq_ok ha, toSigned_eq_ok hx, exitEffective]
        obtain ⟨j, hj, hs, -⟩ := forM_write env (exitMovementWrites payment (-amount + exited))
          { s with db := s.db.apply (.markVtxosForExit payment.htlcVtxos) }
        refine ⟨j + 1, by simp [exitMovementWrites] at hj ⊢; omega, ?_, fun _ _ => by omega⟩
        simp only [liftExcept_ok, hs, exitWrites, ← heff]
        rfl

/-- **A revocation that failed**, then the exit fallback: the revocation stopped before its last
    write, and the fallback made a prefix of its own. -/
theorem revokeOrExit_of_error {payment : LiquidSend} {tip : BlockHeight} {first : Vtxo}
    {s s₂ : WalletState} {e : String} (h : processLiquidRevocation env payment s = .error e s₂) :
    ∃ k j, k < 5 ∧ (resultState (revokeOrExit env payment tip first s)).db =
      s.db.applyAll ((revocationPlan env payment s).take k ++ (exitPlan env payment tip first).take j) := by
  obtain ⟨k, hk, hs, hok⟩ := processLiquidRevocation_writes env payment s
  obtain ⟨j, -, hj, -⟩ := exitFallback_writes env payment tip first s₂
  rw [h, resultState_error] at hs
  refine ⟨k, j, lt_of_le_of_ne hk fun h5 => ?_, ?_⟩
  · obtain ⟨_, h'⟩ := hok.mpr h5
    rw [h] at h'
    cases h'
  · rw [revokeOrExit, onError_apply, h, hj, hs, WalletDb.applyAll_append]

/-- **Spec of `revokeOrExit`.** -/
theorem revokeOrExit_revokes (payment : LiquidSend) (tip : BlockHeight) (first : Vtxo)
    (s : WalletState) :
    RevokeOutcome env payment tip first s (resultState (revokeOrExit env payment tip first s)).db := by
  cases h : processLiquidRevocation env payment s with
  | ok _ s₂ =>
    obtain ⟨vtxos, effective, s₁, hr, hdb⟩ := processLiquidRevocation_ok env h
    refine .inl ⟨vtxos, effective, s₁, hr, ?_⟩
    rw [revokeOrExit, onError_apply, h, resultState_ok, hdb]
  | error e s₂ => exact .inr (revokeOrExit_of_error env h)

/-- The exit fallback, once it has marked the HTLC VTXOs for exit, leaves them marked. -/
theorem exitFallback_marks (payment : LiquidSend) (tip : BlockHeight) (first : Vtxo)
    (s : WalletState)
    (hc : tip > minExpiry first payment.htlcVtxos - env.vtxoRefreshExpiryThreshold)
    (hf : env.fault (.markVtxosForExit payment.htlcVtxos) = none) :
    ∀ v ∈ payment.htlcVtxos, v ∈ (resultState (exitFallback env payment tip first s)).db.exitVtxos := by
  obtain ⟨j, -, hj, hone⟩ := exitFallback_writes env payment tip first s
  obtain ⟨i, rfl⟩ : ∃ i, j = i + 1 := ⟨j - 1, by have := hone hc hf; omega⟩
  intro v hv
  rw [hj, exitPlan, if_pos hc]
  rcases i with _ | _ | i <;> simp [exitWrites, exitMovementWrites, WalletDb.apply, hv]

/-- **Spec of the branch on the server's status.** -/
theorem applyPaymentStatus_outcome (payment : LiquidSend) (reply : StatusReply) (s : WalletState) :
    StatusOutcome env payment reply s (resultState (applyPaymentStatus env payment reply s)).db := by
  unfold applyPaymentStatus
  rcases hst : reply.status with _ | _ | _
  · by_cases hexp : reply.tip > reply.policy.htlcExpiry
    · rw [if_pos hexp]
      exact .inr (.inl ⟨.inr ⟨hst, hexp⟩, revokeOrExit_revokes env payment _ _ s⟩)
    · rw [if_neg hexp]
      exact .inr (.inr ⟨hst, Nat.le_of_not_gt hexp, rfl⟩)
  · obtain ⟨k, -, hs, -⟩ := forM_write env (completionWrites payment) s
    exact .inl ⟨hst, k, by rw [hs]⟩
  · exact .inr (.inl ⟨.inl hst, revokeOrExit_revokes env payment _ _ s⟩)

/-! ### The requests to the server's tracker -/

/-- A status query sends one tracker request, the check request, unless it fails before. -/
theorem checkStatus_tracker (payment : LiquidSend) :
    ChangesBy WalletState.trackerRequests (fun l l' => ∃ r, l' = l ++ [r])
      (checkStatus env payment) :=
  (keeps_liftExcept _).bind_changesBy fun _ => (keeps_contextOpt _ _).bind_changesBy fun _ =>
  (keeps_contextOpt _ _).bind_changesBy fun _ => (keeps_liftExcept _).bind_changesBy fun _ =>
  ChangesBy.bind_keeps (fun _ => .inr ⟨_, by
      simp [WalletState.trackerRequests, List.filter_append, ServerRequest.tracked]; rfl⟩) fun _ =>
  (keeps_liftExcept _).bind fun _ => (keeps_liftExcept _).bind fun _ => keeps_pure _

/-- The branch on the server's status sends no tracker request: only, perhaps, the revocation's. -/
theorem applyPaymentStatus_keeps_tracker (payment : LiquidSend) (reply : StatusReply) :
    Keeps WalletState.trackerRequests (applyPaymentStatus env payment reply) := by
  have hwrites : ∀ ws : List WalletWrite, Keeps WalletState.trackerRequests (ws.forM (write env)) :=
    keeps_forM fun w => keeps_write w fun _ => by rfl
  have hrevoke : ∀ tip first, Keeps WalletState.trackerRequests (revokeOrExit env payment tip first) :=
    fun tip first => keeps_onError
      ((revocationVtxos_keeps_of env (fun s req => by
          simp [WalletState.trackerRequests, ServerRequest.tracked]) payment).bind fun _ => hwrites _)
      fun _ => by
        unfold exitFallback
        split
        · exact (keeps_write _ fun _ => by rfl).bind fun _ => (keeps_liftExcept _).bind fun _ =>
            (keeps_liftExcept _).bind fun _ => hwrites _
        · exact keeps_pure _
  unfold applyPaymentStatus
  split
  · exact hrevoke _ _
  · split
    · exact hrevoke _ _
    · exact keeps_pure _
  · exact hwrites _

/-- **A check sends at most one tracker request.** -/
theorem checkLiquidPayment_tracker (payment : LiquidSend) :
    ChangesBy WalletState.trackerRequests (fun l l' => ∃ r, l' = l ++ [r])
      (checkLiquidPayment env payment) :=
  (checkStatus_tracker env payment).bind_keeps fun reply =>
    (applyPaymentStatus_keeps_tracker env payment reply).bind fun _ => keeps_pure _

end Specs

/-! ## One run of `check_liquid_payment` -/

theorem resultState_bind_pure {α β : Type} (x : WalletM α) (b : β) (s : WalletState) :
    resultState ((x >>= fun _ => pure b) s) = resultState (x s) := by
  rw [bind_apply]
  cases x s <;> rfl

/-- **A check is its status query, then the branch on the reply.** When the query fails the call
    ends in the state it left. -/
theorem checkLiquidPayment_split (env : WalletEnv) (payment : LiquidSend) (s : WalletState) :
    (∃ e s₁, checkStatus env payment s = .error e s₁ ∧
      resultState (checkLiquidPayment env payment s) = s₁) ∨
    ∃ reply s₁, checkStatus env payment s = .ok reply s₁ ∧
      resultState (checkLiquidPayment env payment s) =
        resultState (applyPaymentStatus env payment reply s₁) := by
  rw [checkLiquidPayment, bind_apply]
  cases checkStatus env payment s with
  | error e s₁ => exact .inl ⟨e, s₁, rfl, rfl⟩
  | ok reply s₁ => exact .inr ⟨reply, s₁, rfl, resultState_bind_pure _ _ _⟩

/-- **What one run of `check_liquid_payment` leaves behind.** Under every outcome of every external
    call, the store ends as it was when the status query fails; otherwise, on `Complete`, as after a
    prefix of the completion's writes; when `should_revoke`, as after all of the revocation's writes
    for the VTXOs the server cosigned, or a prefix of them that stopped before the last followed by
    a prefix of the exit fallback's writes at the call's tip; on `Pending` before the expiry, as it
    was. -/
theorem checkLiquidPayment_one_write_prefix (env : WalletEnv) (payment : LiquidSend)
    (s : WalletState) :
    CheckOutcome env payment s (resultState (checkLiquidPayment env payment s)).db := by
  rcases checkLiquidPayment_split env payment s with ⟨e, s₁, h, hr⟩ | ⟨reply, s₁, h, hr⟩
  · have hkeep := checkStatus_keeps env payment s
    rw [h, resultState_error] at hkeep
    exact .inl ⟨e, s₁, h, by rw [hr]; exact hkeep⟩
  · exact .inr ⟨reply, s₁, h, hr ▸ applyPaymentStatus_outcome env payment reply s₁⟩

/-- The HTLC output of the payment `demoPaid` made. -/
def demoHtlc : Vtxo := ⟨10, 40000, .serverHtlcSend ⟨100, 7, 800⟩, 900, "oor"⟩

/-- The `LiquidSend` record of that payment. -/
def demoSend : LiquidSend := ⟨"addr", 7, 40000, [demoHtlc], 0⟩

/-- **A check that revokes too little.** From one payment's state, the revocation stores the
    revoked VTXO 20 spendable and then fails to mark the HTLC VTXO spent; the exit fallback then
    marks the HTLC VTXO for exit as well. -/
theorem exit_after_partial_revocation :
    let r := checkLiquidPayment
      { demoEnv with
        tip := .ok 950
        checkLiquidPayment := fun req => .ok ⟨"Payment failed", PaymentStatus.failed.toI32, req.hash⟩
        fault := fun w => if w = .markVtxosAsSpent [10] then some "database is locked" else none }
      demoSend demoPaid
    ((resultState r).db.vtxos 20).map (·.state) = some .spendable ∧
      demoHtlc ∈ (resultState r).db.exitVtxos ∧ (resultState r).db.liquidSends 7 ≠ none := by
  decide

/-- **When the server's status calls for a revocation**, the call revokes the HTLC VTXOs: it makes
    all of the revocation's writes, so that every stored HTLC VTXO is `Spent` and the row is gone.
    Or, when the revocation fails, it marks them for exit exactly when some HTLC VTXO expires within
    the refresh threshold of the tip (and the exit subsystem accepts them). -/
theorem checkLiquidPayment_revokes_or_exits (env : WalletEnv) (payment : LiquidSend)
    (s : WalletState) {first : Vtxo} {rest : List Vtxo} {policy : ServerHtlcSendVtxoPolicy}
    {res : LiquidPaymentResult} {status : PaymentStatus} {tip : BlockHeight}
    (hvtxos : payment.htlcVtxos = first :: rest) (hpolicy : first.policy = .serverHtlcSend policy)
    (htip : env.tip = .ok tip) (hserver : env.requireServer = .ok ())
    (hreply : env.checkLiquidPayment ⟨policy.paymentHash, false⟩ = .ok res)
    (hstatus : PaymentStatus.tryFrom res.status = .ok status) (hcomplete : status ≠ .complete)
    (hexpiry : tip > policy.htlcExpiry)
    (hexit : env.fault (.markVtxosForExit payment.htlcVtxos) = none) :
    let s₁ : WalletState := { s with sent := s.sent ++ [.check ⟨policy.paymentHash, false⟩] }
    let r := checkLiquidPayment env payment s
    (∃ s₂, processLiquidRevocation env payment s₁ = .ok () s₂ ∧ r = .ok none s₂ ∧
      s₂.db = s.db.applyAll (revocationPlan env payment s₁) ∧
      (∀ v ∈ payment.htlcVtxos, ∀ w, s₂.db.vtxos v.id = some w → w.state = .spent) ∧
      s₂.db.liquidSends payment.paymentHash = none) ∨
    (∃ e s₂, processLiquidRevocation env payment s₁ = .error e s₂ ∧
      (tip > minExpiry first payment.htlcVtxos - env.vtxoRefreshExpiryThreshold →
        ∀ v ∈ payment.htlcVtxos, v ∈ (resultState r).db.exitVtxos) ∧
      (¬ tip > minExpiry first payment.htlcVtxos - env.vtxoRefreshExpiryThreshold →
        r = .ok none s₂)) := by
  intro s₁ r
  have hst : checkStatus env payment s = .ok ⟨tip, first, policy, status⟩ s₁ := by
    simp [checkStatus, htip, hvtxos, hpolicy, hserver, hreply, hstatus, VtxoPolicy.asServerHtlcSend,
      s₁]
  have hbranch : applyPaymentStatus env payment ⟨tip, first, policy, status⟩ =
      revokeOrExit env payment tip first := by
    cases status with
    | pending => exact if_pos hexpiry
    | complete => exact absurd rfl hcomplete
    | failed => rfl
  have hr : r = match revokeOrExit env payment tip first s₁ with
      | .ok _ s' => .ok none s'
      | .error e s' => .error e s' := by
    simp only [r, checkLiquidPayment, bind_apply, hst, hbranch]
    cases revokeOrExit env payment tip first s₁ <;> rfl
  rw [revokeOrExit, onError_apply] at hr
  cases h : processLiquidRevocation env payment s₁ with
  | ok _ s₂ =>
    obtain ⟨vtxos, effective, _, hrv, hdb⟩ := processLiquidRevocation_ok env h
    have hdb' : s₂.db = s.db.applyAll (revocationWrites payment vtxos effective) := hdb
    obtain ⟨hspent, hrows, -⟩ := revocationWrites_settle payment vtxos effective s.db
    rw [← hdb'] at hspent hrows
    exact .inl ⟨s₂, rfl, by rw [hr, h], by rw [hdb', revocationPlan_of_ok env hrv], hspent,
      by rw [hrows, Function.update_same]⟩
  | error e s₂ =>
    refine .inr ⟨e, s₂, rfl, fun hc v hv => ?_, fun hc => ?_⟩
    · have hm := exitFallback_marks env payment tip first s₂ hc hexit v hv
      rw [hr, h]
      cases hx : exitFallback env payment tip first s₂ <;> simpa [hx] using hm
    · rw [hr, h]
      simp only [exitFallback_of_not_expiring env hc]

/-- The world of `demoEnv` at tip 950, where the server reports the payment `Failed`. -/
def failedEnv : WalletEnv :=
  { demoEnv with
    tip := .ok 950
    checkLiquidPayment := fun req => .ok ⟨"Payment failed", PaymentStatus.failed.toI32, req.hash⟩ }

theorem failed_payment_revoked :
    let s₁ : WalletState :=
      { demoPaid with sent := demoPaid.sent ++ [.check ⟨7, false⟩] }
    let r := checkLiquidPayment failedEnv demoSend demoPaid
    (∃ s₂, processLiquidRevocation failedEnv demoSend s₁ = .ok () s₂ ∧ r = .ok none s₂ ∧
      s₂.db = demoPaid.db.applyAll (revocationPlan failedEnv demoSend s₁) ∧
      (∀ v ∈ demoSend.htlcVtxos, ∀ w, s₂.db.vtxos v.id = some w → w.state = .spent) ∧
      s₂.db.liquidSends demoSend.paymentHash = none) ∨
    (∃ e s₂, processLiquidRevocation failedEnv demoSend s₁ = .error e s₂ ∧
      (950 > minExpiry demoHtlc demoSend.htlcVtxos - failedEnv.vtxoRefreshExpiryThreshold →
        ∀ v ∈ demoSend.htlcVtxos, v ∈ (resultState r).db.exitVtxos) ∧
      (¬ 950 > minExpiry demoHtlc demoSend.htlcVtxos - failedEnv.vtxoRefreshExpiryThreshold →
        r = .ok none s₂)) :=
  @checkLiquidPayment_revokes_or_exits failedEnv demoSend demoPaid demoHtlc [] ⟨100, 7, 800⟩
    ⟨"Payment failed", PaymentStatus.failed.toI32, 7⟩ .failed 950 rfl rfl rfl rfl rfl rfl
    (by decide) (by decide) rfl

/-- **Two inputs where the HTLC VTXO ends neither revoked nor marked for exit.**
    At tip 950 the server answers with an error, and the call returns it before deciding. At tip
    850, on the boundary `900 - 50`, the server reports `Failed` and the revocation fails, and the
    strict comparison keeps the fallback from marking the VTXO for exit. -/
theorem check_leaves_htlc_locked :
    let notFound := checkLiquidPayment
      { demoEnv with tip := .ok 950, checkLiquidPayment := fun _ => .error "Payment not found" }
      demoSend demoPaid
    let boundary := checkLiquidPayment
      { failedEnv with
        tip := .ok 850
        vtxoRefreshExpiryThreshold := 50
        requestLiquidPayHtlcRevocation := fun _ => .error "revocation refused" }
      demoSend demoPaid
    resultValue notFound = .error "Payment not found" ∧
      (resultState notFound).db.exitVtxos = [] ∧
      ((resultState notFound).db.vtxos 10).map (·.state) = some (.locked (some 0)) ∧
      resultValue boundary = .ok none ∧ (resultState boundary).db.exitVtxos = [] ∧
      ((resultState boundary).db.vtxos 10).map (·.state) = some (.locked (some 0)) := by
  decide

end BarkLiquid.Wallet
