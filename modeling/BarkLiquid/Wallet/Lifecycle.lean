import BarkLiquid.Server.Payments
import BarkLiquid.Wallet.Check
import BarkLiquid.Wallet.Concurrent

/-!
# `BarkLiquid.Wallet.Lifecycle` — the row of a payment hash over a whole run of the wallet

A run of the wallet is any sequence of `pay_liquid_address` and `check_liquid_payment` calls, each
in its own world; a check is made on the row stored under its hash, loaded with its HTLC VTXOs
(`get_liquid_send`), and only while that row is unfinished. This module follows the row under one
hash along such a run.

A completion finishes the row with its first write, a revocation removes it with its last, and the
exit fallback leaves it as it is. So each call moves the row of a hash by one `RowStep` at most: a
pay for that hash inserts it where there was none, a check of that hash finishes it on the server's
`Complete` or removes it by a whole revocation, and nothing else changes it. Along a run a finished
row stays as it is, and no check runs on it. The row does not record an exit: a check whose
revocation did not return leaves the row as it was, so after the fallback has marked the HTLC VTXOs
for exit the row is still open, and a later check can revoke the same VTXOs, exit again, or
complete.

The policy of the stored HTLC VTXOs is the one the server returned, whatever hash it names, and a
check asks the server under that hash, not under the hash that keys the row. Against this
repository's server, that hash is the one its RPC handler passes to `cosign_liquid_pay_htlc`
(`Server.cosignLiquidPayHtlc_policy`).

## Contents

* `WalletCall`, `WalletCall.run`, `WalletRun` — the calls, and the runs made of them;
  `executeLiquidCommand`, the call the CLI makes.
* `RowStep`, `RowTrace` — how one call, and a run, may move the row under a hash, with why.
* `applyPaymentStatus_rows`, `check_row_step`, `pay_row_step`, `walletCall_row_step` — the step
  lemmas.
* `liquidSend_row_lifecycle` — along every run the row moves by `RowStep`s, a finished row stays,
  and a check whose revocation did not return leaves the row.
* `check_removes_after_revocation` — a check that removes its row settled the HTLC VTXOs first.
* `walletRun_rows_announced` — along every run, every row has its own initiate request among the
  requests sent to the server's tracker.
* `exit_then_revocation` — an exit and then a revocation of the same HTLC VTXO.
* `check_queries_policy_hash` — a server policy under another hash is stored, and queried.
-/

namespace BarkLiquid.Wallet

/-! ## Calls and runs -/

/-- The `LiquidSend` record of the row under `h`: its HTLC VTXOs loaded from the VTXO store by id
    (an id with no stored VTXO is skipped). -/
def WalletState.loadLiquidSend (s : WalletState) (h : PaymentHash) (row : LiquidSendRow) :
    LiquidSend :=
  ⟨row.liquidAddress, h, row.amount,
    row.htlcVtxoIds.filterMap fun id => (s.db.vtxos id).map (·.vtxo), row.movementId⟩

/-- Modelled from the spec: **`get_liquid_send(payment_hash)`**, the row stored under the hash,
    loaded. -/
def WalletState.getLiquidSend (s : WalletState) (h : PaymentHash) : Option LiquidSend :=
  (s.db.liquidSends h).map (s.loadLiquidSend h)

@[simp] theorem WalletState.loadLiquidSend_paymentHash (s : WalletState) (h : PaymentHash)
    (row : LiquidSendRow) : (s.loadLiquidSend h row).paymentHash = h := rfl

/-- **A call of the wallet's Liquid API**, with the world it runs in. -/
inductive WalletCall where
  | pay (env : WalletEnv) (liquidAddress : String) (amount : Amount) (paymentHash : PaymentHash)
  | check (env : WalletEnv) (paymentHash : PaymentHash)

/-- **One call, run to its end.** A check runs on the row stored under its hash, loaded, and only
    while that row is unfinished; `none` is a check that a run does not make. -/
def WalletCall.run (s : WalletState) : WalletCall → Option WalletState
  | .pay env liquidAddress amount paymentHash =>
    some (resultState ((payLiquidAddress env liquidAddress amount paymentHash).run s))
  | .check env paymentHash =>
    match s.db.liquidSends paymentHash with
    | some row =>
      if row.finished then none
      else some (resultState (checkLiquidPayment env (s.loadLiquidSend paymentHash row) s))
    | none => none

/-- **A run of the wallet**: calls one after another, each one that a run makes. -/
inductive WalletRun : WalletState → List WalletCall → WalletState → Prop
  | nil (s : WalletState) : WalletRun s [] s
  | cons {s s₁ s' : WalletState} {c : WalletCall} {calls : List WalletCall} :
      c.run s = some s₁ → WalletRun s₁ calls s' → WalletRun s (c :: calls) s'

/-- The CLI's `liquid` subcommand: `bark liquid pay <address> [<amount>]`. -/
inductive LiquidCommand where
  | pay (address : String) (amount : Option Amount)

/-- The message of the panic of `Option::unwrap` on `None`. -/
def unwrapNone : String := "called `Option::unwrap()` on a `None` value"

/-- **`execute_liquid_command`**: the wallet call a command makes. `preimageHash` is the hash of
    the fresh random preimage (`Preimage::random().compute_payment_hash()`), which the CLI does not
    keep. Without an amount, `amount.unwrap()` panics before any call, and the wallet is not
    touched. -/
def executeLiquidCommand (env : WalletEnv) (preimageHash : PaymentHash) :
    LiquidCommand → Except String WalletCall
  | .pay address (some amount) => .ok (.pay env address amount preimageHash)
  | .pay _ none => .error unwrapNone

/-- A check the run makes runs on the unfinished row stored under its hash. -/
theorem WalletCall.run_check {env : WalletEnv} {h : PaymentHash} {s s' : WalletState}
    (hs : (WalletCall.check env h).run s = some s') :
    ∃ row, s.db.liquidSends h = some row ∧ row.finished = false ∧
      s' = resultState (checkLiquidPayment env (s.loadLiquidSend h row) s) := by
  simp only [WalletCall.run] at hs
  split at hs
  · rename_i row hrow
    split at hs
    · cases hs
    · rename_i hu
      cases hs
      exact ⟨row, hrow, by simpa using hu, rfl⟩
  · cases hs

/-! ## How the row under a hash moves -/

/-- **How one call may move the row under `h`**, and why. -/
inductive RowStep (h : PaymentHash) : WalletCall → WalletState → WalletState → Prop
  /-- The row is as it was. -/
  | stay {c : WalletCall} {s s' : WalletState} :
      s'.db.liquidSends h = s.db.liquidSends h → RowStep h c s s'
  /-- A pay for `h` inserts an unfinished row where there was none. -/
  | insert {env : WalletEnv} {liquidAddress : String} {amount : Amount} {s s' : WalletState}
      {row : LiquidSendRow} :
      s.db.liquidSends h = none → s'.db.liquidSends h = some row → row.finished = false →
      RowStep h (.pay env liquidAddress amount h) s s'
  /-- A check of `h` finishes the unfinished row on the server's `Complete`: the completion's first
      write. -/
  | finish {env : WalletEnv} {s s' s₁ : WalletState} {row : LiquidSendRow} {reply : StatusReply} :
      s.db.liquidSends h = some row → row.finished = false →
      checkStatus env (s.loadLiquidSend h row) s = .ok reply s₁ → reply.status = .complete →
      s'.db.liquidSends h = some { row with finished := true } →
      RowStep h (.check env h) s s'
  /-- A check of `h` removes the unfinished row when `should_revoke`, by all of the revocation's
      writes for the VTXOs the server cosigned, the last of which removes it. -/
  | remove {env : WalletEnv} {s s' s₁ s₂ : WalletState} {row : LiquidSendRow}
      {reply : StatusReply} {vtxos : List Vtxo} {effective : Int} :
      s.db.liquidSends h = some row → row.finished = false →
      checkStatus env (s.loadLiquidSend h row) s = .ok reply s₁ → reply.ShouldRevoke →
      revocationVtxos env (s.loadLiquidSend h row) s₁ = .ok (vtxos, effective) s₂ →
      s'.db = s₁.db.applyAll (revocationWrites (s.loadLiquidSend h row) vtxos effective) →
      RowStep h (.check env h) s s'

/-- **A run, with the row under `h` moved by one `RowStep` per call.** -/
inductive RowTrace (h : PaymentHash) : WalletState → List WalletCall → WalletState → Prop
  | nil (s : WalletState) : RowTrace h s [] s
  | cons {s s₁ s' : WalletState} {c : WalletCall} {calls : List WalletCall} :
      c.run s = some s₁ → RowStep h c s s₁ → RowTrace h s₁ calls s' → RowTrace h s (c :: calls) s'

/-- A removal leaves no row under `h`: the revocation's last write removes it. -/
theorem revocationWrites_removes {h : PaymentHash} {s : WalletState} {row : LiquidSendRow}
    {vtxos : List Vtxo} {effective : Int} (db : WalletDb) :
    (db.applyAll (revocationWrites (s.loadLiquidSend h row) vtxos effective)).liquidSends h =
      none := by
  rw [(revocationWrites_settle _ _ _ _).2.1, WalletState.loadLiquidSend_paymentHash,
    Function.update_same]

/-- A finished row takes no step but `stay`. -/
theorem RowStep.of_finished {h : PaymentHash} {c : WalletCall} {s s' : WalletState}
    {row : LiquidSendRow} (hs : RowStep h c s s') (hrow : s.db.liquidSends h = some row)
    (hf : row.finished = true) : s'.db.liquidSends h = some row := by
  cases hs with
  | stay he => rw [he, hrow]
  | insert hnone => rw [hrow] at hnone; cases hnone
  | finish hr hu | remove hr hu => rw [hrow] at hr; cases hr; simp [hf] at hu

theorem RowTrace.of_finished {h : PaymentHash} {s s' : WalletState} {calls : List WalletCall}
    (ht : RowTrace h s calls s') {row : LiquidSendRow} (hrow : s.db.liquidSends h = some row)
    (hf : row.finished = true) : s'.db.liquidSends h = some row := by
  induction ht with
  | nil => exact hrow
  | cons _ hs _ ih => exact ih (hs.of_finished hrow hf)

/-- A check keeps the request of every row it leaves: it finishes a row, or removes it. -/
theorem RowStep.check_request {h : PaymentHash} {env : WalletEnv} {paymentHash : PaymentHash}
    {s s' : WalletState} {row : LiquidSendRow} (hs : RowStep h (.check env paymentHash) s s')
    (hrow : s'.db.liquidSends h = some row) :
    ∃ row₀, s.db.liquidSends h = some row₀ ∧ row₀.request h = row.request h := by
  cases hs with
  | stay he => exact ⟨row, he ▸ hrow, rfl⟩
  | finish hr _ _ _ hfin => rw [hfin] at hrow; cases hrow; exact ⟨_, hr, rfl⟩
  | remove _ _ _ _ _ hdb => rw [hdb, revocationWrites_removes] at hrow; cases hrow

/-! ## The rows a check leaves -/

theorem WalletDb.applyAll_liquidSends (db : WalletDb) {ws : List WalletWrite}
    (hws : ∀ w ∈ ws, w.touchesRows = false) : (db.applyAll ws).liquidSends = db.liquidSends := by
  induction ws generalizing db with
  | nil => rfl
  | cons w ws ih =>
    rw [WalletDb.applyAll_cons, ih _ fun w' hw' => hws w' (.tail _ hw'),
      WalletDb.apply_liquidSends _ (hws w (.head _))]

/-- A revocation cut short, before its last write, leaves the rows alone. -/
theorem revocationWrites_take_touchesRows {payment : LiquidSend} {vtxos : List Vtxo}
    {effective : Int} {k : Nat} (hk : k < 5) :
    ∀ w ∈ (revocationWrites payment vtxos effective).take k, w.touchesRows = false := by
  intro w hw
  rw [show k = min k 4 by omega, ← List.take_take] at hw
  have := List.mem_of_mem_take hw
  simp only [revocationWrites, List.take_succ_cons, List.take_zero, List.mem_cons,
    List.not_mem_nil, or_false] at this
  rcases this with rfl | rfl | rfl | rfl <;> rfl

/-- A completion cut anywhere leaves the rows as they were or with the payment's row finished:
    its first write finishes the row, the other two leave it. -/
theorem completionWrites_rows (payment : LiquidSend) (db : WalletDb) (k : Nat) :
    (db.applyAll ((completionWrites payment).take k)).liquidSends = db.liquidSends ∨
      (db.applyAll ((completionWrites payment).take k)).liquidSends =
        finishRow db.liquidSends payment.paymentHash := by
  rcases k with _ | k
  · exact .inl rfl
  · refine .inr ?_
    rw [completionWrites, List.take_succ_cons, WalletDb.applyAll_cons,
      WalletDb.applyAll_liquidSends _ fun w hw => ?_]
    · rfl
    · have := List.mem_of_mem_take hw
      simp only [List.mem_cons, List.mem_singleton, List.not_mem_nil, or_false] at this
      rcases this with rfl | rfl <;> rfl

/-- A revocation cut short, then the exit fallback: none of these writes touches the rows. -/
theorem revocationExit_rows {env : WalletEnv} {payment : LiquidSend} {s : WalletState}
    {tip : BlockHeight} {first : Vtxo} {k : Nat} (hk : k < 5) (j : Nat) (db : WalletDb) :
    (db.applyAll ((revocationPlan env payment s).take k ++
      (exitPlan env payment tip first).take j)).liquidSends = db.liquidSends := by
  refine WalletDb.applyAll_liquidSends _ fun w hw => ?_
  rcases List.mem_append.mp hw with hw | hw
  · unfold revocationPlan at hw
    split at hw
    · exact revocationWrites_take_touchesRows hk w hw
    · simp at hw
  · have := List.mem_of_mem_take hw
    unfold exitPlan at this
    split at this
    · simp only [exitWrites, exitMovementWrites, List.mem_cons, List.not_mem_nil, or_false] at this
      rcases this with rfl | rfl | rfl <;> rfl
    · simp at this

/-- **The rows after the branch on the server's status**, and why: as they were; the payment's
    row finished, on `Complete`; or the revocation's writes all made, when `should_revoke`. -/
theorem applyPaymentStatus_rows (env : WalletEnv) (payment : LiquidSend) (reply : StatusReply)
    (s : WalletState) :
    (resultState (applyPaymentStatus env payment reply s)).db.liquidSends = s.db.liquidSends ∨
    (reply.status = .complete ∧
      (resultState (applyPaymentStatus env payment reply s)).db.liquidSends =
        finishRow s.db.liquidSends payment.paymentHash) ∨
    (reply.ShouldRevoke ∧ ∃ vtxos effective s₂,
      revocationVtxos env payment s = .ok (vtxos, effective) s₂ ∧
      (resultState (applyPaymentStatus env payment reply s)).db =
        s.db.applyAll (revocationWrites payment vtxos effective)) := by
  rcases applyPaymentStatus_outcome env payment reply s with
    ⟨hc, k, hdb⟩ | ⟨hr, hrev | ⟨k, j, hk, hdb⟩⟩ | ⟨-, -, hdb⟩
  · rw [hdb]
    exact (completionWrites_rows payment s.db k).imp_right fun h => .inl ⟨hc, h⟩
  · exact .inr (.inr ⟨hr, hrev⟩)
  · exact .inl (by rw [hdb]; exact revocationExit_rows hk j s.db)
  · exact .inl (by rw [hdb])

/-- **A branch whose revocation did not return leaves the rows**: the revocation stopped before its
    last write, and the exit fallback writes no row. -/
theorem applyPaymentStatus_rows_of_no_revocation {env : WalletEnv} {payment : LiquidSend}
    {reply : StatusReply} {s : WalletState} (hnc : reply.status ≠ .complete)
    (hrev : ∀ s', processLiquidRevocation env payment s ≠ .ok () s') :
    (resultState (applyPaymentStatus env payment reply s)).db.liquidSends = s.db.liquidSends := by
  have hrevoke : ∀ tip first,
      (resultState (revokeOrExit env payment tip first s)).db.liquidSends = s.db.liquidSends := by
    intro tip first
    cases h : processLiquidRevocation env payment s with
    | ok _ s' => exact absurd h (hrev s')
    | error e s₂ =>
      obtain ⟨k, j, hk, hdb⟩ := revokeOrExit_of_error env h
      rw [hdb]
      exact revocationExit_rows hk j s.db
  unfold applyPaymentStatus
  rcases hst : reply.status with _ | _ | _
  · by_cases hexp : reply.tip > reply.policy.htlcExpiry
    · rw [if_pos hexp]
      exact hrevoke _ _
    · rw [if_neg hexp]
      rfl
  · exact absurd hst hnc
  · exact hrevoke _ _

/-- **A completion that no fault stops finishes the row.** -/
theorem checkLiquidPayment_completes {env : WalletEnv} {payment : LiquidSend} {s s₁ : WalletState}
    {reply : StatusReply} (hf : ∀ w, env.fault w = none)
    (hst : checkStatus env payment s = .ok reply s₁) (hc : reply.status = .complete) :
    (resultState (checkLiquidPayment env payment s)).db.liquidSends =
      finishRow s.db.liquidSends payment.paymentHash := by
  obtain ⟨rfl, -⟩ := checkStatus_ok env hst
  have hws : ∀ w ∈ completionWrites payment, ∀ db : WalletDb, db.violation w = none := by
    simp only [completionWrites, List.mem_cons, List.mem_singleton, List.not_mem_nil, or_false]
    rintro w (rfl | rfl | rfl) db <;> rfl
  rw [checkLiquidPayment, bind_apply, hst, resultState_bind_pure]
  simp only [applyPaymentStatus, hc, forM_write_of_no_fault env hf hws]
  rfl

/-- **A revocation that the server cosigns and no fault stops removes the row.** -/
theorem checkLiquidPayment_revokes {env : WalletEnv} {payment : LiquidSend} {s s₁ : WalletState}
    {reply : StatusReply} (hf : ∀ w, env.fault w = none)
    (hst : checkStatus env payment s = .ok reply s₁) (hc : reply.status = .failed)
    (hrev : ∀ s, ∃ out s', revocationVtxos env payment s = .ok out s') :
    (resultState (checkLiquidPayment env payment s)).db.liquidSends =
      Function.update s.db.liquidSends payment.paymentHash none := by
  obtain ⟨rfl, -⟩ := checkStatus_ok env hst
  obtain ⟨⟨vtxos, effective⟩, s₂, hr⟩ :=
    hrev { s with sent := s.sent ++ [.check ⟨reply.policy.paymentHash, false⟩] }
  have hdb : s₂.db = s.db := by
    have := revocationVtxos_keeps env payment
      { s with sent := s.sent ++ [.check ⟨reply.policy.paymentHash, false⟩] }
    rwa [hr] at this
  have hws : ∀ w ∈ revocationWrites payment vtxos effective, ∀ db : WalletDb,
      db.violation w = none := by
    simp only [revocationWrites, List.mem_cons, List.mem_singleton, List.not_mem_nil, or_false]
    rintro w (rfl | rfl | rfl | rfl | rfl) db <;> rfl
  rw [checkLiquidPayment, bind_apply, hst, resultState_bind_pure]
  simp only [applyPaymentStatus, hc, revokeOrExit, onError_apply, processLiquidRevocation,
    bind_apply, hr, forM_write_of_no_fault env hf hws, resultState_ok]
  rw [← hdb]
  rfl

/-! ## Step lemmas -/

section Steps

variable {s s' : WalletState}

theorem check_row_step {env : WalletEnv} {paymentHash : PaymentHash}
    (hs : (WalletCall.check env paymentHash).run s = some s') (h : PaymentHash) :
    RowStep h (.check env paymentHash) s s' := by
  obtain ⟨row, hrow, hu, rfl⟩ := WalletCall.run_check hs
  rcases checkLiquidPayment_split env (s.loadLiquidSend paymentHash row) s with
    ⟨e, s₁, hst, hr⟩ | ⟨reply, s₁, hst, hr⟩
  · have hkeep := checkStatus_keeps env (s.loadLiquidSend paymentHash row) s
    rw [hst, resultState_error] at hkeep
    exact .stay (by rw [hr]; exact congrFun (congrArg WalletDb.liquidSends hkeep) h)
  · obtain ⟨rfl, -⟩ := checkStatus_ok env hst
    rw [hr]
    rcases applyPaymentStatus_rows env _ reply _ with he | ⟨hc, he⟩ |
      ⟨hsr, vtxos, effective, s₂, hrv, hdb⟩
    · exact .stay (congrFun he h)
    · by_cases hh : h = paymentHash
      · subst hh
        exact .finish hrow hu hst hc (by simp [he, finishRow, hrow])
      · exact .stay (by simp [he, finishRow, Function.update_noteq hh])
    · by_cases hh : h = paymentHash
      · subst hh
        exact .remove hrow hu hst hsr hrv hdb
      · exact .stay (by
          rw [hdb, (revocationWrites_settle _ _ _ _).2.1, WalletState.loadLiquidSend_paymentHash,
            Function.update_noteq hh])

theorem pay_row_step {env : WalletEnv} {liquidAddress : String} {amount : Amount}
    {paymentHash : PaymentHash}
    (hs : (WalletCall.pay env liquidAddress amount paymentHash).run s = some s')
    (h : PaymentHash) : RowStep h (.pay env liquidAddress amount paymentHash) s s' := by
  cases hs
  rcases payLiquidAddress_recordsOnce.run s with hr | ⟨-, hnone, row, req, hrow, -, hr⟩ <;>
    simp only [WalletState.recorded, Prod.mk.injEq] at hr
  · exact .stay (congrFun hr.1 h)
  · by_cases hh : h = paymentHash
    · subst hh
      exact .insert hnone (by rw [hr.1, Function.update_same]) hrow
    · exact .stay (by rw [hr.1, Function.update_noteq hh])

/-- **Step lemma.** Each call the run makes moves the row under every hash by one `RowStep`. -/
theorem walletCall_row_step {c : WalletCall} (hs : c.run s = some s') (h : PaymentHash) :
    RowStep h c s s' := by
  cases c with
  | pay => exact pay_row_step hs h
  | check => exact check_row_step hs h

/-- **Run lemma.** Along a run, the row under every hash moves by one `RowStep` per call. -/
theorem walletRun_rowTrace {calls : List WalletCall} (hrun : WalletRun s calls s')
    (h : PaymentHash) : RowTrace h s calls s' := by
  induction hrun with
  | nil => exact .nil _
  | cons hc _ ih => exact .cons hc (walletCall_row_step hc h) ih

/-- **An exit, or a revocation cut short, leaves the row.** A check whose server status is not
    `Complete` and whose revocation, if it ran, did not return leaves the row as it was. -/
theorem check_keeps_row {env : WalletEnv} {h : PaymentHash} {s₁ : WalletState}
    {row : LiquidSendRow} {reply : StatusReply} (hs : (WalletCall.check env h).run s = some s')
    (hrow : s.db.liquidSends h = some row)
    (hst : checkStatus env (s.loadLiquidSend h row) s = .ok reply s₁)
    (hnc : reply.status ≠ .complete)
    (hrev : ∀ s₂, processLiquidRevocation env (s.loadLiquidSend h row) s₁ ≠ .ok () s₂) :
    s'.db.liquidSends h = some row := by
  obtain ⟨row', hrow', -, rfl⟩ := WalletCall.run_check hs
  rw [hrow] at hrow'
  cases hrow'
  rcases checkLiquidPayment_split env (s.loadLiquidSend h row) s with
    ⟨e, s₂, hst', -⟩ | ⟨reply', s₂, hst', hr⟩ <;> rw [hst] at hst' <;> cases hst'
  obtain ⟨rfl, -⟩ := checkStatus_ok env hst
  rw [hr, applyPaymentStatus_rows_of_no_revocation hnc hrev]
  exact hrow

end Steps

/-- **The row of a payment hash along a run.** Along every run of the wallet (any pays and checks,
    in any worlds), the row under each hash moves by one `RowStep` per call: a pay for that hash
    inserts it, unfinished, where there was none; a check of that hash finishes it only on the
    server's `Complete`, and removes it only by a whole revocation when `should_revoke`; every other
    call leaves it. A row that is finished at the start of a run is the same at its end. And a check
    whose status is not `Complete` and whose revocation did not return (an exit, or a revocation
    cut short) leaves the row stored as it was, unfinished. -/
theorem liquidSend_row_lifecycle {s s' : WalletState} {calls : List WalletCall}
    (hrun : WalletRun s calls s') (h : PaymentHash) :
    RowTrace h s calls s' ∧
    (∀ row, s.db.liquidSends h = some row → row.finished = true →
      s'.db.liquidSends h = some row) ∧
    ∀ (env : WalletEnv) (t t' t₁ : WalletState) (row : LiquidSendRow) (reply : StatusReply),
      (WalletCall.check env h).run t = some t' → t.db.liquidSends h = some row →
      checkStatus env (t.loadLiquidSend h row) t = .ok reply t₁ → reply.status ≠ .complete →
      (∀ t₂, processLiquidRevocation env (t.loadLiquidSend h row) t₁ ≠ .ok () t₂) →
      t'.db.liquidSends h = some row := by
  have htrace := walletRun_rowTrace hrun h
  exact ⟨htrace, fun row hrow hf => htrace.of_finished hrow hf,
    fun _ _ _ _ _ _ hc hrow hst hnc hrev => check_keeps_row hc hrow hst hnc hrev⟩

/-- The world of `failedEnv` in which the server refuses to cosign the revocation. -/
def refusedEnv : WalletEnv :=
  { failedEnv with requestLiquidPayHtlcRevocation := fun _ => .error "revocation refused" }

/-- The world of `demoEnv` at tip 950, where the server reports the payment `Complete`. -/
def completeEnv : WalletEnv :=
  { demoEnv with
    tip := .ok 950
    checkLiquidPayment := fun req =>
      .ok ⟨"Payment complete", PaymentStatus.complete.toI32, req.hash⟩ }

/-- The wallet after a check of `demoPaid`'s payment whose revocation the server refuses at tip
    950: the exit fallback marks the HTLC VTXO for exit. -/
def demoExited : WalletState :=
  ((WalletCall.check refusedEnv 7).run demoPaid).getD demoPaid

/-- The wallet after a later check, when the server reports the payment `Complete`. -/
def demoCompleted : WalletState :=
  ((WalletCall.check completeEnv 7).run demoExited).getD demoExited

/-- A pay, an exit that leaves the row open, then a completion that finishes it. -/
theorem exit_then_completion_row :
    (RowTrace 7 demoWallet [.pay demoEnv "addr" 40000 7, .check refusedEnv 7, .check completeEnv 7]
        demoCompleted ∧
      (∀ row, demoWallet.db.liquidSends 7 = some row → row.finished = true →
        demoCompleted.db.liquidSends 7 = some row) ∧
      ∀ (env : WalletEnv) (t t' t₁ : WalletState) (row : LiquidSendRow) (reply : StatusReply),
        (WalletCall.check env 7).run t = some t' → t.db.liquidSends 7 = some row →
        checkStatus env (t.loadLiquidSend 7 row) t = .ok reply t₁ → reply.status ≠ .complete →
        (∀ t₂, processLiquidRevocation env (t.loadLiquidSend 7 row) t₁ ≠ .ok () t₂) →
        t'.db.liquidSends 7 = some row) ∧
    demoHtlc ∈ demoExited.db.exitVtxos ∧
      (demoExited.db.liquidSends 7).map (·.finished) = some false ∧
      (demoCompleted.db.liquidSends 7).map (·.finished) = some true :=
  ⟨liquidSend_row_lifecycle
    (@WalletRun.cons demoWallet demoPaid demoCompleted (.pay demoEnv "addr" 40000 7) _ rfl
      (@WalletRun.cons demoPaid demoExited demoCompleted (.check refusedEnv 7) _ rfl
        (@WalletRun.cons demoExited demoCompleted demoCompleted (.check completeEnv 7) [] rfl
          (.nil _)))) 7, by decide⟩

/-! ## What a removal means -/

/-- **A row is forgotten only once its HTLC VTXOs are settled.** A check that removes the row of
    its hash made the whole revocation first, the removal being its last write: every HTLC VTXO of
    the row is `Spent`, and the payment's movement is finished `Failed`. -/
theorem check_removes_after_revocation {env : WalletEnv} {h : PaymentHash} {s s' : WalletState}
    (hs : (WalletCall.check env h).run s = some s') (hgone : s'.db.liquidSends h = none) :
    ∃ row, s.db.liquidSends h = some row ∧
      (∀ v ∈ (s.loadLiquidSend h row).htlcVtxos, ∀ w, s'.db.vtxos v.id = some w →
        w.state = .spent) ∧
      .finished row.movementId .failed ∈ s'.db.movements := by
  obtain ⟨row, hrow, -, -⟩ := WalletCall.run_check hs
  cases check_row_step hs h with
  | stay he => rw [he, hrow] at hgone; cases hgone
  | finish _ _ _ _ hfin => rw [hfin] at hgone; cases hgone
  | remove hr _ _ _ _ hdb =>
    rw [hrow] at hr
    cases hr
    obtain ⟨hspent, -, hmov⟩ := revocationWrites_settle (s.loadLiquidSend h row) _ _ _
    rw [← hdb] at hspent hmov
    exact ⟨row, hrow, hspent, hmov⟩

/-- The wallet after checking the payment of `demoPaid` when the server reports it `Failed`. -/
def demoRevokedWallet : WalletState :=
  ((WalletCall.check failedEnv 7).run demoPaid).getD demoPaid

theorem failed_check_settles_htlc :
    ∃ row, demoPaid.db.liquidSends 7 = some row ∧
      (∀ v ∈ (demoPaid.loadLiquidSend 7 row).htlcVtxos, ∀ w, demoRevokedWallet.db.vtxos v.id = some w →
        w.state = .spent) ∧
      .finished row.movementId .failed ∈ demoRevokedWallet.db.movements :=
  @check_removes_after_revocation failedEnv 7 demoPaid demoRevokedWallet rfl (by decide)

/-! ## The rows against the requests to the tracker -/

section Announced

variable {s s' : WalletState}

theorem pay_rowsAnnounced {env : WalletEnv} {liquidAddress : String} {amount : Amount}
    {paymentHash : PaymentHash} (hs : s.RowsAnnounced)
    (hp : (WalletCall.pay env liquidAddress amount paymentHash).run s = some s') :
    s'.RowsAnnounced := by
  cases hp
  rcases payLiquidAddress_forwards s with he | ⟨_, _, _, -, -, hf⟩
  · exact hs.congr he
  · exact hs.forwards hf

theorem check_rowsAnnounced {env : WalletEnv} {paymentHash : PaymentHash} (hs : s.RowsAnnounced)
    (hc : (WalletCall.check env paymentHash).run s = some s') : s'.RowsAnnounced := by
  refine hs.of_rows (fun h row hrow => (check_row_step hc h).check_request hrow) ?_
  obtain ⟨row, -, -, rfl⟩ := WalletCall.run_check hc
  rcases checkLiquidPayment_tracker env (s.loadLiquidSend paymentHash row) s with heq | ⟨r, hr⟩
  · exact ⟨[], by rw [heq, List.append_nil]⟩
  · exact ⟨[r], hr⟩

/-- **Step lemma.** Each call keeps every stored row announced. -/
theorem walletCall_rowsAnnounced {c : WalletCall} (hs : s.RowsAnnounced) (hc : c.run s = some s') :
    s'.RowsAnnounced := by
  cases c with
  | pay => exact pay_rowsAnnounced hs hc
  | check => exact check_rowsAnnounced hs hc

/-- **Every row the wallet keeps was announced with its own fields, along every run.** From a
    wallet whose rows were all announced, such as one with no rows, every run of pays and checks,
    in any worlds, ends in a wallet whose every `bark_liquid_send` row has, among the requests sent
    to the server's tracker, the initiate request for the row's hash, address, amount and HTLC
    VTXO ids. -/
theorem walletRun_rows_announced {calls : List WalletCall} (hrun : WalletRun s calls s')
    (hs : s.RowsAnnounced) : s'.RowsAnnounced := by
  induction hrun with
  | nil => exact hs
  | cons hc _ ih => exact ih (walletCall_rowsAnnounced hs hc)

end Announced

theorem pay_then_revocation_announced : demoRevokedWallet.RowsAnnounced :=
  walletRun_rows_announced
    (@WalletRun.cons demoWallet demoPaid demoRevokedWallet (.pay demoEnv "addr" 40000 7)
      [.check failedEnv 7] rfl
      (@WalletRun.cons demoPaid demoRevokedWallet demoRevokedWallet (.check failedEnv 7) [] rfl
        (.nil _)))
    (fun _ _ hr => by simp [demoWallet] at hr)

/-! ## What the row does not record -/

/-- **An exit, and then a revocation of the same HTLC VTXO.** A first check, with the revocation
    refused at tip 950, marks the HTLC VTXO 10 for exit and leaves the row open. A second check,
    which the run may make on that row, revokes the same VTXO: it stores the revoked VTXO 20
    spendable and removes the row. -/
theorem exit_then_revocation :
    let exited := (WalletCall.check refusedEnv 7).run demoPaid
    let revoked := exited.bind fun s => (WalletCall.check failedEnv 7).run s
    exited.map (fun s => decide (demoHtlc ∈ s.db.exitVtxos)) = some true ∧
      exited.map (fun s => (s.db.liquidSends 7).map (·.finished)) = some (some false) ∧
      revoked.map (fun s => (s.db.vtxos 20).map (·.state)) = some (some .spendable) ∧
      revoked.map (fun s => (s.db.liquidSends 7).isNone) = some true := by
  decide

/-! ## The hash the check asks under -/

/-- The world of `demoEnv` in which the server mints the HTLC policy under hash 8. -/
def otherHashEnv : WalletEnv :=
  { demoEnv with
    requestLiquidPayHtlcCosign := fun req =>
      .ok ⟨[.ok 0], .ok (.serverHtlcSend ⟨req.userPubkey, 8, 800⟩)⟩ }

/-- The wallet after a pay under hash 7 in the world `otherHashEnv`. -/
def mismatchPaid : WalletState :=
  resultState ((payLiquidAddress otherHashEnv "addr" 40000 7).run demoWallet)

/-- **A policy under another hash is stored, and queried.** A pay under hash 7, whose cosign reply
    carries a policy for hash 8, stores the row under 7, locks HTLC VTXO 10 with the policy for 8,
    and sends the initiate request for 7; a later check of that row asks the server about hash 8. -/
theorem check_queries_policy_hash :
    (mismatchPaid.db.liquidSends 7).isSome = true ∧
      (mismatchPaid.db.vtxos 10).map (·.vtxo.policy) = some (.serverHtlcSend ⟨100, 8, 800⟩) ∧
      mismatchPaid.initiates = [⟨"addr", 40000, 7, [10], true⟩] ∧
      ((WalletCall.check demoEnv 7).run mismatchPaid).map (fun s => s.sent.getLast?) =
        some (some (.check ⟨8, false⟩)) := by
  decide

end BarkLiquid.Wallet
