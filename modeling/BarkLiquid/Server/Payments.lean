import BarkLiquid.Basic
import Mathlib.Logic.Function.Basic

/-!
# `BarkLiquid.Server.Payments` — the server's payment tracker and its entry points

The faithful layer of `server/src/liquid/mod.rs`. The server keeps `liquid_payments`, a map from
payment hash to `LiquidPayment`, in memory under a mutex held only inside `store_liquid_payment`
and `get_liquid_payment`. Two entry points touch it:

* `initiate_liquid_payment` validates the HTLC VTXOs, records the payment as `Pending`, calls the
  Elements daemon's `sendtoaddress`, and records `Sent` (with the txid) or `Failed`;
* `check_liquid_payment` reads the payment and, when it is `Sent`, asks the daemon for the
  transaction's confirmations and may record `Confirmed`.

A third, `cosign_liquid_pay_htlc`, does not touch it: it mints the HTLC policy from its own
`payment_hash` argument (`cosignLiquidPayHtlc_policy`), which its RPC handler, not among the
sources, chooses.

The first two are cut at their RPC: `initiateBegin`/`initiateEnd` and `checkBegin`/`checkEnd` are
the atomic parts that `Server.Run` interleaves, and `initiateLiquidPayment`/`checkLiquidPayment`
are their sequential compositions. The daemon's side is recorded too: `ServerState.sidechainSends`
is every `sendtoaddress` the server issued, with the payment it was issued for and the answer.

The `wait` flag of both entry points is never read and is left out. The amount is passed to the
daemon as a float in BTC; the model records the payment (in satoshis) instead.
-/

namespace BarkLiquid.Server

/-- The status of a tracked payment. -/
inductive LiquidPaymentStatus where
  | pending
  | sent
  | confirmed
  | failed
deriving DecidableEq, Repr

/-- **In-memory tracking of liquid payments** (one entry of `liquid_payments`). -/
structure LiquidPayment where
  liquidAddress : String
  amount : Amount
  paymentHash : PaymentHash
  htlcVtxoIds : List VtxoId
  status : LiquidPaymentStatus
  liquidTxid : Option String
deriving DecidableEq, Repr

/-- A row of the server's VTXO table, as `get_vtxos_by_id` returns it. -/
structure ServerVtxo where
  vtxo : Vtxo
  spendable : Bool
deriving DecidableEq, Repr

/-- What the server's liquid code reads and never writes: its VTXO table and whether an Elements
    daemon is configured. -/
structure ServerConfig where
  vtxos : VtxoId → Option ServerVtxo
  elementsd : Bool

/-- The mutable state: the `liquid_payments` map, and the sidechain's record of every
    `sendtoaddress` call (the payment it was made for, and the daemon's answer). -/
structure ServerState where
  liquidPayments : PaymentHash → Option LiquidPayment
  sidechainSends : List (LiquidPayment × Except String String)

/-- The state at startup: nothing tracked, nothing sent. -/
def ServerState.init : ServerState := ⟨fun _ => none, []⟩

/-- Server code with Rust's early return on `Err`. -/
abbrev ServerM := EStateM String ServerState

/-! ## The tracker -/

/-- The state after inserting `payment` under its own hash, overwriting any entry. -/
def ServerState.store (s : ServerState) (payment : LiquidPayment) : ServerState :=
  { s with liquidPayments := Function.update s.liquidPayments payment.paymentHash payment }

/-- The state after the sidechain recorded a `sendtoaddress` for `payment` answered by `reply`. -/
def ServerState.recordSend (s : ServerState) (payment : LiquidPayment)
    (reply : Except String String) : ServerState :=
  { s with sidechainSends := s.sidechainSends ++ [(payment, reply)] }

@[simp] theorem ServerState.store_liquidPayments (s : ServerState) (p : LiquidPayment) :
    (s.store p).liquidPayments = Function.update s.liquidPayments p.paymentHash p := rfl

@[simp] theorem ServerState.store_sidechainSends (s : ServerState) (p : LiquidPayment) :
    (s.store p).sidechainSends = s.sidechainSends := rfl

@[simp] theorem ServerState.recordSend_liquidPayments (s : ServerState) (p : LiquidPayment)
    (r : Except String String) : (s.recordSend p r).liquidPayments = s.liquidPayments := rfl

@[simp] theorem ServerState.recordSend_sidechainSends (s : ServerState) (p : LiquidPayment)
    (r : Except String String) :
    (s.recordSend p r).sidechainSends = s.sidechainSends ++ [(p, r)] := rfl

/-- `store_liquid_payment`: insert under the payment's own hash, overwriting any entry. -/
def storeLiquidPayment (payment : LiquidPayment) : ServerM Unit :=
  modify (·.store payment)

/-- `get_liquid_payment`, with the `"Payment not found"` context. -/
def getLiquidPayment (paymentHash : PaymentHash) : ServerM LiquidPayment := do
  contextOpt "Payment not found" ((← get).liquidPayments paymentHash)

@[simp] theorem storeLiquidPayment_apply (p : LiquidPayment) (s : ServerState) :
    storeLiquidPayment p s = .ok () (s.store p) := rfl

theorem getLiquidPayment_apply (h : PaymentHash) (s : ServerState) :
    getLiquidPayment h s = match s.liquidPayments h with
      | some p => .ok p s
      | none => .error "Payment not found" s := by
  simp only [getLiquidPayment, bind_apply, get_apply]
  cases s.liquidPayments h <;> rfl

/-! ## `initiate_liquid_payment` -/

/-- Modelled from the spec: `get_vtxos_by_id` (the server database, not under src/) fetches each
    id in order and fails on an unknown one. -/
def getVtxosById (cfg : ServerConfig) : List VtxoId → Except String (List ServerVtxo)
  | [] => .ok []
  | id :: ids => match cfg.vtxos id with
    | none => .error "vtxo not found"
    | some v => (getVtxosById cfg ids).map (v :: ·)

/-- The validation loop (lines 91–103): every VTXO spendable, every policy `ServerHtlcSend`.
    The payment-hash comparison is commented out in the source and absent here. -/
def validateHtlcVtxos : List ServerVtxo → Except String Unit
  | [] => .ok ()
  | v :: vs =>
    if !v.spendable then .error "input vtxo is already spent"
    else match v.vtxo.policy.asServerHtlcSend with
      | none => .error "VTXO is not a ServerHtlcSend policy"
      | some _ => validateHtlcVtxos vs

/-- The part of `initiate_liquid_payment` before the `sendtoaddress` call (lines 85–116): check
    for a daemon, validate the VTXOs, record the payment as `Pending`. -/
def initiateBegin (cfg : ServerConfig) (liquidAddress : String) (amount : Amount)
    (paymentHash : PaymentHash) (htlcVtxoIds : List VtxoId) : ServerM LiquidPayment := do
  if !cfg.elementsd then throw "No Elements daemon configured for liquid payments"
  let htlcVtxos ← liftExcept (getVtxosById cfg htlcVtxoIds)
  liftExcept (validateHtlcVtxos htlcVtxos)
  let payment : LiquidPayment :=
    { liquidAddress, amount, paymentHash, htlcVtxoIds, status := .pending, liquidTxid := none }
  storeLiquidPayment payment
  pure payment

/-- The daemon's `sendtoaddress`: it answers `reply`, and the sidechain records the call. -/
def sendtoaddress (payment : LiquidPayment) (reply : Except String String) :
    ServerM (Except String String) := do
  modify (·.recordSend payment reply)
  pure reply

/-- The part after `sendtoaddress` returned (lines 127–156): record `Sent` with the txid, or
    `Failed`, and answer. The answer is never `Complete`. -/
def initiateEnd (payment : LiquidPayment) : Except String String → ServerM LiquidPaymentResult
  | .ok txid => do
    storeLiquidPayment { payment with status := .sent, liquidTxid := some txid }
    pure ⟨"Payment sent to liquid address. txid: " ++ txid, PaymentStatus.pending.toI32,
      payment.paymentHash⟩
  | .error e => do
    storeLiquidPayment { payment with status := .failed }
    pure ⟨"Payment failed: " ++ e, PaymentStatus.failed.toI32, payment.paymentHash⟩

/-- **`Server::initiate_liquid_payment`**, run without interruption; `reply` is what the daemon
    answers to `sendtoaddress`. -/
def initiateLiquidPayment (cfg : ServerConfig) (reply : Except String String)
    (liquidAddress : String) (amount : Amount) (paymentHash : PaymentHash)
    (htlcVtxoIds : List VtxoId) : ServerM LiquidPaymentResult := do
  let payment ← initiateBegin cfg liquidAddress amount paymentHash htlcVtxoIds
  let sent ← sendtoaddress payment reply
  initiateEnd payment sent

/-! ## `check_liquid_payment` -/

/-- Where `check_liquid_payment` stands after reading the payment: it answers at once, or it
    asks the daemon for the transaction `txid` of the `Sent` payment it read. -/
inductive CheckProgress where
  | answer (r : LiquidPaymentResult)
  | gettransaction (payment : LiquidPayment) (txid : String)

/-- The arms of the status match (lines 168–246) up to the `gettransaction` call: every arm
    answers at once except a `Sent` payment with a daemon and a txid. -/
def checkPaymentStatus (cfg : ServerConfig) (paymentHash : PaymentHash) (payment : LiquidPayment) :
    CheckProgress :=
  match payment.status with
  | .pending => .answer ⟨"Payment is pending", PaymentStatus.pending.toI32, paymentHash⟩
  | .sent =>
    if cfg.elementsd then
      match payment.liquidTxid with
      | some txid => .gettransaction payment txid
      | none => .answer ⟨"Payment sent but no txid available", PaymentStatus.pending.toI32,
          paymentHash⟩
    else .answer ⟨"No Elements daemon available", PaymentStatus.failed.toI32, paymentHash⟩
  | .confirmed => .answer ⟨"Payment confirmed", PaymentStatus.complete.toI32, paymentHash⟩
  | .failed => .answer ⟨"Payment failed", PaymentStatus.failed.toI32, paymentHash⟩

/-- The part of `check_liquid_payment` up to the `gettransaction` call: read the payment (lines
    165–166), then match on its status. -/
def checkBegin (cfg : ServerConfig) (paymentHash : PaymentHash) : ServerM CheckProgress := do
  let payment ← getLiquidPayment paymentHash
  pure (checkPaymentStatus cfg paymentHash payment)

/-- The part after `gettransaction` returned (lines 182–215). The reply is the transaction's
    `confirmations` field, `none` when it is missing or not a `u64`. The payment written back as
    `Confirmed` is the snapshot read before the call. -/
def checkEnd (paymentHash : PaymentHash) (payment : LiquidPayment) :
    Except String (Option Nat) → ServerM LiquidPaymentResult
  | .ok confirmations =>
    let confs := confirmations.getD 0
    if confs ≥ 1 then do
      storeLiquidPayment { payment with status := .confirmed }
      pure ⟨"Payment confirmed with " ++ toString confs ++ " confirmations",
        PaymentStatus.complete.toI32, paymentHash⟩
    else pure ⟨"Payment sent, waiting for confirmation (" ++ toString confs ++ " confs)",
      PaymentStatus.pending.toI32, paymentHash⟩
  | .error e => pure ⟨"Error checking transaction: " ++ e, PaymentStatus.pending.toI32, paymentHash⟩

/-- **`Server::check_liquid_payment`**, run without interruption; `reply` is what the daemon
    answers to `gettransaction` if it is asked. -/
def checkLiquidPayment (cfg : ServerConfig) (reply : Except String (Option Nat))
    (paymentHash : PaymentHash) : ServerM LiquidPaymentResult := do
  match ← checkBegin cfg paymentHash with
  | .answer r => pure r
  | .gettransaction payment _ => checkEnd paymentHash payment reply

/-! ## What each part does -/

/-- One id passes the checks of `initiate_liquid_payment`: it names a spendable VTXO of the table
    whose policy is `ServerHtlcSend`. -/
def htlcVtxoOk (cfg : ServerConfig) (id : VtxoId) : Bool :=
  match cfg.vtxos id with
  | some v => v.spendable && (v.vtxo.policy.asServerHtlcSend).isSome
  | none => false

/-- **What `initiate_liquid_payment` accepts**: a configured daemon, and every id passing
    `htlcVtxoOk`. Nothing about the list being nonempty, the policies' payment hash or amounts. -/
def InitiateValid (cfg : ServerConfig) (htlcVtxoIds : List VtxoId) : Prop :=
  cfg.elementsd = true ∧ ∀ id ∈ htlcVtxoIds, htlcVtxoOk cfg id = true

instance (cfg : ServerConfig) (ids : List VtxoId) : Decidable (InitiateValid cfg ids) :=
  inferInstanceAs (Decidable (_ ∧ _))

/-- Modelled from the spec: **the payment-hash comparison** that the spec requires of
    `initiate_liquid_payment` and that the source leaves commented out (lines 99–101): every id
    names a VTXO whose `ServerHtlcSend` policy is for the request's hash. -/
def HashesMatch (cfg : ServerConfig) (paymentHash : PaymentHash) (htlcVtxoIds : List VtxoId) :
    Prop :=
  ∀ id ∈ htlcVtxoIds,
    ((cfg.vtxos id).bind (·.vtxo.policy.asServerHtlcSend)).map (·.paymentHash) = some paymentHash

instance (cfg : ServerConfig) (h : PaymentHash) (ids : List VtxoId) :
    Decidable (HashesMatch cfg h ids) :=
  inferInstanceAs (Decidable (∀ id ∈ ids, _))

/-- The fetch and the loop succeed exactly on ids that all pass `htlcVtxoOk`. -/
theorem validate_ok_iff (cfg : ServerConfig) (ids : List VtxoId) :
    (∃ vs, getVtxosById cfg ids = .ok vs ∧ validateHtlcVtxos vs = .ok ()) ↔
      ∀ id ∈ ids, htlcVtxoOk cfg id = true := by
  induction ids with
  | nil => simp [getVtxosById, validateHtlcVtxos]
  | cons id ids ih =>
    rw [List.forall_mem_cons, ← ih]
    simp only [getVtxosById, htlcVtxoOk]
    cases cfg.vtxos id with
    | none => simp
    | some v =>
      cases hg : getVtxosById cfg ids <;>
        cases hs : v.spendable <;> cases hp : v.vtxo.policy.asServerHtlcSend <;>
          simp [Except.map, validateHtlcVtxos, hs, hp]

/-- **`initiateBegin` on an accepted request** records the payment as `Pending`. -/
theorem initiateBegin_of_valid {cfg : ServerConfig} {a : String} {amt : Amount} {h : PaymentHash}
    {ids : List VtxoId} (s : ServerState) (hv : InitiateValid cfg ids) :
    initiateBegin cfg a amt h ids s =
      .ok ⟨a, amt, h, ids, .pending, none⟩ (s.store ⟨a, amt, h, ids, .pending, none⟩) := by
  obtain ⟨hd, hids⟩ := hv
  obtain ⟨vs, hg, hval⟩ := (validate_ok_iff cfg ids).2 hids
  simp [initiateBegin, hd, hg, hval]

/-- **`initiateBegin` on a rejected request** fails and changes nothing. -/
theorem initiateBegin_of_invalid {cfg : ServerConfig} (a : String) (amt : Amount)
    (h : PaymentHash) {ids : List VtxoId} (s : ServerState) (hv : ¬ InitiateValid cfg ids) :
    ∃ e, initiateBegin cfg a amt h ids s = .error e s := by
  cases hd : cfg.elementsd
  · simp [initiateBegin, hd]
  · rw [InitiateValid, ← validate_ok_iff] at hv
    cases hg : getVtxosById cfg ids with
    | error e => simp [initiateBegin, hd, hg]
    | ok vs =>
      cases hval : validateHtlcVtxos vs with
      | error e => simp [initiateBegin, hd, hg, hval]
      | ok u => exact absurd ⟨hd, vs, hg, hval⟩ hv

@[simp] theorem sendtoaddress_apply (p : LiquidPayment) (r : Except String String)
    (s : ServerState) :
    sendtoaddress p r s = .ok r (s.recordSend p r) := rfl

@[simp] theorem initiateEnd_ok (p : LiquidPayment) (txid : String) (s : ServerState) :
    initiateEnd p (.ok txid) s =
      .ok ⟨"Payment sent to liquid address. txid: " ++ txid, PaymentStatus.pending.toI32,
        p.paymentHash⟩ (s.store { p with status := .sent, liquidTxid := some txid }) := rfl

@[simp] theorem initiateEnd_error (p : LiquidPayment) (e : String) (s : ServerState) :
    initiateEnd p (.error e) s =
      .ok ⟨"Payment failed: " ++ e, PaymentStatus.failed.toI32, p.paymentHash⟩
        (s.store { p with status := .failed }) := rfl

theorem checkBegin_apply (cfg : ServerConfig) (h : PaymentHash) (s : ServerState) :
    checkBegin cfg h s = match s.liquidPayments h with
      | some p => .ok (checkPaymentStatus cfg h p) s
      | none => .error "Payment not found" s := by
  simp only [checkBegin, bind_apply, getLiquidPayment_apply]
  cases s.liquidPayments h <;> rfl

/-- The status match asks the daemon exactly for a `Sent` payment with a txid, when there is a
    daemon. -/
theorem checkPaymentStatus_eq_gettransaction {cfg : ServerConfig} {h : PaymentHash}
    {p q : LiquidPayment} {txid : String} :
    checkPaymentStatus cfg h p = .gettransaction q txid ↔
      cfg.elementsd = true ∧ p.status = .sent ∧ p.liquidTxid = some txid ∧ p = q := by
  rcases p with ⟨a, amt, ph, ids, st, tx⟩
  cases st <;> cases hd : cfg.elementsd <;> cases tx <;>
    simp [checkPaymentStatus, hd, and_comm]

/-- **`checkEnd` answers `Complete` or `Pending`**, and at most writes the snapshot back as
    `Confirmed`. -/
theorem checkEnd_cases (h : PaymentHash) (p : LiquidPayment) (reply : Except String (Option Nat))
    (s : ServerState) : ∃ r, r.status ≠ PaymentStatus.failed.toI32 ∧
      (checkEnd h p reply s = .ok r s ∨
        checkEnd h p reply s = .ok r (s.store { p with status := .confirmed })) := by
  rcases reply with e | c
  · exact ⟨_, by simp [PaymentStatus.toI32], .inl rfl⟩
  · by_cases hc : c.getD 0 ≥ 1
    · refine ⟨_, ?_, .inr (by simp [checkEnd, hc]; rfl)⟩
      simp [PaymentStatus.toI32]
    · refine ⟨_, ?_, .inl (by simp [checkEnd, hc]; rfl)⟩
      simp [PaymentStatus.toI32]

/-- **`initiate_liquid_payment` sends only on the requests it accepts.** On any request it does
    not accept it returns an error before sending and before recording a payment: the state is
    untouched. An accepted request whose HTLC VTXOs are locked to its own hash is sent: the
    sidechain records one `sendtoaddress`, for the `Pending` record of the request, whether or not
    the list is empty or the VTXOs cover the amount. -/
theorem initiateLiquidPayment_sends_iff_valid (cfg : ServerConfig) (reply : Except String String)
    (a : String) (amt : Amount) (h : PaymentHash) (ids : List VtxoId) (s : ServerState) :
    (InitiateValid cfg ids → HashesMatch cfg h ids →
      (resultState (initiateLiquidPayment cfg reply a amt h ids s)).sidechainSends =
        s.sidechainSends ++ [(⟨a, amt, h, ids, .pending, none⟩, reply)]) ∧
    (¬ InitiateValid cfg ids → ∃ e, initiateLiquidPayment cfg reply a amt h ids s = .error e s) := by
  constructor
  · intro hv _
    cases reply <;> simp [initiateLiquidPayment, initiateBegin_of_valid _ hv]
  · intro hv
    obtain ⟨e, he⟩ := initiateBegin_of_invalid a amt h s hv
    exact ⟨e, by simp [initiateLiquidPayment, he]⟩

/-! ## `cosign_liquid_pay_htlc` -/

/-- What `cosign_liquid_pay_htlc` asks of the rest of the server: the exit check, `bitcoind`'s block
    count, the configured `htlc_send_expiry_delta`, the package builder and the cosigner. -/
structure CosignEnv where
  checkVtxosNotExited : List Vtxo → Except String Unit
  getBlockCount : Except String BlockHeight
  htlcSendExpiryDelta : BlockHeight
  newPackage : ArkoorPackageBuilder → Except String Unit
  cosignOorPackage : ArkoorPackageBuilder → Except String (List ArkoorCosignResponse)

/-- **`Server::cosign_liquid_pay_htlc`.** It mints the `ServerHtlcSend` policy from its own
    `payment_hash` argument, for the user's key, expiring `htlc_send_expiry_delta` blocks after the
    tip, and cosigns the send package. It reads the VTXO table and writes no liquid state. -/
def cosignLiquidPayHtlc (cfg : ServerConfig) (env : CosignEnv) (inputs : List VtxoId)
    (userNonces : List PublicNonce) (userPubkey : PublicKey) (amount : Amount)
    (paymentHash : PaymentHash) : Except String (List ArkoorCosignResponse × VtxoPolicy) := do
  let inputVtxos ← getVtxosById cfg inputs
  let vtxos := inputVtxos.map (·.vtxo)
  env.checkVtxosNotExited vtxos
  let tip ← env.getBlockCount
  let expiry := tip + env.htlcSendExpiryDelta
  let policy := VtxoPolicy.serverHtlcSend ⟨userPubkey, paymentHash, expiry⟩
  let package := ArkoorPackageBuilder.send vtxos userNonces ⟨amount, policy⟩ (some userPubkey)
  (env.newPackage package).mapError fun _ => "error creating arkoor package"
  let cosignResp ← env.cosignOorPackage package
  pure (cosignResp, policy)

/-- **The policy the server returns** is for the request's key and the handler's `payment_hash`,
    and expires `htlc_send_expiry_delta` blocks after the server's tip. -/
theorem cosignLiquidPayHtlc_policy {cfg : ServerConfig} {env : CosignEnv} {inputs : List VtxoId}
    {userNonces : List PublicNonce} {userPubkey : PublicKey} {amount : Amount}
    {paymentHash : PaymentHash} {sigs : List ArkoorCosignResponse} {policy : VtxoPolicy}
    (h : cosignLiquidPayHtlc cfg env inputs userNonces userPubkey amount paymentHash =
      .ok (sigs, policy)) :
    ∃ tip, env.getBlockCount = .ok tip ∧
      policy = .serverHtlcSend ⟨userPubkey, paymentHash, tip + env.htlcSendExpiryDelta⟩ := by
  obtain ⟨_, -, h⟩ := except_bind_eq_ok h
  obtain ⟨_, -, h⟩ := except_bind_eq_ok h
  obtain ⟨tip, htip, h⟩ := except_bind_eq_ok h
  obtain ⟨_, -, h⟩ := except_bind_eq_ok h
  obtain ⟨_, -, h⟩ := except_bind_eq_ok h
  cases h
  exact ⟨tip, htip, rfl⟩

/-- A server with a daemon and one spendable `ServerHtlcSend` VTXO of 100 000 sat, id `1`, locked
    to payment hash `7`. -/
def demoConfig : ServerConfig where
  vtxos id := if id = 1 then some ⟨⟨1, 100000, .serverHtlcSend ⟨5, 7, 800⟩, 900, "anchor"⟩, true⟩
    else none
  elementsd := true

/-- **Sends the validation does not justify**: a request naming no HTLC VTXO, and one asking for
    ten times the amount of the VTXO it names, both reach `sendtoaddress`. -/
theorem initiate_sends_unbacked_amounts :
    (resultState (initiateLiquidPayment demoConfig (.ok "tx") "addr" 100000 7 [] .init)).sidechainSends
      = [(⟨"addr", 100000, 7, [], .pending, none⟩, .ok "tx")] ∧
    (resultState (initiateLiquidPayment demoConfig (.ok "tx") "addr" 1000000 7 [1] .init)).sidechainSends
      = [(⟨"addr", 1000000, 7, [1], .pending, none⟩, .ok "tx")] := by
  decide

end BarkLiquid.Server
