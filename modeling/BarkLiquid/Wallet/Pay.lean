import BarkLiquid.Wallet.State

/-!
# `BarkLiquid.Wallet.Pay` — `Wallet::pay_liquid_address`

The faithful layer of `pay_liquid_address`, cut at its `.await`s into the segments of a `Proc`:

1. `payStart` — the server, dust and duplicate checks, the change keypair, coin selection and
   the nonces, up to the cosign request;
2. `payCosigned` — the server's cosign reply: its policy, the package, the signed outputs;
3. one `validate_vtxo` per HTLC output (`validateEach`);
4. `new_movement`;
5. `payLock` — the movement's first update, then the HTLC outputs stored `Locked` and the
   inputs marked `Spent`;
6. `payChange` — when there is change: the chain anchor of the last input, and the change
   stored `Spendable`;
7. `payRecord` — the movement's second update, the `bark_liquid_send` row, and the initiate
   request;
8. the server's answer to it.

`Proc.run` of the whole is the call made alone; `Wallet.Concurrent` interleaves several.

The client's comparison of the server's policy hash with `payment_hash` is commented out in the
source, and so is absent here: the wallet checks only that the server's `ServerHtlcSend` policy is
for the change key, and the HTLC outputs carry that policy whatever its hash
(`payCosigned_htlc_policy`). `Preimage::random()` is computed and never used, and is left out.

Run alone, the call commits nothing when it stops before the cosign reply is accepted, and
otherwise a prefix of `persistWrites` for its own inputs, outputs and movement, all of them when it
returns `Ok` (`payLiquidAddress_persists_prefix`); and when none of the outcomes it depends on fails, it does
return `Ok` (`payLiquidAddress_run_ok`, from one `_ok` lemma per segment).
-/

namespace BarkLiquid.Wallet

/-- Modelled from the spec: `bitcoin_ext::P2TR_DUST`, the dust limit of a P2TR output, 330 sats. -/
def p2trDust : Amount := 330

/-- The dust error, with `P2TR_DUST` as rust-bitcoin displays an amount. -/
def dustError : String := "Sent amount must be at least 0.00000330 BTC"

/-- What the first segment hands to the rest of the call. -/
structure PayCtx where
  changeKeypair : Keypair
  inputs : List Vtxo
  secs : List SecretNonce
  pubs : List PublicNonce
  req : LiquidPayHtlcCosignRequest

/-- Modelled from the spec: **`build_vtxos` of a send package**. The library signs the outputs,
    and each HTLC output carries the policy of the request the package was built for. -/
def buildSendVtxos (env : WalletEnv) (payReq : VtxoRequest) (builder : ArkoorPackageBuilder)
    (cosignResp : List ArkoorCosignResponse) : Except String (List Vtxo × Option Vtxo) :=
  (env.buildVtxos builder cosignResp).map fun out =>
    (out.1.map fun v => { v with policy := payReq.policy }, out.2)

section Segments

variable (env : WalletEnv)

/-- Segment 1: from the call to the cosign request. -/
def payStart (liquidAddress : String) (amount : Amount) (paymentHash : PaymentHash) :
    WalletM PayCtx := do
  liftExcept env.requireServer
  bailIf (amount < p2trDust) dustError
  let s ← get
  bailIf (s.db.liquidSends paymentHash).isSome "Payment with this hash has already been initiated"
  let (changeKeypair, _) ← deriveStoreNextKeypair env
  let s ← get
  let inputs ← context "Could not find enough suitable VTXOs to cover liquid payment"
    (env.selectVtxosToCover s.db amount)
  let keypairs ← liftExcept (inputs.mapM env.getVtxoKey)
  let nonces := keypairs.map env.noncePair
  let req : LiquidPayHtlcCosignRequest :=
    ⟨liquidAddress, amount, inputs.map (·.id), nonces.map (·.2), changeKeypair.publicKey⟩
  send (.cosign req)
  pure ⟨changeKeypair, inputs, nonces.map (·.1), nonces.map (·.2), req⟩

/-- The payment request of a server policy: a `ServerHtlcSend` policy for the change key. -/
def payRequest (ctx : PayCtx) (amount : Amount) : VtxoPolicy → WalletM VtxoRequest
  | .serverHtlcSend p => do
    ensure (p.userPubkey == ctx.changeKeypair.publicKey) "user pubkey mismatch"
    pure ⟨amount, .serverHtlcSend p⟩
  | _ => throw "invalid policy returned from server"

/-- Segment 2: the cosign reply, up to the signed HTLC outputs and change. -/
def payCosigned (amount : Amount) (ctx : PayCtx) : WalletM (List Vtxo × Option Vtxo) := do
  let resp ← context "htlc request failed" (env.requestLiquidPayHtlcCosign ctx.req)
  let cosignResp ← liftExcept (resp.sigs.mapM id)
  let policy ← liftExcept resp.policy
  let payReq ← payRequest ctx amount policy
  let builder := ArkoorPackageBuilder.send ctx.inputs ctx.pubs payReq
    (some ctx.changeKeypair.publicKey)
  liftExcept (env.newPackage builder)
  ensure (env.verifyCosignResponse builder cosignResp)
    "invalid arkoor cosignature received from server"
  liftExcept (buildSendVtxos env payReq builder cosignResp)

/-- Segment 5: the movement's first update; the HTLC outputs `Locked`, the inputs `Spent`. -/
def payLock (liquidAddress : String) (amount : Amount) (inputs htlcVtxos : List Vtxo)
    (movementId : MovementId) : WalletM Unit := do
  let intended ← liftExcept (toSigned amount)
  let effective ← liftExcept (toSigned (htlcVtxos.map (·.amount)).sum)
  write env (.updateMovement movementId
    { intendedBalance := some (-intended), effectiveBalance := some (-effective),
      consumedVtxos := inputs, sentTo := [(liquidAddress, amount)] })
  write env (.storeLockedVtxos htlcVtxos (some movementId))
  write env (.markVtxosAsSpent (inputs.map (·.id)))

/-- Segment 6: the change validated against the last input's chain anchor, and stored. -/
def payChange (change lastInput : Vtxo) : WalletM Unit := do
  let tx ← liftExcept (env.getTx lastInput.chainAnchor)
  let tx ← contextOpt
    ("input vtxo chain anchor not found for lightning change vtxo: " ++ lastInput.chainAnchor) tx
  context "invalid lightning change vtxo" (env.validateChange change tx)
  write env (.storeSpendableVtxos [change])

/-- The row `pay_liquid_address` stores. -/
def pendingRow (liquidAddress : String) (amount : Amount) (htlcVtxos : List Vtxo)
    (movementId : MovementId) : LiquidSendRow :=
  ⟨liquidAddress, amount, htlcVtxos.map (·.id), movementId, false⟩

/-- The request that asks the server to forward the payment. -/
def initiateRequest (liquidAddress : String) (amount : Amount) (paymentHash : PaymentHash)
    (htlcVtxos : List Vtxo) : InitiateLiquidPaymentRequest :=
  ⟨liquidAddress, amount, paymentHash, htlcVtxos.map (·.id), true⟩

/-- Segment 7: the movement's second update, the `bark_liquid_send` row, the initiate request. -/
def payRecord (liquidAddress : String) (amount : Amount) (paymentHash : PaymentHash)
    (htlcVtxos : List Vtxo) (change : Option Vtxo) (movementId : MovementId) :
    WalletM InitiateLiquidPaymentRequest := do
  let metadata ← liftExcept (env.htlcMetadata htlcVtxos)
  write env (.updateMovement movementId
    { producedVtxos := change.toList, metadata := some metadata })
  write env (.storeNewPendingLiquidSend paymentHash
    (pendingRow liquidAddress amount htlcVtxos movementId))
  let req := initiateRequest liquidAddress amount paymentHash htlcVtxos
  send (.initiate req)
  pure req

end Segments

/-- The `validate_vtxo` loop: one await per HTLC output, then the rest of the call. -/
def validateEach (env : WalletEnv) {α : Type} (rest : Proc α) : List Vtxo → Proc α
  | [] => rest
  | v :: vs => .atomic (liftExcept (env.validateVtxo v)) fun _ => validateEach env rest vs

/-- Segments 7 and 8. -/
def payFinish (env : WalletEnv) (liquidAddress : String) (amount : Amount)
    (paymentHash : PaymentHash) (htlcVtxos : List Vtxo) (change : Option Vtxo)
    (movementId : MovementId) : Proc Unit :=
  .atomic (payRecord env liquidAddress amount paymentHash htlcVtxos change movementId) fun req =>
  .atomic (liftExcept (env.initiateLiquidPayment req)) fun _ => .done (.ok ())

/-- Segments 5 to 8, under the movement's id. With change, segment 5 ends with the last input,
    whose chain anchor the change shares, and segment 6 validates the change. -/
def payLocked (env : WalletEnv) (liquidAddress : String) (amount : Amount)
    (paymentHash : PaymentHash) (inputs htlcVtxos : List Vtxo) :
    Option Vtxo → MovementId → Proc Unit
  | none, movementId =>
    .atomic (payLock env liquidAddress amount inputs htlcVtxos movementId) fun _ =>
    payFinish env liquidAddress amount paymentHash htlcVtxos none movementId
  | some c, movementId =>
    .atomic (do
        payLock env liquidAddress amount inputs htlcVtxos movementId
        contextOpt "no inputs provided" inputs.getLast?) fun lastInput =>
    .atomic (payChange env c lastInput) fun _ =>
    payFinish env liquidAddress amount paymentHash htlcVtxos (some c) movementId

/-- Segments 4 to 8, after the HTLC outputs were validated. -/
def payPersist (env : WalletEnv) (liquidAddress : String) (amount : Amount)
    (paymentHash : PaymentHash) (inputs htlcVtxos : List Vtxo) (change : Option Vtxo) :
    Proc Unit :=
  .atomic (newMovement env) fun movementId =>
  payLocked env liquidAddress amount paymentHash inputs htlcVtxos change movementId

/-- **`Wallet::pay_liquid_address`**, segment by segment. -/
def payLiquidAddress (env : WalletEnv) (liquidAddress : String) (amount : Amount)
    (paymentHash : PaymentHash) : Proc Unit :=
  .atomic (payStart env liquidAddress amount paymentHash) fun ctx =>
  .atomic (payCosigned env amount ctx) fun out =>
  validateEach env (payPersist env liquidAddress amount paymentHash ctx.inputs out.1 out.2) out.1

/-! ## What each segment commits -/

section Frames

variable {env : WalletEnv}

/-- Segment 1 writes only the next key index, and sends only the cosign request. -/
theorem payStart_keeps_of {β : Type} {view : WalletState → β}
    (hw : ∀ (s : WalletState) (i : Nat), view { s with db := s.db.apply (.storeKeyIndex i) } = view s)
    (hc : ∀ (s : WalletState) (req : LiquidPayHtlcCosignRequest),
      view { s with sent := s.sent ++ [.cosign req] } = view s)
    (liquidAddress : String) (amount : Amount) (paymentHash : PaymentHash) :
    Keeps view (payStart env liquidAddress amount paymentHash) :=
  (keeps_liftExcept _).bind fun _ => (keeps_bailIf _ _).bind fun _ => keeps_get.bind fun _ =>
  (keeps_bailIf _ _).bind fun _ => (keeps_deriveStoreNextKeypair_of hw).bind fun ⟨_, _⟩ =>
  keeps_get.bind fun _ => (keeps_context _ _).bind fun _ => (keeps_liftExcept _).bind fun _ =>
  (keeps_send _ fun s => hc s _).bind fun _ => keeps_pure _

theorem payStart_keeps (liquidAddress : String) (amount : Amount) (paymentHash : PaymentHash) :
    Keeps WalletState.footprint (payStart env liquidAddress amount paymentHash) :=
  payStart_keeps_of (fun _ _ => WalletState.footprint_apply (by rfl) (by rfl) _)
    (fun _ _ => WalletState.footprint_send (by rfl) _) liquidAddress amount paymentHash

theorem payStart_nextMovementId (liquidAddress : String) (amount : Amount)
    (paymentHash : PaymentHash) (s : WalletState) :
    (resultState (payStart env liquidAddress amount paymentHash s)).db.nextMovementId =
      s.db.nextMovementId :=
  @payStart_keeps_of env _ (fun s => s.db.nextMovementId) (fun _ _ => rfl) (fun _ _ => rfl) _ _ _ s

theorem payRequest_keeps (ctx : PayCtx) (amount : Amount) (policy : VtxoPolicy) :
    Keeps id (payRequest ctx amount policy) := by
  cases policy <;> first
    | exact (keeps_ensure _ _).bind fun _ => keeps_pure _
    | exact keeps_throw _

/-- The cosign reply changes nothing in the wallet. -/
theorem payCosigned_keeps (amount : Amount) (ctx : PayCtx) :
    Keeps id (payCosigned env amount ctx) :=
  (keeps_context _ _).bind fun _ => (keeps_liftExcept _).bind fun _ =>
  (keeps_liftExcept _).bind fun policy => (payRequest_keeps ctx amount policy).bind fun _ =>
  (keeps_liftExcept _).bind fun _ => (keeps_ensure _ _).bind fun _ => keeps_liftExcept _

/-- The request a server policy is accepted for: a `ServerHtlcSend` policy for the change key. -/
theorem payRequest_ok {ctx : PayCtx} {amount : Amount} {policy : VtxoPolicy} {s s' : WalletState}
    {payReq : VtxoRequest} (h : payRequest ctx amount policy s = .ok payReq s') :
    ∃ p, policy = .serverHtlcSend p ∧ p.userPubkey = ctx.changeKeypair.publicKey ∧
      payReq = ⟨amount, .serverHtlcSend p⟩ := by
  cases policy with
  | serverHtlcSend p =>
    cases hk : p.userPubkey == ctx.changeKeypair.publicKey <;>
      simp [payRequest, hk] at h
    exact ⟨p, rfl, by simpa using hk, h.1.symm⟩
  | _ => cases h

/-- The library's HTLC outputs take the policy of the request. -/
theorem buildSendVtxos_policy {payReq : VtxoRequest} {builder : ArkoorPackageBuilder}
    {cosignResp : List ArkoorCosignResponse} {out : List Vtxo × Option Vtxo}
    (h : buildSendVtxos env payReq builder cosignResp = .ok out) :
    ∀ v ∈ out.1, v.policy = payReq.policy := by
  unfold buildSendVtxos at h
  cases hb : env.buildVtxos builder cosignResp with
  | error e => rw [hb] at h; cases h
  | ok o =>
    rw [hb] at h
    cases h
    intro v hv
    obtain ⟨w, -, rfl⟩ := List.mem_map.mp hv
    rfl

/-- **The HTLC outputs carry the server's policy.** When segment 2 accepts the cosign reply, every
    HTLC output has the `ServerHtlcSend` policy of the reply, which names the change key; its
    payment hash is the server's, compared with nothing. -/
theorem payCosigned_htlc_policy {amount : Amount} {ctx : PayCtx} {s s' : WalletState}
    {out : List Vtxo × Option Vtxo} (h : payCosigned env amount ctx s = .ok out s') :
    ∃ resp p, env.requestLiquidPayHtlcCosign ctx.req = .ok resp ∧
      resp.policy = .ok (.serverHtlcSend p) ∧ p.userPubkey = ctx.changeKeypair.publicKey ∧
      ∀ v ∈ out.1, v.policy = .serverHtlcSend p := by
  obtain ⟨resp, _, hresp, h⟩ := bind_eq_ok h
  obtain ⟨_, _, -, h⟩ := bind_eq_ok h
  obtain ⟨policy, _, hpolicy, h⟩ := bind_eq_ok h
  obtain ⟨payReq, _, hreq, h⟩ := bind_eq_ok h
  obtain ⟨_, _, -, h⟩ := bind_eq_ok h
  obtain ⟨_, _, -, h⟩ := bind_eq_ok h
  obtain ⟨p, rfl, hkey, rfl⟩ := payRequest_ok hreq
  refine ⟨resp, p, context_eq_ok hresp, liftExcept_eq_ok hpolicy, hkey, fun v hv => ?_⟩
  exact buildSendVtxos_policy (liftExcept_eq_ok h) v hv

/-- **A pay is its first two segments, then the rest.** Until the cosign reply is accepted the call
    can only fail, in the state its first segment left; after it, the call is the `validate_vtxo`
    loop and segments 4 to 8 for the selected inputs and the outputs built from the reply. -/
theorem payLiquidAddress_run_split (liquidAddress : String) (amount : Amount)
    (paymentHash : PaymentHash) (s : WalletState) :
    (∃ e, (payLiquidAddress env liquidAddress amount paymentHash).run s =
      .error e (resultState (payStart env liquidAddress amount paymentHash s))) ∨
    ∃ ctx s₁ out, payStart env liquidAddress amount paymentHash s = .ok ctx s₁ ∧
      payCosigned env amount ctx s₁ = .ok out s₁ ∧
      (payLiquidAddress env liquidAddress amount paymentHash).run s =
        (validateEach env (payPersist env liquidAddress amount paymentHash ctx.inputs out.1 out.2)
          out.1).run s₁ := by
  cases h₁ : payStart env liquidAddress amount paymentHash s with
  | error e s₁ =>
    exact .inl ⟨e, by simp only [payLiquidAddress, Proc.run_atomic, h₁, resultState_error]⟩
  | ok ctx s₁ =>
    have hc : resultState (payCosigned env amount ctx s₁) = s₁ := payCosigned_keeps amount ctx s₁
    cases h₂ : payCosigned env amount ctx s₁ with
    | error e s₂ =>
      rw [h₂, resultState_error] at hc
      exact .inl ⟨e, by simp only [payLiquidAddress, Proc.run_atomic, h₁, h₂, resultState_ok, hc]⟩
    | ok out s₂ =>
      rw [h₂, resultState_ok] at hc
      subst hc
      exact .inr ⟨ctx, s₂, out, rfl, h₂, by simp only [payLiquidAddress, Proc.run_atomic, h₁, h₂]⟩

end Frames

/-! ## The writes to the VTXO store and the table -/

/-- **The writes of `pay_liquid_address` to the VTXO store and the `bark_liquid_send` table**, in
    the code's order: the HTLC outputs `Locked`, the inputs `Spent`, the change `Spendable`, the
    row. -/
def persistWrites (liquidAddress : String) (amount : Amount) (paymentHash : PaymentHash)
    (inputs htlcVtxos : List Vtxo) (change : Option Vtxo) (movementId : MovementId) :
    List WalletWrite :=
  [.storeLockedVtxos htlcVtxos (some movementId), .markVtxosAsSpent (inputs.map (·.id))] ++
    change.toList.map (fun c => .storeSpendableVtxos [c]) ++
    [.storeNewPendingLiquidSend paymentHash (pendingRow liquidAddress amount htlcVtxos movementId)]

/-- **From `s`, `x` commits a prefix of the writes `ws`** to the VTXO store and the table, and
    all of them when it returns. -/
def CommitsAt {α : Type} (ws : List WalletWrite) (x : WalletM α) (s : WalletState) : Prop :=
  ∃ k ≤ ws.length, (resultState (x s)).db.holdings = (s.db.applyAll (ws.take k)).holdings ∧
    ∀ a s', x s = .ok a s' → k = ws.length

/-- `x` commits a prefix of `ws` from every state. -/
def Commits {α : Type} (ws : List WalletWrite) (x : WalletM α) : Prop :=
  ∀ s, CommitsAt ws x s

section Commits

variable {env : WalletEnv} {α β : Type}

theorem Commits.of_keeps {x : WalletM α} (h : Keeps (fun s => s.db.holdings) x) : Commits [] x :=
  fun s => ⟨0, le_rfl, h s, fun _ _ _ => rfl⟩

theorem Keeps.holdings {x : WalletM α} (h : Keeps WalletState.footprint x) :
    Keeps (fun s => s.db.holdings) x :=
  fun s => WalletState.holdings_of_footprint (h s)

theorem commits_write (w : WalletWrite) : Commits [w] (write env w) := by
  intro s
  rw [CommitsAt, write_apply]
  rcases s.db.violation w with _ | e
  · rcases env.fault w with _ | e
    · exact ⟨1, le_rfl, rfl, fun _ _ _ => rfl⟩
    all_goals exact ⟨0, by simp, rfl, fun _ _ h => nomatch h⟩
  all_goals exact ⟨0, by simp, rfl, fun _ _ h => nomatch h⟩

/-- **Sequencing.** A prefix of `ws`, and, if `x` returned, a prefix of `ws'` after all of `ws`. -/
theorem Commits.bind {x : WalletM α} {f : α → WalletM β} {ws ws' : List WalletWrite}
    (hx : Commits ws x) (hf : ∀ a, Commits ws' (f a)) : Commits (ws ++ ws') (x >>= f) := by
  intro s
  obtain ⟨k, hk, hs, hok⟩ := hx s
  simp only [CommitsAt, bind_apply]
  cases h : x s with
  | ok a s₁ =>
    obtain rfl := hok a s₁ h
    obtain ⟨j, hj, hs₁, hok₁⟩ := hf a s₁
    rw [h, resultState_ok, List.take_length] at hs
    refine ⟨ws.length + j, by simpa using hj, ?_, fun b s' h' => by simpa using hok₁ b s' h'⟩
    rw [hs₁, List.take_append, WalletDb.applyAll_append]
    exact WalletDb.holdings_applyAll hs _
  | error e s₁ =>
    rw [h, resultState_error] at hs
    refine ⟨k, by simp; omega, ?_, fun _ _ h' => nomatch h'⟩
    rw [resultState_error, hs, List.take_append_of_le_length hk]

theorem Commits.bind_keeps {x : WalletM α} {f : α → WalletM β} {ws : List WalletWrite}
    (hx : Keeps (fun s => s.db.holdings) x) (hf : ∀ a, Commits ws (f a)) :
    Commits ws (x >>= f) :=
  (Commits.of_keeps hx).bind hf

theorem Commits.bind_write (w : WalletWrite) {f : Unit → WalletM β} {ws : List WalletWrite}
    (hf : ∀ a, Commits ws (f a)) : Commits (w :: ws) (write env w >>= f) :=
  (commits_write w).bind hf

theorem Commits.atomic {x : WalletM β} {k : β → Proc α} {ws ws' : List WalletWrite}
    (hx : Commits ws x) (hk : ∀ b, Commits ws' (k b).run) :
    Commits (ws ++ ws') (Proc.atomic x k).run := by
  rw [Proc.run_atomic_eq_bind]
  exact hx.bind hk

/-- A call that fails with the VTXO store and the table as they were commits nothing. -/
theorem commitsAt_of_error {x : WalletM α} {s s' : WalletState} {e : String}
    (h : x s = .error e s') (hs : s'.db.holdings = s.db.holdings) (ws : List WalletWrite) :
    CommitsAt ws x s :=
  ⟨0, Nat.zero_le _, by rw [h]; exact hs, fun _ _ h' => by rw [h] at h'; cases h'⟩

/-- A first step that returns with the VTXO store and the table as they were. -/
theorem commitsAt_bind_of_ok {x : WalletM α} {f : α → WalletM β} {s s₁ : WalletState} {a : α}
    {ws : List WalletWrite} (h : x s = .ok a s₁) (hs : s₁.db.holdings = s.db.holdings)
    (hf : CommitsAt ws (f a) s₁) : CommitsAt ws (x >>= f) s := by
  obtain ⟨k, hk, hk₁, hok⟩ := hf
  refine ⟨k, hk, ?_, fun b s' h' => hok b s' (by simpa [h] using h')⟩
  rw [bind_apply, h, hk₁]
  exact WalletDb.holdings_applyAll hs _

/-- A computation that runs on as another from a state with the same VTXO store and table. -/
theorem CommitsAt.of_eq {x y : WalletM α} {s s₁ : WalletState} {ws : List WalletWrite}
    (h : x s = y s₁) (hs : s₁.db.holdings = s.db.holdings) (hy : CommitsAt ws y s₁) :
    CommitsAt ws x s := by
  obtain ⟨k, hk, hk₁, hok⟩ := hy
  exact ⟨k, hk, by rw [h, hk₁]; exact WalletDb.holdings_applyAll hs _,
    fun a s' h' => hok a s' (h ▸ h')⟩

theorem commitsAt_bind_of_error {x : WalletM α} {f : α → WalletM β} {s s₁ : WalletState}
    {e : String} (h : x s = .error e s₁) (hs : s₁.db.holdings = s.db.holdings)
    (ws : List WalletWrite) : CommitsAt ws (x >>= f) s :=
  commitsAt_of_error (by rw [bind_apply, h]) hs ws

theorem commits_done (r : Except String α) : Commits [] (Proc.done r).run := by
  intro s
  cases r <;> exact ⟨0, le_rfl, rfl, fun _ _ _ => rfl⟩

/-- The `validate_vtxo` loop commits nothing of its own, and leaves the state to the rest. -/
theorem commitsAt_validateEach {rest : Proc α} {ws : List WalletWrite} {s : WalletState}
    (h : CommitsAt ws rest.run s) (vs : List Vtxo) : CommitsAt ws (validateEach env rest vs).run s := by
  induction vs with
  | nil => exact h
  | cons v vs ih =>
    rw [validateEach, Proc.run_atomic_eq_bind]
    cases hv : env.validateVtxo v with
    | ok u => exact commitsAt_bind_of_ok (liftExcept_ok u) rfl ih
    | error e => exact commitsAt_bind_of_error (liftExcept_error e) rfl ws

end Commits

section Segments

variable {env : WalletEnv}

theorem payLock_commits (liquidAddress : String) (amount : Amount) (inputs htlcVtxos : List Vtxo)
    (movementId : MovementId) :
    Commits [.storeLockedVtxos htlcVtxos (some movementId), .markVtxosAsSpent (inputs.map (·.id))]
      (payLock env liquidAddress amount inputs htlcVtxos movementId) :=
  Commits.bind_keeps (keeps_liftExcept _) fun _ => Commits.bind_keeps (keeps_liftExcept _) fun _ =>
  Commits.bind_keeps (keeps_write _ fun _ => by rfl) fun _ =>
  Commits.bind_write _ fun _ => commits_write _

theorem payChange_commits (change lastInput : Vtxo) :
    Commits [.storeSpendableVtxos [change]] (payChange env change lastInput) :=
  Commits.bind_keeps (keeps_liftExcept _) fun _ => Commits.bind_keeps (keeps_contextOpt _ _) fun _ =>
  Commits.bind_keeps (keeps_context _ _) fun _ => commits_write _

theorem payFinish_commits (liquidAddress : String) (amount : Amount) (paymentHash : PaymentHash)
    (htlcVtxos : List Vtxo) (change : Option Vtxo) (movementId : MovementId) :
    Commits [.storeNewPendingLiquidSend paymentHash
        (pendingRow liquidAddress amount htlcVtxos movementId)]
      (payFinish env liquidAddress amount paymentHash htlcVtxos change movementId).run :=
  (Commits.bind_keeps (keeps_liftExcept _) fun _ =>
    Commits.bind_keeps (keeps_write _ fun _ => by rfl) fun _ => Commits.bind_write _ fun _ =>
    Commits.bind_keeps (keeps_send _ fun _ => rfl) fun _ => Commits.of_keeps (keeps_pure _)).atomic
  fun _ => (Commits.of_keeps (keeps_liftExcept _)).atomic fun _ => commits_done _

theorem newMovement_eq_ok {s s' : WalletState} {movementId : MovementId}
    (h : newMovement env s = .ok movementId s') : movementId = s.db.nextMovementId := by
  simp only [newMovement, bind_apply, get_apply] at h
  cases hw : write env .newMovement s <;> simp [hw] at h
  exact h.1.symm

/-- **Segments 5 to 8 commit a prefix of `persistWrites`.** -/
theorem payLocked_commits (liquidAddress : String) (amount : Amount) (paymentHash : PaymentHash)
    (inputs htlcVtxos : List Vtxo) (change : Option Vtxo) (movementId : MovementId) :
    Commits (persistWrites liquidAddress amount paymentHash inputs htlcVtxos change movementId)
      (payLocked env liquidAddress amount paymentHash inputs htlcVtxos change movementId).run := by
  cases change with
  | none => exact (payLock_commits _ _ _ _ _).atomic fun _ => payFinish_commits _ _ _ _ _ _
  | some c =>
    exact ((payLock_commits _ _ _ _ _).bind fun _ => Commits.of_keeps (keeps_contextOpt _ _)).atomic
      fun _ => (payChange_commits _ _).atomic fun _ => payFinish_commits _ _ _ _ _ _

/-- **Segments 4 to 8 commit a prefix of `persistWrites`** under the movement they create, the
    next one of the wallet. -/
theorem payPersist_commits (liquidAddress : String) (amount : Amount) (paymentHash : PaymentHash)
    (inputs htlcVtxos : List Vtxo) (change : Option Vtxo) (s : WalletState) :
    CommitsAt (persistWrites liquidAddress amount paymentHash inputs htlcVtxos change
        s.db.nextMovementId)
      (payPersist env liquidAddress amount paymentHash inputs htlcVtxos change).run s := by
  have hkeep : (resultState (newMovement env s)).db.holdings = s.db.holdings :=
    keeps_newMovement.holdings s
  rw [payPersist, Proc.run_atomic_eq_bind]
  cases h : newMovement env s with
  | ok movementId s₁ =>
    rw [h] at hkeep
    obtain rfl := newMovement_eq_ok h
    exact commitsAt_bind_of_ok h hkeep (payLocked_commits _ _ _ _ _ _ _ s₁)
  | error e s₁ =>
    rw [h] at hkeep
    exact commitsAt_bind_of_error h hkeep _

end Segments

/-- **What `pay_liquid_address` leaves behind.** From every wallet state and under every outcome
    of its external calls: when the call stops before the server's cosign reply is accepted, it
    fails with the VTXO store and the `bark_liquid_send` table as they were. Otherwise it leaves
    them as after a prefix of `persistWrites` for the inputs its first segment selected, the HTLC
    outputs and change the library built from the reply, and the movement the wallet creates next:
    HTLC outputs `Locked`, inputs `Spent`, change `Spendable`, row inserted under the payment hash,
    in that order; the whole of them when it returns `Ok`. -/
theorem payLiquidAddress_persists_prefix (env : WalletEnv) (s : WalletState)
    (liquidAddress : String) (amount : Amount) (paymentHash : PaymentHash) :
    ((resultState ((payLiquidAddress env liquidAddress amount paymentHash).run s)).db.holdings =
        s.db.holdings ∧
      ∀ s', (payLiquidAddress env liquidAddress amount paymentHash).run s ≠ .ok () s') ∨
    ∃ ctx s₁ out, payStart env liquidAddress amount paymentHash s = .ok ctx s₁ ∧
      payCosigned env amount ctx s₁ = .ok out s₁ ∧
      CommitsAt (persistWrites liquidAddress amount paymentHash ctx.inputs out.1 out.2
        s.db.nextMovementId) (payLiquidAddress env liquidAddress amount paymentHash).run s := by
  rcases @payLiquidAddress_run_split env liquidAddress amount paymentHash s with
    ⟨e, hrun⟩ | ⟨ctx, s₁, out, h₁, h₂, hrun⟩
  · refine .inl ⟨by rw [hrun]; exact (payStart_keeps _ _ _).holdings s, fun s' h => ?_⟩
    rw [hrun] at h
    cases h
  · have hstart := (@payStart_keeps env liquidAddress amount paymentHash).holdings s
    have hmid := @payStart_nextMovementId env liquidAddress amount paymentHash s
    rw [h₁, resultState_ok] at hstart hmid
    refine .inr ⟨ctx, s₁, out, h₁, h₂, .of_eq hrun hstart (commitsAt_validateEach ?_ _)⟩
    rw [← hmid]
    exact payPersist_commits _ _ _ _ _ _ _

/-! ## A payment that goes through -/

section Success

variable {env : WalletEnv} {s : WalletState} {liquidAddress : String} {amount : Amount}
  {paymentHash : PaymentHash}

/-- **Segment 1 when nothing fails**: it stores the next key index and sends the cosign request
    for the selected inputs, their nonces and the change key. -/
theorem payStart_ok {inputs : List Vtxo} {keypairs : List Keypair}
    (hsrv : env.requireServer = .ok ()) (hdust : p2trDust ≤ amount)
    (hnew : s.db.liquidSends paymentHash = none) (hfault : ∀ w, env.fault w = none)
    (hsel : env.selectVtxosToCover (s.db.apply (.storeKeyIndex (s.db.keyIndex + 1))) amount =
      .ok inputs)
    (hkeys : inputs.mapM env.getVtxoKey = .ok keypairs) :
    let pubs := (keypairs.map env.noncePair).map (·.2)
    let req : LiquidPayHtlcCosignRequest :=
      ⟨liquidAddress, amount, inputs.map (·.id), pubs, (env.keypairAt s.db.keyIndex).publicKey⟩
    payStart env liquidAddress amount paymentHash s =
      .ok ⟨env.keypairAt s.db.keyIndex, inputs, (keypairs.map env.noncePair).map (·.1), pubs, req⟩
        ⟨s.db.apply (.storeKeyIndex (s.db.keyIndex + 1)), s.sent ++ [.cosign req]⟩ := by
  simp [-List.mapM, payStart, deriveStoreNextKeypair, hsrv, hnew, hfault, hsel, hkeys,
    not_lt.2 hdust, WalletWrite.touchesRows]

/-- **Segment 2 when the reply is accepted**: the HTLC outputs the library signs take the reply's
    policy. -/
theorem payCosigned_ok (ctx : PayCtx) {resp : LiquidPayHtlcCosignResponse}
    {sigs : List ArkoorCosignResponse} {policy : ServerHtlcSendVtxoPolicy}
    {builder : ArkoorPackageBuilder} {out : List Vtxo × Option Vtxo}
    (hcosign : env.requestLiquidPayHtlcCosign ctx.req = .ok resp)
    (hsigs : resp.sigs.mapM id = .ok sigs) (hpolicy : resp.policy = .ok (.serverHtlcSend policy))
    (hkey : policy.userPubkey = ctx.changeKeypair.publicKey)
    (hbuilder : builder = .send ctx.inputs ctx.pubs ⟨amount, .serverHtlcSend policy⟩
      (some ctx.changeKeypair.publicKey))
    (hpkg : env.newPackage builder = .ok ()) (hverify : env.verifyCosignResponse builder sigs = true)
    (hbuild : env.buildVtxos builder sigs = .ok out) :
    payCosigned env amount ctx s =
      .ok (out.1.map fun v => { v with policy := .serverHtlcSend policy }, out.2) s := by
  subst hbuilder
  simp [-List.mapM, payCosigned, payRequest, hcosign, hsigs, hpolicy, hkey, hpkg, hverify,
    buildSendVtxos, hbuild, Except.map]

/-- With every HTLC output valid, the `validate_vtxo` loop is the rest of the call. -/
theorem validateEach_run_ok {α : Type} {rest : Proc α} {vs : List Vtxo}
    (hv : ∀ v ∈ vs, env.validateVtxo v = .ok ()) (s : WalletState) :
    (validateEach env rest vs).run s = rest.run s := by
  induction vs generalizing s with
  | nil => rfl
  | cons v vs ih => simp [validateEach, hv v (.head _), ih fun w hw => hv w (.tail _ hw)]

theorem toSigned_of_le {a : Amount} (h : a ≤ 2 ^ 63 - 1) : toSigned a = .ok a := if_pos h

/-- **Segments 4 to 8 when nothing fails** make all of `persistWrites` and send the initiate
    request: the insert cannot violate the table's constraint, since no earlier write of the call
    touches the table. -/
theorem payPersist_run_ok {inputs htlcVtxos : List Vtxo} {change : Option Vtxo}
    {metadata : String} {reply : LiquidPaymentResult}
    (hfault : ∀ w, env.fault w = none) (hnew : s.db.liquidSends paymentHash = none)
    (hamount : amount ≤ 2 ^ 63 - 1) (hsum : (htlcVtxos.map (·.amount)).sum ≤ 2 ^ 63 - 1)
    (hchange : ∀ c ∈ change, ∃ last tx, inputs.getLast? = some last ∧
      env.getTx last.chainAnchor = .ok (some tx) ∧ env.validateChange c tx = .ok ())
    (hmeta : env.htlcMetadata htlcVtxos = .ok metadata)
    (hinit : env.initiateLiquidPayment (initiateRequest liquidAddress amount paymentHash htlcVtxos) =
      .ok reply) :
    ∃ s', (payPersist env liquidAddress amount paymentHash inputs htlcVtxos change).run s =
        .ok () s' ∧
      s'.db.holdings = (s.db.applyAll (persistWrites liquidAddress amount paymentHash inputs
        htlcVtxos change s.db.nextMovementId)).holdings ∧
      s'.sent = s.sent ++ [.initiate (initiateRequest liquidAddress amount paymentHash htlcVtxos)] := by
  rcases change with _ | c
  · simp only [payPersist, newMovement, bind_pure_comp, payLocked, payLock, payFinish, payRecord,
      toSigned_of_le hamount, toSigned_of_le hsum, hmeta, hfault, hinit, hnew, Proc.run_atomic,
      Proc.run_done_ok, bind_apply, get_apply, map_apply, write_apply, send_apply, liftExcept_ok,
      WalletDb.violation, WalletDb.apply, Option.isSome_none, Bool.false_eq_true, ↓reduceIte,
      EStateM.Result.ok.injEq, true_and, exists_eq_left', WalletDb.holdings, persistWrites,
      Option.toList_none, List.map_nil, List.append_nil, List.nil_append, List.append_assoc,
      List.singleton_append, List.cons_append, WalletDb.applyAll_cons, WalletDb.applyAll_nil,
      Prod.mk.injEq, and_self]
  · obtain ⟨last, tx, hlast, htx, hval⟩ := hchange c rfl
    simp only [payPersist, newMovement, bind_pure_comp, payLocked, payLock, payChange, payFinish,
      payRecord, toSigned_of_le hamount, toSigned_of_le hsum, hmeta, hfault, hinit, hnew, hlast, htx,
      hval, bind_assoc, Proc.run_atomic, Proc.run_done_ok, bind_apply, get_apply, map_apply,
      write_apply, send_apply, liftExcept_ok, contextOpt_some, context_ok, WalletDb.violation,
      WalletDb.apply, Option.isSome_none, Bool.false_eq_true, ↓reduceIte, EStateM.Result.ok.injEq,
      true_and, exists_eq_left', WalletDb.holdings, persistWrites, Option.toList_some, List.map_cons,
      List.map_nil, List.nil_append, List.append_assoc, List.singleton_append, List.cons_append,
      WalletDb.applyAll_cons, WalletDb.applyAll_nil, Prod.mk.injEq, and_self]

/-- **A payment that nothing stops goes through.** Run alone on a hash with no row, in a world
    where the server is connected, the coin selection, the input keys, the cosign reply, the
    signing library, every `validate_vtxo`, the change's chain anchor, the metadata and the
    initiate request all succeed, the amounts fit in an `i64` and no write fails,
    `pay_liquid_address` returns `Ok`, having made all of `persistWrites` and sent the cosign
    request and then the initiate request. -/
theorem payLiquidAddress_run_ok {inputs : List Vtxo} {keypairs : List Keypair}
    {req : LiquidPayHtlcCosignRequest} {resp : LiquidPayHtlcCosignResponse}
    {sigs : List ArkoorCosignResponse} {policy : ServerHtlcSendVtxoPolicy}
    {builder : ArkoorPackageBuilder} {out : List Vtxo × Option Vtxo} {htlcVtxos : List Vtxo}
    {metadata : String} {reply : LiquidPaymentResult}
    (hsrv : env.requireServer = .ok ()) (hdust : p2trDust ≤ amount)
    (hnew : s.db.liquidSends paymentHash = none) (hfault : ∀ w, env.fault w = none)
    (hsel : env.selectVtxosToCover (s.db.apply (.storeKeyIndex (s.db.keyIndex + 1))) amount =
      .ok inputs)
    (hkeys : inputs.mapM env.getVtxoKey = .ok keypairs)
    (hreq : req = ⟨liquidAddress, amount, inputs.map (·.id), (keypairs.map env.noncePair).map (·.2),
      (env.keypairAt s.db.keyIndex).publicKey⟩)
    (hcosign : env.requestLiquidPayHtlcCosign req = .ok resp)
    (hsigs : resp.sigs.mapM id = .ok sigs) (hpolicy : resp.policy = .ok (.serverHtlcSend policy))
    (hkey : policy.userPubkey = (env.keypairAt s.db.keyIndex).publicKey)
    (hbuilder : builder = .send inputs req.userNonces ⟨amount, .serverHtlcSend policy⟩
      (some req.userPubkey))
    (hpkg : env.newPackage builder = .ok ()) (hverify : env.verifyCosignResponse builder sigs = true)
    (hbuild : env.buildVtxos builder sigs = .ok out)
    (hhtlc : htlcVtxos = out.1.map fun v => { v with policy := .serverHtlcSend policy })
    (hvalid : ∀ v ∈ htlcVtxos, env.validateVtxo v = .ok ())
    (hamount : amount ≤ 2 ^ 63 - 1) (hsum : (htlcVtxos.map (·.amount)).sum ≤ 2 ^ 63 - 1)
    (hchange : ∀ c ∈ out.2, ∃ last tx, inputs.getLast? = some last ∧
      env.getTx last.chainAnchor = .ok (some tx) ∧ env.validateChange c tx = .ok ())
    (hmeta : env.htlcMetadata htlcVtxos = .ok metadata)
    (hinit : env.initiateLiquidPayment (initiateRequest liquidAddress amount paymentHash htlcVtxos) =
      .ok reply) :
    ∃ s', (payLiquidAddress env liquidAddress amount paymentHash).run s = .ok () s' ∧
      s'.db.holdings = (s.db.applyAll (persistWrites liquidAddress amount paymentHash inputs
        htlcVtxos out.2 s.db.nextMovementId)).holdings ∧
      s'.sent = s.sent ++
        [.cosign req, .initiate (initiateRequest liquidAddress amount paymentHash htlcVtxos)] := by
  subst hreq hhtlc
  obtain ⟨s', hrun, hhold, hsent⟩ := @payPersist_run_ok env
    ⟨s.db.apply (.storeKeyIndex (s.db.keyIndex + 1)), s.sent ++ [.cosign ⟨liquidAddress, amount,
      inputs.map (·.id), (keypairs.map env.noncePair).map (·.2), (env.keypairAt s.db.keyIndex).publicKey⟩]⟩
    liquidAddress amount paymentHash inputs _ out.2 metadata reply hfault hnew hamount hsum hchange
    hmeta hinit
  refine ⟨s', ?_, hhold.trans (@WalletDb.holdings_applyAll
    (s.db.apply (.storeKeyIndex (s.db.keyIndex + 1))) s.db rfl _), by simp [hsent]⟩
  simp only [payLiquidAddress, Proc.run_atomic, payStart_ok hsrv hdust hnew hfault hsel hkeys,
    payCosigned_ok ⟨env.keypairAt s.db.keyIndex, inputs, (keypairs.map env.noncePair).map (·.1), _, _⟩
      hcosign hsigs hpolicy hkey hbuilder hpkg hverify hbuild, validateEach_run_ok hvalid]
  exact hrun

end Success

/-! ## A payment that stops half way -/

/-- **A world in which every external call succeeds.** The change key is 100; the server answers
    the cosign request with a `ServerHtlcSend` policy for that key under hash 7 with expiry 800;
    the library signs one HTLC output (VTXO 10) and change (VTXO 11), and revokes into VTXO 20. -/
def demoEnv : WalletEnv where
  vtxoRefreshExpiryThreshold := 144
  requireServer := .ok ()
  tip := .ok 700
  getTx := fun _ => .ok (some "anchor tx")
  requestLiquidPayHtlcCosign := fun req =>
    .ok ⟨[.ok 0], .ok (.serverHtlcSend ⟨req.userPubkey, 7, 800⟩)⟩
  initiateLiquidPayment := fun req => .ok ⟨"Payment sent to liquid address. txid: tx", 0, req.paymentHash⟩
  checkLiquidPayment := fun req => .ok ⟨"Payment is pending", 0, req.hash⟩
  requestLiquidPayHtlcRevocation := fun _ => .ok [.ok 0]
  keypairAt := fun i => ⟨100 + i⟩
  getVtxoKey := fun v => .ok ⟨v.id + 50⟩
  noncePair := fun k => (k.publicKey, k.publicKey)
  selectVtxosToCover := fun db _ =>
    match db.vtxos 1 with
    | some v => .ok [v.vtxo]
    | none => .error "no spendable VTXOs"
  newPackage := fun _ => .ok ()
  verifyCosignResponse := fun _ _ => true
  buildVtxos := fun b _ =>
    match b with
    | .send .. =>
      .ok ([⟨10, 40000, .pubkey 0, 900, "oor"⟩], some ⟨11, 60000, .pubkey 100, 900, "oor"⟩)
    | .htlcRevocation .. => .ok ([⟨20, 40000, .pubkey 100, 1000, "revocation"⟩], none)
  validateVtxo := fun _ => .ok ()
  validateChange := fun _ _ => .ok ()
  htlcMetadata := fun _ => .ok "htlc"
  fault := fun _ => none

/-- A wallet holding one spendable VTXO of 100 000 sats. -/
def demoWallet : WalletState where
  db :=
    { vtxos := fun id => if id = 1 then some ⟨⟨1, 100000, .pubkey 100, 900, "anchor"⟩, .spendable⟩
        else none
      liquidSends := fun _ => none
      movements := []
      nextMovementId := 0
      exitVtxos := []
      keyIndex := 0 }
  sent := []

/-- **Neither untouched nor fully persisted.** When the change fails validation, the call fails
    after the HTLC output was locked and the input marked spent, and no row references the locked
    output. -/
theorem pay_fails_after_locking :
    let r := (payLiquidAddress { demoEnv with validateChange := fun _ _ => .error "bad anchor" }
      "addr" 40000 7).run demoWallet
    resultValue r = .error "invalid lightning change vtxo" ∧
      ((resultState r).db.vtxos 10).map (·.state) = some (.locked (some 0)) ∧
      ((resultState r).db.vtxos 1).map (·.state) = some .spent ∧
      (resultState r).db.liquidSends 7 = none := by
  decide

/-- The wallet after the payment of 40 000 sats under hash 7 in the world `demoEnv`. -/
def demoPaid : WalletState :=
  resultState ((payLiquidAddress demoEnv "addr" 40000 7).run demoWallet)

end BarkLiquid.Wallet
