import BarkLiquid.Basic
import Mathlib.Logic.Function.Basic
import Mathlib.Algebra.Order.Ring.Nat

/-!
# `BarkLiquid.Wallet.State` — the wallet's store, its writes, and the world it calls

The wallet side of the bridge (`bark/src/liquid/pay.rs`) changes four things it owns: the VTXO
store (each VTXO `Spendable`, `Locked` or `Spent`), the `bark_liquid_send` table of migration 0023
(`payment_hash TEXT NOT NULL UNIQUE`), the movement ledger, and the exit subsystem's set of VTXOs
marked for unilateral exit. Each change is one `WalletWrite`. A write either takes effect whole or
fails and changes nothing, and a failed write undoes none of the writes before it: the code opens
no transaction around them.

Everything else the wallet calls is the world `WalletEnv`: the server's four RPCs, the chain
source, the VTXO signing library, key derivation, coin selection, and which writes fail. A
theorem over every `WalletEnv` is a theorem over every outcome of every external call.

The store functions (`store_locked_vtxos`, `mark_vtxos_as_spent`, `store_new_pending_liquid_send`,
...) are not among the sources: their effect is modelled from the spec's persistent store and the
migration's schema.

## Contents
- **Store.** `VtxoState`, `LiquidSendRow`, the movement ledger, `WalletDb`, `WalletState`.
- **Writes.** `WalletWrite`, its effect `WalletDb.apply`, and `WalletDb.violation` (the UNIQUE
  constraint on the payment hash).
- **World.** `WalletEnv`, and the primitive steps `write`, `send`, `newMovement`,
  `deriveStoreNextKeypair`.
- **Segments.** `Proc`, a call cut at its `.await`s, and `Proc.run`, which runs it alone.
- **Frames.** `Keeps view x`: `x` leaves `view` of the wallet as it was, whether it returns or
  fails.
-/

namespace BarkLiquid.Wallet

/-! ## The store -/

/-- The state of a VTXO in the wallet's store. -/
inductive VtxoState where
  | spendable
  | locked (movementId : Option MovementId)
  | spent
deriving DecidableEq, Repr

/-- A VTXO as the store holds it. -/
structure WalletVtxo where
  vtxo : Vtxo
  state : VtxoState
deriving DecidableEq, Repr

/-- **A row of `bark_liquid_send`**, the table keyed by its `UNIQUE` payment hash. `finished`
    stands for `confirmed = 1` with `finished_at` set, which `finish_liquid_send` writes together;
    `id` and `created_at` are never read. -/
structure LiquidSendRow where
  liquidAddress : String
  amount : Amount
  htlcVtxoIds : List VtxoId
  movementId : MovementId
  finished : Bool
deriving DecidableEq, Repr

/-- **The `LiquidSend` record** the wallet passes around: a row with its HTLC VTXOs loaded. -/
structure LiquidSend where
  liquidAddress : String
  paymentHash : PaymentHash
  amount : Amount
  htlcVtxos : List Vtxo
  movementId : MovementId
deriving DecidableEq, Repr

/-- The final status of a movement. -/
inductive MovementStatus where
  | finished
  | failed
deriving DecidableEq, Repr

/-- A `MovementUpdate`, with the fields the bridge sets; `MovementUpdate::new()` leaves all unset. -/
structure MovementUpdate where
  intendedBalance : Option Int := none
  effectiveBalance : Option Int := none
  consumedVtxos : List Vtxo := []
  producedVtxos : List Vtxo := []
  exitedVtxos : List Vtxo := []
  sentTo : List (String × Amount) := []
  metadata : Option String := none
deriving DecidableEq, Repr

/-- An entry of the movement ledger, which the bridge only appends to. -/
inductive MovementEvent where
  | created (id : MovementId)
  | updated (id : MovementId) (update : MovementUpdate)
  | finished (id : MovementId) (status : MovementStatus)
deriving DecidableEq, Repr

/-- **The wallet's persistent state**, as far as the bridge reads or writes it. `exitVtxos` is the
    exit subsystem's set of VTXOs marked for unilateral exit; `keyIndex` the next derivation index. -/
structure WalletDb where
  vtxos : VtxoId → Option WalletVtxo
  liquidSends : PaymentHash → Option LiquidSendRow
  movements : List MovementEvent
  nextMovementId : MovementId
  exitVtxos : List Vtxo
  keyIndex : Nat

/-- The state of the wallet: its store, and every request it has sent to the server. -/
structure WalletState where
  db : WalletDb
  sent : List ServerRequest

/-- A step of a wallet call: Rust's `?` over the wallet's state. -/
abbrev WalletM := EStateM String WalletState

/-! ## Writes -/

/-- **A write to the wallet's store**, one per store, ledger or exit call of the bridge. -/
inductive WalletWrite where
  | storeKeyIndex (index : Nat)
  | newMovement
  | updateMovement (id : MovementId) (update : MovementUpdate)
  | finishMovement (id : MovementId) (status : MovementStatus)
  | storeLockedVtxos (vtxos : List Vtxo) (movementId : Option MovementId)
  | storeSpendableVtxos (vtxos : List Vtxo)
  | markVtxosAsSpent (ids : List VtxoId)
  | storeNewPendingLiquidSend (paymentHash : PaymentHash) (row : LiquidSendRow)
  | finishLiquidSend (paymentHash : PaymentHash)
  | removeLiquidSend (paymentHash : PaymentHash)
  | markVtxosForExit (vtxos : List Vtxo)
deriving DecidableEq, Repr

/-- Modelled from the spec: `store_locked_vtxos` and `store_spendable_vtxos` store VTXOs in a
    given state; the entry of each listed VTXO is replaced. -/
def storeVtxos (store : VtxoId → Option WalletVtxo) (vtxos : List Vtxo) (state : VtxoState) :
    VtxoId → Option WalletVtxo := fun id =>
  match vtxos.find? (fun v => v.id == id) with
  | some v => some ⟨v, state⟩
  | none => store id

/-- Modelled from the spec: `mark_vtxos_as_spent`; each stored VTXO among the ids becomes
    `Spent`. -/
def markSpent (store : VtxoId → Option WalletVtxo) (ids : List VtxoId) :
    VtxoId → Option WalletVtxo := fun id =>
  if id ∈ ids then (store id).map fun v => { v with state := .spent } else store id

/-- Modelled from the spec: `finish_liquid_send` sets `confirmed` and `finished_at` of the row
    under a hash, if there is one. -/
def finishRow (rows : PaymentHash → Option LiquidSendRow) (h : PaymentHash) :
    PaymentHash → Option LiquidSendRow :=
  Function.update rows h ((rows h).map fun r => { r with finished := true })

/-- Modelled from the spec: **the effect of a write that succeeds**, one case per store, ledger
    and exit call. -/
def WalletDb.apply (db : WalletDb) : WalletWrite → WalletDb
  | .storeKeyIndex i => { db with keyIndex := i }
  | .newMovement =>
    { db with
      movements := db.movements ++ [.created db.nextMovementId]
      nextMovementId := db.nextMovementId + 1 }
  | .updateMovement id u => { db with movements := db.movements ++ [.updated id u] }
  | .finishMovement id st => { db with movements := db.movements ++ [.finished id st] }
  | .storeLockedVtxos vs m => { db with vtxos := storeVtxos db.vtxos vs (.locked m) }
  | .storeSpendableVtxos vs => { db with vtxos := storeVtxos db.vtxos vs .spendable }
  | .markVtxosAsSpent ids => { db with vtxos := markSpent db.vtxos ids }
  | .storeNewPendingLiquidSend h row =>
    { db with liquidSends := Function.update db.liquidSends h (some row) }
  | .finishLiquidSend h => { db with liquidSends := finishRow db.liquidSends h }
  | .removeLiquidSend h => { db with liquidSends := Function.update db.liquidSends h none }
  | .markVtxosForExit vs => { db with exitVtxos := db.exitVtxos ++ vs }

/-- The writes one after another. -/
def WalletDb.applyAll (db : WalletDb) (ws : List WalletWrite) : WalletDb :=
  ws.foldl WalletDb.apply db

@[simp] theorem WalletDb.applyAll_nil (db : WalletDb) : db.applyAll [] = db := rfl

@[simp] theorem WalletDb.applyAll_cons (db : WalletDb) (w : WalletWrite) (ws : List WalletWrite) :
    db.applyAll (w :: ws) = (db.apply w).applyAll ws := rfl

@[simp] theorem WalletDb.applyAll_append (db : WalletDb) (ws ws' : List WalletWrite) :
    db.applyAll (ws ++ ws') = (db.applyAll ws).applyAll ws' :=
  List.foldl_append _ _ _ _

/-- SQLite's error for a second row under one payment hash. -/
def uniqueViolation : String := "UNIQUE constraint failed: bark_liquid_send.payment_hash"

/-- The constraint a write violates in a store, if any: only inserting a row can. -/
def WalletDb.violation (db : WalletDb) : WalletWrite → Option String
  | .storeNewPendingLiquidSend h _ =>
    if (db.liquidSends h).isSome then some uniqueViolation else none
  | _ => none

/-- The VTXO store and the `bark_liquid_send` table. -/
def WalletDb.holdings (db : WalletDb) :=
  (db.vtxos, db.liquidSends)

/-- A write's effect on the VTXO store and the table reads nothing else of the store. -/
theorem WalletDb.holdings_apply {a b : WalletDb} (h : a.holdings = b.holdings) (w : WalletWrite) :
    (a.apply w).holdings = (b.apply w).holdings := by
  simp only [holdings, Prod.mk.injEq] at h ⊢
  obtain ⟨hv, hr⟩ := h
  cases w <;> simp [apply, hv, hr]

theorem WalletDb.holdings_applyAll {a b : WalletDb} (h : a.holdings = b.holdings)
    (ws : List WalletWrite) : (a.applyAll ws).holdings = (b.applyAll ws).holdings := by
  induction ws generalizing a b with
  | nil => exact h
  | cons w ws ih => exact ih (holdings_apply h w)

/-! ### What each write leaves alone -/

section Frame

variable (db : WalletDb)

/-- The writes that touch the `bark_liquid_send` table. -/
def WalletWrite.touchesRows : WalletWrite → Bool
  | .storeNewPendingLiquidSend _ _ | .finishLiquidSend _ | .removeLiquidSend _ => true
  | _ => false

/-- The writes that touch the VTXO store. -/
def WalletWrite.touchesVtxos : WalletWrite → Bool
  | .storeLockedVtxos _ _ | .storeSpendableVtxos _ | .markVtxosAsSpent _ => true
  | _ => false

theorem WalletDb.apply_liquidSends {w : WalletWrite} (hw : w.touchesRows = false) :
    (db.apply w).liquidSends = db.liquidSends := by
  cases w <;> simp_all [WalletWrite.touchesRows, WalletDb.apply]

theorem WalletDb.apply_vtxos {w : WalletWrite} (hw : w.touchesVtxos = false) :
    (db.apply w).vtxos = db.vtxos := by
  cases w <;> simp_all [WalletWrite.touchesVtxos, WalletDb.apply]

theorem WalletDb.violation_eq_none {w : WalletWrite} (hw : w.touchesRows = false) :
    db.violation w = none := by
  cases w <;> simp_all [WalletWrite.touchesRows, WalletDb.violation]

end Frame

/-! ## The world of a wallet call -/

/-- **The world of one wallet call**: the outcome of every external call it can make. The server's
    RPCs answer as functions of the request; the signing library as a function of the package; and
    `fault` says which writes fail, and with what error. -/
structure WalletEnv where
  /-- `config().vtxo_refresh_expiry_threshold`. -/
  vtxoRefreshExpiryThreshold : BlockHeight
  /-- `require_server()`: a connected server, or why there is none. -/
  requireServer : Except String Unit
  /-- `chain.tip()`. -/
  tip : Except String BlockHeight
  /-- `chain.get_tx(txid)`, a transaction by its txid. -/
  getTx : String → Except String (Option String)
  requestLiquidPayHtlcCosign :
    LiquidPayHtlcCosignRequest → Except String LiquidPayHtlcCosignResponse
  initiateLiquidPayment : InitiateLiquidPaymentRequest → Except String LiquidPaymentResult
  checkLiquidPayment : CheckLiquidPaymentRequest → Except String LiquidPaymentResult
  /-- The revocation RPC, with the decoding of each cosignature of its reply. -/
  requestLiquidPayHtlcRevocation :
    RevokeLiquidPayHtlcRequest → Except String (List (Except String ArkoorCosignResponse))
  /-- The keypair at a derivation index. -/
  keypairAt : Nat → Keypair
  getVtxoKey : Vtxo → Except String Keypair
  /-- `musig::nonce_pair`. -/
  noncePair : Keypair → SecretNonce × PublicNonce
  selectVtxosToCover : WalletDb → Amount → Except String (List Vtxo)
  /-- Whether the library accepts a package (`ArkoorPackageBuilder::new`, `new_htlc_revocation`). -/
  newPackage : ArkoorPackageBuilder → Except String Unit
  verifyCosignResponse : ArkoorPackageBuilder → List ArkoorCosignResponse → Bool
  /-- `build_vtxos`: the signed outputs and the change output. -/
  buildVtxos : ArkoorPackageBuilder → List ArkoorCosignResponse →
    Except String (List Vtxo × Option Vtxo)
  validateVtxo : Vtxo → Except String Unit
  /-- `Vtxo::validate` of the change output against the chain anchor's transaction. -/
  validateChange : Vtxo → String → Except String Unit
  /-- `LightningMovement::htlc_metadata`. -/
  htlcMetadata : List Vtxo → Except String String
  fault : WalletWrite → Option String

section Primitives

variable (env : WalletEnv)

/-- **One write.** It fails with the constraint it violates or the fault the world injects, and
    then changes nothing; otherwise it takes effect. -/
def write (w : WalletWrite) : WalletM Unit := fun s =>
  match s.db.violation w with
  | some e => .error e s
  | none =>
    match env.fault w with
    | some e => .error e s
    | none => .ok () { s with db := s.db.apply w }

/-- A request to the server leaves the wallet (and is recorded in `WalletState.sent`). -/
def send (req : ServerRequest) : WalletM Unit :=
  modify fun s => { s with sent := s.sent ++ [req] }

/-- Modelled from the spec: `movements.new_movement`, the ledger's next id. -/
def newMovement : WalletM MovementId := do
  let s ← get
  write env .newMovement
  pure s.db.nextMovementId

/-- Modelled from the spec: `derive_store_next_keypair`, the keypair at the next index, whose
    successor is stored. -/
def deriveStoreNextKeypair : WalletM (Keypair × Nat) := do
  let s ← get
  write env (.storeKeyIndex (s.db.keyIndex + 1))
  pure (env.keypairAt s.db.keyIndex, s.db.keyIndex)

/-- The error of `Amount::to_signed` (rust-bitcoin's `OutOfRangeError`, outside this repository). -/
def amountOutOfRange : String := "the amount is greater than 9223372036854775807"

/-- `Amount::to_signed`: an amount as an `i64`, which fails above `i64::MAX`. -/
def toSigned (a : Amount) : Except String Int :=
  if a ≤ 2 ^ 63 - 1 then .ok a else .error amountOutOfRange

theorem toSigned_eq_ok {a : Amount} {x : Int} (h : toSigned a = .ok x) : x = a := by
  unfold toSigned at h
  split at h
  · cases h; rfl
  · cases h

end Primitives

section PrimitiveLemmas

variable {env : WalletEnv} {s : WalletState}

/-- **Spec of a write.** -/
theorem write_apply (w : WalletWrite) :
    write env w s = match s.db.violation w, env.fault w with
      | none, none => .ok () { s with db := s.db.apply w }
      | some e, _ => .error e s
      | none, some e => .error e s := by
  unfold write
  cases s.db.violation w <;> cases env.fault w <;> rfl

/-- A write that no constraint forbids fails exactly as the world says. -/
@[simp] theorem write_of_touchesRows (w : WalletWrite) (hw : w.touchesRows = false) :
    write env w s = match env.fault w with
      | none => .ok () { s with db := s.db.apply w }
      | some e => .error e s := by
  rw [write_apply, WalletDb.violation_eq_none _ hw]
  cases env.fault w <;> rfl

@[simp] theorem send_apply (req : ServerRequest) :
    send req s = .ok () { s with sent := s.sent ++ [req] } := rfl

end PrimitiveLemmas

/-! ## Segments between awaits -/

/-- **A wallet call cut at its `.await`s.** `step f next` is one segment: run without interruption,
    it moves the wallet from `s` to `f s`, and `next s` is the rest of the call. -/
inductive Proc (α : Type) where
  | done (r : Except String α)
  | step (f : WalletState → WalletState) (next : WalletState → Proc α)

/-- A segment given by the code it runs, and the rest of the call given its result. -/
def Proc.atomic {α β : Type} (x : WalletM β) (k : β → Proc α) : Proc α :=
  .step (fun s => resultState (x s)) fun s =>
    match x s with
    | .ok b _ => k b
    | .error e _ => .done (.error e)

/-- **The call run alone**: its segments one after another, with nothing in between. -/
def Proc.run {α : Type} : Proc α → WalletM α
  | .done r => fun s =>
    match r with
    | .ok a => .ok a s
    | .error e => .error e s
  | .step f next => fun s => (next s).run (f s)

section ProcLemmas

variable {α β : Type} {s : WalletState}

/-- A segment run alone is a bind. -/
theorem Proc.run_atomic_eq_bind (x : WalletM β) (k : β → Proc α) :
    (Proc.atomic x k).run = x >>= fun b => (k b).run := by
  funext s
  simp only [Proc.atomic, Proc.run, bind_apply]
  cases x s <;> rfl

@[simp] theorem Proc.run_done_ok (a : α) : (Proc.done (.ok a)).run s = .ok a s := rfl

@[simp] theorem Proc.run_done_error (e : String) :
    (Proc.done (.error e) : Proc α).run s = .error e s := rfl

@[simp] theorem Proc.run_atomic (x : WalletM β) (k : β → Proc α) :
    (Proc.atomic x k).run s = match x s with
      | .ok b s' => (k b).run s'
      | .error e s' => .error e s' := by
  simp only [Proc.atomic, Proc.run]
  cases x s <;> rfl

end ProcLemmas

/-- **Every segment of a call keeps `P`**, from every state where `P` holds, and so does every rest
    of the call it leads to. Interleaved with other such calls, the call keeps `P` too. -/
inductive Proc.Preserves (P : WalletState → Prop) {α : Type} : Proc α → Prop
  | done (r : Except String α) : Proc.Preserves P (.done r)
  | step {f : WalletState → WalletState} {next : WalletState → Proc α} :
      (∀ s, P s → P (f s)) → (∀ s, Proc.Preserves P (next s)) → Proc.Preserves P (.step f next)

theorem Proc.Preserves.atomic {α β : Type} {P : WalletState → Prop} {x : WalletM β}
    {k : β → Proc α} (hx : ∀ s, P s → P (resultState (x s))) (hk : ∀ b, (k b).Preserves P) :
    (Proc.atomic x k).Preserves P :=
  .step hx fun s => by
    cases x s with
    | ok b _ => exact hk b
    | error e _ => exact .done _

/-! ## Frames -/

/-- **What a payment commits the wallet to**: the VTXO store, the `bark_liquid_send` rows, and the
    initiate requests sent to the server. -/
def WalletState.footprint (s : WalletState) :=
  (s.db.vtxos, s.db.liquidSends, s.sent.filterMap ServerRequest.initiate?)

/-- **The requests the wallet sent to the server's tracker**, in order: initiate and check. -/
def WalletState.trackerRequests (s : WalletState) : List ServerRequest :=
  s.sent.filter ServerRequest.tracked

theorem WalletState.holdings_of_footprint {s t : WalletState} (h : s.footprint = t.footprint) :
    s.db.holdings = t.db.holdings := by
  simp only [footprint, Prod.mk.injEq] at h
  simp only [WalletDb.holdings, h]

theorem WalletState.footprint_send {r : ServerRequest} (hr : r.initiate? = none) (s : WalletState) :
    { s with sent := s.sent ++ [r] }.footprint = s.footprint := by
  simp [footprint, hr]

theorem WalletState.footprint_apply {w : WalletWrite} (hv : w.touchesVtxos = false)
    (hr : w.touchesRows = false) (s : WalletState) :
    { s with db := s.db.apply w }.footprint = s.footprint := by
  simp only [footprint, WalletDb.apply_vtxos _ hv, WalletDb.apply_liquidSends _ hr]

/-- **A computation that leaves `view` of the wallet as it was**, whether it returns or fails. -/
def Keeps {β α : Type} (view : WalletState → β) (x : WalletM α) : Prop :=
  ∀ s, view (resultState (x s)) = view s

section Keeps

variable {β α γ : Type} {view : WalletState → β}

theorem Keeps.bind {x : WalletM α} {f : α → WalletM γ} (hx : Keeps view x)
    (hf : ∀ a, Keeps view (f a)) : Keeps view (x >>= f) := by
  intro s
  have hs := hx s
  simp only [bind_apply]
  cases h : x s with
  | ok a s' => rw [h] at hs; exact (hf a s').trans hs
  | error e s' => rw [h] at hs; exact hs

theorem Keeps.of_id {x : WalletM α} (h : Keeps id x) : Keeps view x :=
  fun s => congrArg view (h s)

theorem keeps_pure (a : α) : Keeps view (pure a : WalletM α) := fun _ => rfl

theorem keeps_throw (e : String) : Keeps view (throw e : WalletM α) := fun _ => rfl

theorem keeps_get : Keeps view (get : WalletM WalletState) := fun _ => rfl

theorem keeps_liftExcept (r : Except String α) : Keeps view (liftExcept r : WalletM α) := by
  intro s; cases r <;> rfl

theorem keeps_context (m : String) (r : Except String α) :
    Keeps view (context m r : WalletM α) := by
  intro s; cases r <;> rfl

theorem keeps_contextOpt (m : String) (r : Option α) :
    Keeps view (contextOpt m r : WalletM α) := by
  intro s; cases r <;> rfl

theorem keeps_ensure (c : Bool) (m : String) : Keeps view (ensure c m : WalletM Unit) := by
  intro s; cases c <;> rfl

theorem keeps_write {env : WalletEnv} (w : WalletWrite)
    (hw : ∀ s : WalletState, view { s with db := s.db.apply w } = view s) :
    Keeps view (write env w) := by
  intro s
  rw [write_apply]
  split <;> simp only [resultState_ok, resultState_error, hw]

theorem keeps_bailIf (c : Prop) [Decidable c] (m : String) :
    Keeps view (bailIf c m : WalletM Unit) := by
  intro s; unfold bailIf; split <;> rfl

theorem keeps_send (r : ServerRequest)
    (hr : ∀ s : WalletState, view { s with sent := s.sent ++ [r] } = view s) :
    Keeps view (send r) := fun s => hr s

theorem keeps_forM {f : γ → WalletM PUnit} (hf : ∀ a, Keeps view (f a)) (l : List γ) :
    Keeps view (l.forM f) := by
  induction l with
  | nil => exact keeps_pure _
  | cons a l ih => exact (hf a).bind fun _ => ih

theorem keeps_onError {x : WalletM Unit} {handler : String → WalletM Unit} (hx : Keeps view x)
    (hh : ∀ e, Keeps view (handler e)) : Keeps view (onError x handler) := by
  intro s
  have hs := hx s
  rw [onError_apply]
  cases h : x s with
  | ok _ s' => rw [h] at hs; exact hs
  | error e s' => rw [h] at hs; exact (hh e s').trans hs

/-- **A computation that leaves `view` as it was or changes it by `R`**, whether it returns or
    fails. -/
def ChangesBy (view : WalletState → β) (R : β → β → Prop) (x : WalletM α) : Prop :=
  ∀ s, view (resultState (x s)) = view s ∨ R (view s) (view (resultState (x s)))

theorem Keeps.bind_changesBy {R : β → β → Prop} {x : WalletM α} {f : α → WalletM γ}
    (hx : Keeps view x) (hf : ∀ a, ChangesBy view R (f a)) : ChangesBy view R (x >>= f) := by
  intro s
  have hs := hx s
  rw [bind_apply]
  cases h : x s with
  | ok a s' =>
    rw [h, resultState_ok] at hs
    rcases hf a s' with h' | h'
    · exact .inl (h'.trans hs)
    · exact .inr (hs ▸ h')
  | error e s' => rw [h] at hs; exact .inl hs

theorem ChangesBy.bind_keeps {R : β → β → Prop} {x : WalletM α} {f : α → WalletM γ}
    (hx : ChangesBy view R x) (hf : ∀ a, Keeps view (f a)) : ChangesBy view R (x >>= f) := by
  intro s
  have hs := hx s
  rw [bind_apply]
  cases h : x s with
  | ok a s' => rw [h, resultState_ok] at hs; rw [hf a s']; exact hs
  | error e s' => rw [h] at hs; exact hs

/-- A segment that keeps the view, run on to the rest of the call. -/
theorem Keeps.run_atomic {R : β → β → Prop} {x : WalletM α} {k : α → Proc γ} (hx : Keeps view x)
    (hk : ∀ a, ChangesBy view R (k a).run) : ChangesBy view R (Proc.atomic x k).run := by
  rw [Proc.run_atomic_eq_bind]
  exact hx.bind_changesBy hk

end Keeps

/-- **A view that reads only the `bark_liquid_send` table and the requests sent.** -/
def RowsAndSent {β : Type} (view : WalletState → β) : Prop :=
  ∀ s t : WalletState, s.db.liquidSends = t.db.liquidSends → s.sent = t.sent → view s = view t

theorem RowsAndSent.write {β : Type} {view : WalletState → β} (hv : RowsAndSent view)
    {w : WalletWrite} (hw : w.touchesRows = false) (s : WalletState) :
    view { s with db := s.db.apply w } = view s :=
  hv _ _ (WalletDb.apply_liquidSends _ hw) rfl

section KeepsOf

variable {β : Type} {view : WalletState → β} {env : WalletEnv}

theorem keeps_deriveStoreNextKeypair_of
    (hw : ∀ (s : WalletState) (i : Nat), view { s with db := s.db.apply (.storeKeyIndex i) } = view s) :
    Keeps view (deriveStoreNextKeypair env) :=
  keeps_get.bind fun _ => (keeps_write _ fun s => hw s _).bind fun _ => keeps_pure _

theorem keeps_newMovement_of (hw : ∀ s : WalletState, view { s with db := s.db.apply .newMovement } = view s) :
    Keeps view (newMovement env) :=
  keeps_get.bind fun _ => (keeps_write _ hw).bind fun _ => keeps_pure _

end KeepsOf

theorem keeps_newMovement {env : WalletEnv} : Keeps WalletState.footprint (newMovement env) :=
  keeps_newMovement_of (WalletState.footprint_apply (by rfl) (by rfl))

end BarkLiquid.Wallet
