import Mathlib.Data.List.Basic

/-!
# `BarkLiquid.Basic` — the shared vocabulary of the Liquid bridge

Both parties of the bridge (the wallet in `bark/src/liquid/pay.rs` and the server in
`server/src/liquid/mod.rs`) speak about the same few things: VTXOs and their policies, payment
hashes, and the protobuf messages of the wire protocol. This file fixes them once.

Identifiers, amounts, keys and heights are modelled by natural numbers (`bitcoin::Amount` is a
`u64` of satoshis; only the `to_signed` conversion can overflow, and it is modelled where it is
called). Cryptographic material (nonces, partial signatures) is opaque: the model carries it from
one call to the next but never looks inside.

## Contents
- **VTXOs.** `VtxoPolicy` with its `ServerHtlcSend` arm, `Vtxo`.
- **Wire protocol.** The request and reply messages, and the `PaymentStatus` enum with its `i32`
  codec (`PaymentStatus.tryFrom_toI32` is the round trip).
- **`?`-style computations.** Rust's early return on `Err` is `EStateM String σ`: a failed call
  keeps the state it reached. `liftExcept` and `context` turn the outcome of an external call into
  such a step, with the `anyhow` context message where the source attaches one.
-/

namespace BarkLiquid

/-- A payment hash, the 32-byte image the two parties share, modelled by its value. -/
abbrev PaymentHash := Nat
/-- A VTXO identifier. -/
abbrev VtxoId := Nat
/-- A `bitcoin::Amount`, in satoshis. -/
abbrev Amount := Nat
/-- A block height of the chain. -/
abbrev BlockHeight := Nat
/-- A public key. -/
abbrev PublicKey := Nat
/-- A MuSig2 public nonce. -/
abbrev PublicNonce := Nat
/-- A MuSig2 secret nonce (consumed by `build_vtxos`). -/
abbrev SecretNonce := Nat
/-- A server cosignature of one arkoor transaction. -/
abbrev ArkoorCosignResponse := Nat
/-- An id in the wallet's movement ledger. -/
abbrev MovementId := Nat
/-- A payment preimage. -/
abbrev Preimage := Nat

/-- A keypair; the model only reads its public half. -/
structure Keypair where
  publicKey : PublicKey
deriving DecidableEq, Repr

/-! ## VTXOs -/

/-- The `ServerHtlcSend` arm of a VTXO policy: the server holds the hashlock branch, the user
    (with a server cosignature) the refund branch after `htlcExpiry`. -/
structure ServerHtlcSendVtxoPolicy where
  userPubkey : PublicKey
  paymentHash : PaymentHash
  htlcExpiry : BlockHeight
deriving DecidableEq, Repr

/-- A VTXO spending policy. Only `serverHtlcSend` matters to the bridge. -/
inductive VtxoPolicy where
  | pubkey (userPubkey : PublicKey)
  | serverHtlcSend (policy : ServerHtlcSendVtxoPolicy)
  | serverHtlcRecv (userPubkey : PublicKey) (paymentHash : PaymentHash) (htlcExpiry : BlockHeight)
deriving DecidableEq, Repr

/-- Cast-by-variant: the `ServerHtlcSend` arm, if that is the policy's variant. -/
def VtxoPolicy.asServerHtlcSend : VtxoPolicy → Option ServerHtlcSendVtxoPolicy
  | .serverHtlcSend p => some p
  | _ => none

@[simp] theorem VtxoPolicy.asServerHtlcSend_eq_some {p : VtxoPolicy}
    {q : ServerHtlcSendVtxoPolicy} : p.asServerHtlcSend = some q ↔ p = .serverHtlcSend q := by
  cases p <;> simp [asServerHtlcSend]

/-- An Ark VTXO, with the fields the bridge reads: its policy, the expiry height of its spec and
    the txid of its chain anchor. -/
structure Vtxo where
  id : VtxoId
  amount : Amount
  policy : VtxoPolicy
  expiryHeight : BlockHeight
  chainAnchor : String
deriving DecidableEq, Repr

/-- A `VtxoRequest`: the amount and policy of one output. -/
structure VtxoRequest where
  amount : Amount
  policy : VtxoPolicy
deriving DecidableEq, Repr

/-- **A package of the signing library** (`ArkoorPackageBuilder`): a send package from the inputs
    to outputs under `payReq` with change to `changePubkey`, or the revocation of HTLC VTXOs. -/
inductive ArkoorPackageBuilder where
  | send (inputs : List Vtxo) (userNonces : List PublicNonce) (payReq : VtxoRequest)
      (changePubkey : Option PublicKey)
  | htlcRevocation (inputs : List Vtxo) (userNonces : List PublicNonce)
deriving DecidableEq, Repr

/-! ## Wire protocol -/

/-- Modelled from the spec: **the protobuf enum of a payment's status** (the fork's `.proto` is not
    among the sources). Encoded as an `i32` on the wire. -/
inductive PaymentStatus where
  | pending
  | complete
  | failed
deriving DecidableEq, Repr

/-- Modelled from the spec: the wire value of a status (`protos::PaymentStatus::X as i32`). -/
def PaymentStatus.toI32 : PaymentStatus → Int
  | .pending => 0
  | .complete => 1
  | .failed => 2

/-- Modelled from the spec: decoding a wire value (`protos::PaymentStatus::try_from`); any other
    value is prost's `UnknownEnumValue` error. -/
def PaymentStatus.tryFrom (v : Int) : Except String PaymentStatus :=
  if v = 0 then .ok .pending
  else if v = 1 then .ok .complete
  else if v = 2 then .ok .failed
  else .error ("unknown enumeration value " ++ toString v)

/-- **Round trip.** Decoding an encoded status gives it back. -/
@[simp] theorem PaymentStatus.tryFrom_toI32 (s : PaymentStatus) : tryFrom s.toI32 = .ok s := by
  cases s <;> rfl

/-- Decoding succeeds only on the image of the encoding. -/
theorem PaymentStatus.tryFrom_eq_ok {v : Int} {s : PaymentStatus} (h : tryFrom v = .ok s) :
    v = s.toI32 := by
  unfold tryFrom at h
  split_ifs at h <;> cases h <;> simp_all [toI32]

/-- The reply of the server's `initiate_liquid_payment` and `check_liquid_payment`. -/
structure LiquidPaymentResult where
  progressMessage : String
  status : Int
  paymentHash : PaymentHash
deriving DecidableEq, Repr

/-- The wallet's cosign request. It carries no payment hash. -/
structure LiquidPayHtlcCosignRequest where
  liquidAddress : String
  amountSat : Amount
  inputVtxoIds : List VtxoId
  userNonces : List PublicNonce
  userPubkey : PublicKey
deriving DecidableEq, Repr

/-- The server's cosign reply. Each wire field is modelled by the outcome of decoding it: a
    signature share that fails `try_into`, or policy bytes that fail `VtxoPolicy::deserialize`,
    are an `error`. -/
structure LiquidPayHtlcCosignResponse where
  sigs : List (Except String ArkoorCosignResponse)
  policy : Except String VtxoPolicy

/-- The request that asks the server to forward the payment on the sidechain. -/
structure InitiateLiquidPaymentRequest where
  liquidAddress : String
  amountSat : Amount
  paymentHash : PaymentHash
  htlcVtxoIds : List VtxoId
  wait : Bool
deriving DecidableEq, Repr

/-- The status query. -/
structure CheckLiquidPaymentRequest where
  hash : PaymentHash
  wait : Bool
deriving DecidableEq, Repr

/-- The revocation cosign request. -/
structure RevokeLiquidPayHtlcRequest where
  htlcVtxoIds : List VtxoId
  userNonces : List PublicNonce
deriving DecidableEq, Repr

/-- **A message the wallet sends to the server**, as recorded on the wire. -/
inductive ServerRequest where
  | cosign (req : LiquidPayHtlcCosignRequest)
  | initiate (req : InitiateLiquidPaymentRequest)
  | check (req : CheckLiquidPaymentRequest)
  | revoke (req : RevokeLiquidPayHtlcRequest)
deriving DecidableEq, Repr

/-- The initiate request a request is, if it is one. -/
def ServerRequest.initiate? : ServerRequest → Option InitiateLiquidPaymentRequest
  | .initiate r => some r
  | _ => none

/-- The requests that reach the server's payment tracker: initiate and check. Cosign requests do
    not touch it, and the revocation handler is not among the sources. -/
def ServerRequest.tracked : ServerRequest → Bool
  | .initiate _ | .check _ => true
  | _ => false

/-- External replies are compared in tests and traces. -/
instance decEqExcept {ε α : Type} [DecidableEq ε] [DecidableEq α] : DecidableEq (Except ε α)
  | .ok a, .ok b => if h : a = b then isTrue (h ▸ rfl) else isFalse fun e => by cases e; exact h rfl
  | .error a, .error b =>
    if h : a = b then isTrue (h ▸ rfl) else isFalse fun e => by cases e; exact h rfl
  | .ok _, .error _ => isFalse fun e => by cases e
  | .error _, .ok _ => isFalse fun e => by cases e

/-! ## `?`-style computations -/

/-- The outcome of an external call, as a step that returns early on `Err`. -/
def liftExcept {σ α : Type} : Except String α → EStateM String σ α
  | .ok a => pure a
  | .error e => throw e

/-- **anyhow's `.context(msg)?`.** On `Err` (or `None`) the error shown is the context message. -/
def context {σ α : Type} (msg : String) : Except String α → EStateM String σ α
  | .ok a => pure a
  | .error _ => throw msg

/-- anyhow's `.context(msg)?` on an `Option`. -/
def contextOpt {σ α : Type} (msg : String) : Option α → EStateM String σ α
  | some a => pure a
  | none => throw msg

/-- anyhow's `ensure!(cond, msg)`. -/
def ensure {σ : Type} (cond : Bool) (msg : String) : EStateM String σ Unit :=
  if cond then pure () else throw msg

/-- `if cond { bail!(msg) }`. -/
def bailIf {σ : Type} (cond : Prop) [Decidable cond] (msg : String) : EStateM String σ Unit :=
  if cond then throw msg else pure ()

/-- **Rust's `if let Err(e) = x { handler(e) }`.** The handler runs from the state the failed
    computation reached: nothing is rolled back. -/
def onError {σ : Type} (x : EStateM String σ Unit) (handler : String → EStateM String σ Unit) :
    EStateM String σ Unit := fun s =>
  match x s with
  | .ok _ s' => .ok () s'
  | .error e s' => handler e s'

/-- The state a finished computation left, whether it returned or failed. -/
def resultState {ε σ α : Type} : EStateM.Result ε σ α → σ
  | .ok _ s => s
  | .error _ s => s

/-- What a finished computation returned. -/
def resultValue {ε σ α : Type} : EStateM.Result ε σ α → Except ε α
  | .ok a _ => .ok a
  | .error e _ => .error e

section Monad

variable {σ α β : Type} {s : σ}

@[simp] theorem bind_apply (x : EStateM String σ α) (f : α → EStateM String σ β) :
    (x >>= f) s = match x s with
      | .ok a s' => f a s'
      | .error e s' => .error e s' := by
  cases h : x s <;> simp [bind, EStateM.bind, h]

@[simp] theorem map_apply (f : α → β) (x : EStateM String σ α) :
    (f <$> x) s = match x s with
      | .ok a s' => .ok (f a) s'
      | .error e s' => .error e s' := by
  cases h : x s <;> simp [Functor.map, EStateM.map, h]

@[simp] theorem pure_apply (a : α) : (pure a : EStateM String σ α) s = .ok a s := rfl

@[simp] theorem throw_apply (e : String) : (throw e : EStateM String σ α) s = .error e s := rfl

@[simp] theorem get_apply : (get : EStateM String σ σ) s = .ok s s := rfl

@[simp] theorem modify_apply (f : σ → σ) : (modify f : EStateM String σ PUnit) s = .ok () (f s) :=
  rfl

@[simp] theorem liftExcept_ok (a : α) : (liftExcept (.ok a) : EStateM String σ α) s = .ok a s :=
  rfl

@[simp] theorem liftExcept_error (e : String) :
    (liftExcept (.error e) : EStateM String σ α) s = .error e s := rfl

@[simp] theorem context_ok (m : String) (a : α) :
    (context m (.ok a) : EStateM String σ α) s = .ok a s := rfl

@[simp] theorem context_error (m e : String) :
    (context m (.error e) : EStateM String σ α) s = .error m s := rfl

@[simp] theorem contextOpt_some (m : String) (a : α) :
    (contextOpt m (some a) : EStateM String σ α) s = .ok a s := rfl

@[simp] theorem contextOpt_none (m : String) :
    (contextOpt m none : EStateM String σ α) s = .error m s := rfl

@[simp] theorem ensure_true (m : String) : (ensure true m : EStateM String σ Unit) s = .ok () s :=
  rfl

@[simp] theorem ensure_false (m : String) :
    (ensure false m : EStateM String σ Unit) s = .error m s := rfl

@[simp] theorem bailIf_apply (c : Prop) [Decidable c] (m : String) :
    (bailIf c m : EStateM String σ Unit) s = if c then .error m s else .ok () s := by
  unfold bailIf; split <;> rfl

@[simp] theorem onError_apply (x : EStateM String σ Unit) (h : String → EStateM String σ Unit) :
    (onError x h) s = match x s with
      | .ok _ s' => .ok () s'
      | .error e s' => h e s' := rfl

/-- **Inversion of `?` on `Result`.** -/
theorem except_bind_eq_ok {x : Except String α} {f : α → Except String β} {b : β}
    (h : x >>= f = .ok b) : ∃ a, x = .ok a ∧ f a = .ok b := by
  cases x with
  | error e => cases h
  | ok a => exact ⟨a, rfl, h⟩

/-- **Inversion of `?`.** A sequence that returned ran its first step to a return. -/
theorem bind_eq_ok {x : EStateM String σ α} {f : α → EStateM String σ β} {b : β} {s' : σ}
    (h : (x >>= f) s = .ok b s') : ∃ a s₁, x s = .ok a s₁ ∧ f a s₁ = .ok b s' := by
  rw [bind_apply] at h
  cases hx : x s with
  | ok a s₁ => exact ⟨a, s₁, rfl, by rwa [hx] at h⟩
  | error e s₁ => rw [hx] at h; cases h

theorem liftExcept_eq_ok {r : Except String α} {a : α} {s' : σ}
    (h : (liftExcept r : EStateM String σ α) s = .ok a s') : r = .ok a := by
  cases r <;> cases h; rfl

theorem context_eq_ok {m : String} {r : Except String α} {a : α} {s' : σ}
    (h : (context m r : EStateM String σ α) s = .ok a s') : r = .ok a := by
  cases r <;> cases h; rfl

/-- An external call that returned leaves the state as it was. -/
theorem liftExcept_eq_ok_iff {r : Except String α} {a : α} {s' : σ} :
    (liftExcept r : EStateM String σ α) s = .ok a s' ↔ r = .ok a ∧ s' = s := by
  cases r <;> simp [liftExcept, eq_comm]

theorem contextOpt_eq_ok_iff {m : String} {o : Option α} {a : α} {s' : σ} :
    (contextOpt m o : EStateM String σ α) s = .ok a s' ↔ o = some a ∧ s' = s := by
  cases o <;> simp [contextOpt, eq_comm]

/-- A computation whose value is a return returned, in some state. -/
theorem resultValue_eq_ok {ε : Type} {r : EStateM.Result ε σ α} {a : α} (h : resultValue r = .ok a) :
    ∃ s', r = .ok a s' := by
  cases r with
  | ok a' s' => cases h; exact ⟨s', rfl⟩
  | error e s' => cases h

@[simp] theorem resultState_ok (a : α) : resultState (.ok a s : EStateM.Result String σ α) = s :=
  rfl

@[simp] theorem resultState_error (e : String) :
    resultState (.error e s : EStateM.Result String σ α) = s := rfl

end Monad

end BarkLiquid
