import BarkLiquid.Server.Run

/-!
# `BarkLiquid.Server.Backed` — a `Sent` or `Confirmed` payment was sent

`initiate_liquid_payment` records a payment as `Sent`, with a txid, only once the daemon's
`sendtoaddress` has returned that txid, and `check_liquid_payment` records `Confirmed` only over a
`Sent` payment it read. So under every interleaving of the server's calls, an entry that is `Sent`
or `Confirmed` carries the txid of a `sendtoaddress` that succeeded, made for the entry's own
address, amount, hash and HTLC VTXOs (`sent_entries_backed`).

The check writes back the snapshot it read before `gettransaction`, and may overwrite a newer
entry. The snapshot was backed when it was read, and the sidechain's record only grows
(`resume_sends_grow`), so it is still backed when it is written.

## Contents
* `ServerState.Backed`, `ServerCall.Backed`, `BackedInv` — the invariant of the state and of the
  calls in flight.
* `resume_sends_grow`, `resume_backed`, `BackedInv.step`, `BackedInv.of_reachable` — the step
  lemmas and the run lemma.
* `sent_entries_backed` — over every reachable server.
-/

namespace BarkLiquid.Server

/-- **A `Sent` or `Confirmed` entry was sent**: it is the payment of a `sendtoaddress` that
    succeeded, with that call's txid. -/
def ServerState.Backed (s : ServerState) : Prop :=
  ∀ h q, s.liquidPayments h = some q → (q.status = .sent ∨ q.status = .confirmed) →
    ∃ p txid, (p, .ok txid) ∈ s.sidechainSends ∧
      q = { p with status := q.status, liquidTxid := some txid }

/-- What a call in flight knows of the sidechain's record `sends`: an initiate call past its
    `sendtoaddress` finds its send there, and a check call waiting on `gettransaction` holds a
    `Sent` payment that was sent. -/
def ServerCall.Backed (sends : List (LiquidPayment × Except String String)) : ServerCall → Prop
  | .recording p r => (p, r) ∈ sends
  | .querying _ q _ => ∃ p txid, (p, .ok txid) ∈ sends ∧
      q = { p with status := .sent, liquidTxid := some txid }
  | _ => True

/-- **The invariant of every reachable server.** -/
structure BackedInv (sys : ServerSys) : Prop where
  state : sys.state.Backed
  calls : ∀ i c, sys.calls i = some c → c.Backed sys.state.sidechainSends

variable {cfg : ServerConfig} {s : ServerState}

/-! ## Step lemmas -/

/-- The sidechain's record only grows. -/
theorem resume_sends_grow (c : ServerCall) :
    ∀ x ∈ s.sidechainSends, x ∈ (c.resume cfg s).2.sidechainSends := by
  cases c with
  | initiate a amt h ids reply =>
    by_cases hv : InitiateValid cfg ids
    · simp [ServerCall.resume, ServerCall.block, initiateBegin_of_valid _ hv]
    · obtain ⟨e, he⟩ := initiateBegin_of_invalid a amt h s hv
      simp [ServerCall.resume, ServerCall.block, he]
  | sending p reply => exact fun x hx => by simp [ServerCall.resume, ServerCall.block, hx]
  | recording p sent => cases sent <;> simp [ServerCall.resume, ServerCall.block]
  | check h reply =>
    simp only [ServerCall.resume, ServerCall.block, checkBegin_apply]
    cases s.liquidPayments h with
    | none => exact fun _ => id
    | some p => cases checkPaymentStatus cfg h p <;> exact fun _ => id
  | querying h p reply =>
    obtain ⟨r, -, hr | hr⟩ := checkEnd_cases h p reply s <;>
      simp [ServerCall.resume, ServerCall.block, hr]
  | returned r => exact fun _ => id

theorem ServerCall.Backed.mono {sends sends' : List (LiquidPayment × Except String String)}
    (hs : ∀ x ∈ sends, x ∈ sends') {c : ServerCall} (h : c.Backed sends) : c.Backed sends' := by
  cases c with
  | recording p r => exact hs _ h
  | querying k q r =>
    obtain ⟨p, txid, hm, rfl⟩ := h
    exact ⟨p, txid, hs _ hm, rfl⟩
  | _ => trivial

/-- Storing an entry keeps the state backed, provided a `Sent` or `Confirmed` entry was sent. -/
theorem ServerState.Backed.store (hs : s.Backed) {q : LiquidPayment}
    (hq : q.status = .sent ∨ q.status = .confirmed → ∃ p txid, (p, .ok txid) ∈ s.sidechainSends ∧
      q = { p with status := q.status, liquidTxid := some txid }) : (s.store q).Backed := by
  intro h r hr
  rw [ServerState.store_liquidPayments, Function.update_apply] at hr
  split_ifs at hr
  · cases hr; exact hq
  · exact hs h r hr

theorem ServerState.Backed.recordSend (hs : s.Backed) (p : LiquidPayment)
    (r : Except String String) : (s.recordSend p r).Backed := fun h q hq hst => by
  obtain ⟨p', txid, hm, hq'⟩ := hs h q (by simpa using hq) hst
  exact ⟨p', txid, by simp [hm], hq'⟩

/-- **Step lemma of one call.** Resuming a call keeps the state backed, and the call's own
    knowledge. -/
theorem resume_backed (hs : s.Backed) {c : ServerCall} (hc : c.Backed s.sidechainSends) :
    (c.resume cfg s).2.Backed ∧ (c.resume cfg s).1.Backed (c.resume cfg s).2.sidechainSends := by
  cases c with
  | initiate a amt h ids reply =>
    by_cases hv : InitiateValid cfg ids
    · simp only [ServerCall.resume, ServerCall.block, initiateBegin_of_valid _ hv]
      exact ⟨hs.store (by simp), trivial⟩
    · obtain ⟨e, he⟩ := initiateBegin_of_invalid a amt h s hv
      simp only [ServerCall.resume, ServerCall.block, he]
      exact ⟨hs, trivial⟩
  | sending p reply =>
    simp only [ServerCall.resume, ServerCall.block, sendtoaddress_apply]
    exact ⟨hs.recordSend p reply, by simp [ServerCall.Backed]⟩
  | recording p sent =>
    cases sent with
    | error e =>
      simp only [ServerCall.resume, ServerCall.block, initiateEnd_error]
      exact ⟨hs.store (by simp), trivial⟩
    | ok txid =>
      simp only [ServerCall.resume, ServerCall.block, initiateEnd_ok]
      exact ⟨hs.store fun _ => ⟨p, txid, hc, rfl⟩, trivial⟩
  | check h reply =>
    simp only [ServerCall.resume, ServerCall.block, checkBegin_apply]
    cases hp : s.liquidPayments h with
    | none => exact ⟨hs, trivial⟩
    | some p =>
      dsimp only
      cases hg : checkPaymentStatus cfg h p with
      | answer r => exact ⟨hs, trivial⟩
      | gettransaction q txid =>
        obtain ⟨-, hsent, -, rfl⟩ := checkPaymentStatus_eq_gettransaction.1 hg
        obtain ⟨p₀, txid₀, hm, hq⟩ := hs h p hp (.inl hsent)
        exact ⟨hs, p₀, txid₀, hm, hsent ▸ hq⟩
  | querying h q reply =>
    obtain ⟨p, txid, hm, rfl⟩ := hc
    obtain ⟨r, -, hr | hr⟩ := checkEnd_cases h { p with status := .sent, liquidTxid := some txid }
      reply s <;>
      simp only [ServerCall.resume, ServerCall.block, hr]
    · exact ⟨hs, trivial⟩
    · exact ⟨hs.store fun _ => ⟨p, txid, hm, rfl⟩, trivial⟩
  | returned r => exact ⟨hs, trivial⟩

/-- **Step lemma.** -/
theorem BackedInv.step {sys : ServerSys} (hi : BackedInv sys) (a : ServerAction) :
    BackedInv (sys.step cfg a) := by
  have harrive : ∀ c : ServerCall, c.Backed sys.state.sidechainSends → BackedInv (sys.arrive c) :=
    fun c hc => ⟨hi.state, fun i d hd => by
      simp only [ServerSys.arrive, Function.update_apply] at hd
      split_ifs at hd
      · cases hd; exact hc
      · exact hi.calls i d hd⟩
  cases a with
  | initiate => exact harrive _ trivial
  | check => exact harrive _ trivial
  | resume i =>
    simp only [ServerSys.step]
    cases hc : sys.calls i with
    | none => exact hi
    | some c =>
      obtain ⟨hs, hc'⟩ := resume_backed hi.state (hi.calls i c hc)
      refine ⟨hs, fun j d hd => ?_⟩
      simp only [Function.update_apply] at hd
      split_ifs at hd
      · cases hd; exact hc'
      · exact (hi.calls j d hd).mono (resume_sends_grow c)

/-- **Run lemma.** -/
theorem BackedInv.of_reachable {sys : ServerSys} (h : Reachable cfg sys) : BackedInv sys := by
  induction h with
  | init => exact ⟨fun _ _ h => (by cases h), fun _ _ h => by cases h⟩
  | step a _ ih => exact ih.step a

/-- **A `Sent` or `Confirmed` payment was sent.** In every reachable server, under every
    interleaving of its calls, an entry that is `Sent` or `Confirmed` carries the txid of a
    `sendtoaddress` that succeeded, and that call was made for the entry's own address, amount,
    hash and HTLC VTXOs. -/
theorem sent_entries_backed {sys : ServerSys} (hsys : Reachable cfg sys) {h : PaymentHash}
    {q : LiquidPayment} (hq : sys.state.liquidPayments h = some q)
    (hst : q.status = .sent ∨ q.status = .confirmed) :
    ∃ p txid, (p, .ok txid) ∈ sys.state.sidechainSends ∧
      q = { p with status := q.status, liquidTxid := some txid } :=
  (BackedInv.of_reachable hsys).state h q hq hst

/-- A payment of 40 000 sat under hash 7, sent with txid `tx`. -/
def sentRun : List ServerAction :=
  [.initiate "addr" 40000 7 [1] (.ok "tx"), .resume 0, .resume 0, .resume 0]

theorem sent_payment_backed :
    ∃ p txid, (p, .ok txid) ∈ (ServerSys.init.run demoConfig sentRun).state.sidechainSends ∧
      (⟨"addr", 40000, 7, [1], .sent, some "tx"⟩ : LiquidPayment) =
        { p with status := .sent, liquidTxid := some txid } :=
  @sent_entries_backed demoConfig _ (Reachable.init.run sentRun) 7 _ (by rfl) (.inl rfl)

end BarkLiquid.Server
