import BarkLiquid.Server.Payments

/-!
# `BarkLiquid.Server.Run` — the server under every interleaving of its calls

The server answers many clients at once. A call of `initiate_liquid_payment` or
`check_liquid_payment` holds the `liquid_payments` lock only inside `store_liquid_payment` and
`get_liquid_payment`, so other calls run while it waits on the Elements daemon. `ServerCall` is a
call stopped at one of those waits, `ServerCall.resume` runs it to the next one, and `ServerSys`
is the tracker together with every call that has arrived. A run is any list of `ServerAction`s:
a new call arrives, or some call in flight makes progress.

Every reachable system satisfies `Inv`, from which:

* `sendtoaddress_validated_and_repeatable` — every `sendtoaddress` the server ever issued was for
  a request whose HTLC VTXOs passed validation; yet nothing records that they were used, so from
  any state a repeated valid request sends again;
* `check_failed_only_on_failed_send` — `check_liquid_payment(h)` answers `Failed` only when the
  entry under `h` is the record of a call for `h` whose `sendtoaddress` returned an error.

A call running alone is the sequential function of `Server.Payments` (`initiate_alone`,
`check_alone`), so the interleaved model refines nothing away.
-/

namespace BarkLiquid.Server

/-- **A call in flight**, stopped at one of its suspension points. Each stage carries the call's
    local variables and what the daemon will answer it. -/
inductive ServerCall where
  /-- Arrived, not yet run. -/
  | initiate (liquidAddress : String) (amount : Amount) (paymentHash : PaymentHash)
      (htlcVtxoIds : List VtxoId) (reply : Except String String)
  /-- `Pending` is recorded; `sendtoaddress` is in flight. -/
  | sending (payment : LiquidPayment) (reply : Except String String)
  /-- `sendtoaddress` returned `reply`; the outcome is not yet recorded. -/
  | recording (payment : LiquidPayment) (reply : Except String String)
  /-- Arrived, not yet run. -/
  | check (paymentHash : PaymentHash) (reply : Except String (Option Nat))
  /-- The payment was read as `Sent`; `gettransaction` is in flight. -/
  | querying (paymentHash : PaymentHash) (payment : LiquidPayment)
      (reply : Except String (Option Nat))
  /-- The call has answered. -/
  | returned (result : Except String LiquidPaymentResult)
deriving DecidableEq

/-- Run an atomic part of a call; an early return ends the call with its error. -/
def ServerCall.block {α : Type} (x : ServerM α) (k : α → ServerCall) (s : ServerState) :
    ServerCall × ServerState :=
  match x s with
  | .ok a s' => (k a, s')
  | .error e s' => (.returned (.error e), s')

/-- **One call runs to its next suspension point.** -/
def ServerCall.resume (cfg : ServerConfig) : ServerCall → ServerState → ServerCall × ServerState
  | .initiate a amt h ids reply => block (initiateBegin cfg a amt h ids) (.sending · reply)
  | .sending p reply => block (sendtoaddress p reply) (.recording p)
  | .recording p sent => block (initiateEnd p sent) (.returned ∘ .ok)
  | .check h reply => block (checkBegin cfg h) fun
      | .answer r => .returned (.ok r)
      | .gettransaction p _ => .querying h p reply
  | .querying h p reply => block (checkEnd h p reply) (.returned ∘ .ok)
  | .returned r => fun s => (.returned r, s)

/-- The server: its state and every call that has arrived, by arrival number (answered calls
    stay, `returned`). -/
structure ServerSys where
  state : ServerState
  calls : Nat → Option ServerCall
  arrived : Nat

/-- The server at startup. -/
def ServerSys.init : ServerSys := ⟨ServerState.init, fun _ => none, 0⟩

/-- A new call arrives, numbered `arrived`. -/
def ServerSys.arrive (sys : ServerSys) (c : ServerCall) : ServerSys :=
  { sys with calls := Function.update sys.calls sys.arrived (some c), arrived := sys.arrived + 1 }

/-- What can happen next: a call arrives, or call `i` runs to its next suspension point. -/
inductive ServerAction where
  | initiate (liquidAddress : String) (amount : Amount) (paymentHash : PaymentHash)
      (htlcVtxoIds : List VtxoId) (reply : Except String String)
  | check (paymentHash : PaymentHash) (reply : Except String (Option Nat))
  | resume (i : Nat)

/-- **The server's transition function.** Resuming a call that does not exist does nothing. -/
def ServerSys.step (cfg : ServerConfig) (sys : ServerSys) : ServerAction → ServerSys
  | .initiate a amt h ids r => sys.arrive (.initiate a amt h ids r)
  | .check h r => sys.arrive (.check h r)
  | .resume i => match sys.calls i with
    | some c => ⟨(c.resume cfg sys.state).2,
        Function.update sys.calls i (some (c.resume cfg sys.state).1), sys.arrived⟩
    | none => sys

/-- A run of actions, in order. -/
def ServerSys.run (cfg : ServerConfig) : ServerSys → List ServerAction → ServerSys
  | sys, [] => sys
  | sys, a :: as => run cfg (sys.step cfg a) as

/-- The systems some run from startup reaches. -/
inductive Reachable (cfg : ServerConfig) : ServerSys → Prop
  | init : Reachable cfg ServerSys.init
  | step {sys : ServerSys} (a : ServerAction) : Reachable cfg sys → Reachable cfg (sys.step cfg a)

theorem Reachable.run {cfg : ServerConfig} {sys : ServerSys} (h : Reachable cfg sys)
    (as : List ServerAction) : Reachable cfg (sys.run cfg as) := by
  induction as generalizing sys with
  | nil => exact h
  | cons a as ih => exact ih (h.step a)

/-! ## A call running alone is the sequential function -/

/-- **Three resumes run `initiate_liquid_payment` to its end**, with the result and the state of
    the sequential `initiateLiquidPayment`. -/
theorem initiate_alone (cfg : ServerConfig) (a : String) (amt : Amount) (h : PaymentHash)
    (ids : List VtxoId) (reply : Except String String) (s : ServerState) :
    let r₁ := ServerCall.resume cfg (.initiate a amt h ids reply) s
    let r₂ := r₁.1.resume cfg r₁.2
    r₂.1.resume cfg r₂.2 =
      (.returned (resultValue (initiateLiquidPayment cfg reply a amt h ids s)),
        resultState (initiateLiquidPayment cfg reply a amt h ids s)) := by
  by_cases hv : InitiateValid cfg ids
  · cases reply <;>
      simp [ServerCall.resume, ServerCall.block, initiateLiquidPayment, initiateBegin_of_valid _ hv,
        resultValue]
  · obtain ⟨e, he⟩ := initiateBegin_of_invalid a amt h s hv
    simp [ServerCall.resume, ServerCall.block, initiateLiquidPayment, he, resultValue]

/-- **Two resumes run `check_liquid_payment` to its end**, as the sequential function. -/
theorem check_alone (cfg : ServerConfig) (h : PaymentHash) (reply : Except String (Option Nat))
    (s : ServerState) :
    let r₁ := ServerCall.resume cfg (.check h reply) s
    r₁.1.resume cfg r₁.2 =
      (.returned (resultValue (checkLiquidPayment cfg reply h s)),
        resultState (checkLiquidPayment cfg reply h s)) := by
  simp only [ServerCall.resume, ServerCall.block, checkLiquidPayment, bind_apply, checkBegin_apply]
  cases s.liquidPayments h with
  | none => rfl
  | some p =>
    cases hc : checkPaymentStatus cfg h p with
    | answer r => simp [hc, ServerCall.resume, resultValue]
    | gettransaction q txid =>
      obtain ⟨r, -, hr | hr⟩ := checkEnd_cases h q reply s <;>
        simp [hc, hr, ServerCall.resume, ServerCall.block, resultValue]

/-! ## The invariant -/

/-- **What the server state guarantees.** -/
structure StateInv (cfg : ServerConfig) (s : ServerState) : Prop where
  /-- Without a daemon nothing is ever tracked. -/
  noDaemon : cfg.elementsd = false → ∀ h, s.liquidPayments h = none
  /-- Every entry sits under its own hash. -/
  keyed : ∀ h q, s.liquidPayments h = some q → q.paymentHash = h
  /-- A `Failed` entry is the record of a call whose `sendtoaddress` returned an error. -/
  failedSent : ∀ h q, s.liquidPayments h = some q → q.status = .failed →
    ∃ p e, (p, .error e) ∈ s.sidechainSends ∧ q = { p with status := .failed }
  /-- Every `sendtoaddress` was issued for a validated request, from its `Pending` record. -/
  sendsValid : ∀ x ∈ s.sidechainSends, InitiateValid cfg x.1.htlcVtxoIds ∧ x.1.status = .pending

/-- What a call in flight knows, given the sidechain's record `sends`. -/
def CallInv (cfg : ServerConfig) (sends : List (LiquidPayment × Except String String)) :
    ServerCall → Prop
  | .sending p _ => InitiateValid cfg p.htlcVtxoIds ∧ p.status = .pending
  | .recording p r => (p, r) ∈ sends ∧ InitiateValid cfg p.htlcVtxoIds ∧ p.status = .pending
  | .querying _ _ _ => cfg.elementsd = true
  | _ => True

/-- **The invariant of every reachable server.** -/
structure Inv (cfg : ServerConfig) (sys : ServerSys) : Prop where
  state : StateInv cfg sys.state
  calls : ∀ i c, sys.calls i = some c → CallInv cfg sys.state.sidechainSends c

variable {cfg : ServerConfig} {s : ServerState}

theorem CallInv.mono {sends sends' : List (LiquidPayment × Except String String)}
    (hs : ∀ x ∈ sends, x ∈ sends') {c : ServerCall} (h : CallInv cfg sends c) :
    CallInv cfg sends' c := by
  cases c <;> simp_all [CallInv]

theorem StateInv.init : StateInv cfg ServerState.init :=
  ⟨fun _ _ => rfl, by simp [ServerState.init], by simp [ServerState.init],
    by simp [ServerState.init]⟩

/-- Storing a record keeps the invariant, provided there is a daemon and a `Failed` record comes
    from a failed send. -/
theorem StateInv.store (hs : StateInv cfg s) (hd : cfg.elementsd = true) {q : LiquidPayment}
    (hq : q.status = .failed →
      ∃ p e, (p, .error e) ∈ s.sidechainSends ∧ q = { p with status := .failed }) :
    StateInv cfg (s.store q) := by
  refine ⟨by simp [hd], fun h r => ?_, fun h r => ?_, hs.sendsValid⟩
  all_goals
    rw [ServerState.store_liquidPayments, Function.update_apply]
    split_ifs with hh
  · rintro ⟨⟩; exact hh.symm
  · exact hs.keyed h r
  · rintro ⟨⟩; exact hq
  · exact hs.failedSent h r

/-- Recording a send of a validated `Pending` payment keeps the invariant. -/
theorem StateInv.recordSend (hs : StateInv cfg s) {p : LiquidPayment}
    (hp : InitiateValid cfg p.htlcVtxoIds ∧ p.status = .pending) (r : Except String String) :
    StateInv cfg (s.recordSend p r) := by
  refine ⟨by simpa using hs.noDaemon, by simpa using hs.keyed, fun h q hq hf => ?_,
    fun x hx => ?_⟩
  · obtain ⟨p', e, hm, rfl⟩ := hs.failedSent h q (by simpa using hq) hf
    exact ⟨p', e, by simp [hm], rfl⟩
  · rcases List.mem_append.1 hx with hx | hx
    · exact hs.sendsValid x hx
    · rw [List.mem_singleton.1 hx]; exact hp

/-- **Step lemma.** Resuming a call keeps the state invariant and the call's own, and the
    sidechain's record only grows. -/
theorem resume_preserves (hs : StateInv cfg s) {c : ServerCall}
    (hc : CallInv cfg s.sidechainSends c) :
    StateInv cfg (c.resume cfg s).2 ∧
      CallInv cfg (c.resume cfg s).2.sidechainSends (c.resume cfg s).1 ∧
      ∀ x ∈ s.sidechainSends, x ∈ (c.resume cfg s).2.sidechainSends := by
  cases c with
  | initiate a amt h ids reply =>
    by_cases hv : InitiateValid cfg ids
    · simp only [ServerCall.resume, ServerCall.block, initiateBegin_of_valid _ hv]
      exact ⟨hs.store hv.1 (by simp), ⟨hv, rfl⟩, by simp⟩
    · obtain ⟨e, he⟩ := initiateBegin_of_invalid a amt h s hv
      simp only [ServerCall.resume, ServerCall.block, he]
      exact ⟨hs, trivial, fun _ => id⟩
  | sending p reply =>
    simp only [ServerCall.resume, ServerCall.block, sendtoaddress_apply]
    exact ⟨hs.recordSend hc reply, ⟨by simp, hc⟩, fun _ => List.mem_append_left _⟩
  | recording p sent =>
    obtain ⟨hm, hv, -⟩ := hc
    cases sent with
    | error e =>
      simp only [ServerCall.resume, ServerCall.block, initiateEnd_error]
      exact ⟨hs.store hv.1 fun _ => ⟨p, e, hm, rfl⟩, trivial, fun _ => id⟩
    | ok txid =>
      simp only [ServerCall.resume, ServerCall.block, initiateEnd_ok]
      exact ⟨hs.store hv.1 (by simp), trivial, fun _ => id⟩
  | check h reply =>
    simp only [ServerCall.resume, ServerCall.block, checkBegin_apply]
    cases s.liquidPayments h with
    | none => exact ⟨hs, trivial, fun _ => id⟩
    | some p =>
      dsimp only
      cases hp : checkPaymentStatus cfg h p with
      | answer r => exact ⟨hs, trivial, fun _ => id⟩
      | gettransaction q txid =>
        exact ⟨hs, (checkPaymentStatus_eq_gettransaction.1 hp).1, fun _ => id⟩
  | querying h p reply =>
    obtain ⟨r, -, hr | hr⟩ := checkEnd_cases h p reply s <;>
      simp only [ServerCall.resume, ServerCall.block, hr]
    · exact ⟨hs, trivial, fun _ => id⟩
    · exact ⟨hs.store hc (by simp), trivial, fun _ => id⟩
  | returned r => exact ⟨hs, trivial, fun _ => id⟩

/-- A call arriving keeps the invariant: it has run nothing yet. -/
theorem Inv.arrive {sys : ServerSys} (hi : Inv cfg sys) {c : ServerCall}
    (hc : CallInv cfg sys.state.sidechainSends c) : Inv cfg (sys.arrive c) := by
  refine ⟨hi.state, fun i d hd => ?_⟩
  simp only [ServerSys.arrive, Function.update_apply] at hd
  split_ifs at hd
  · cases hd; exact hc
  · exact hi.calls i d hd

theorem Inv.step {sys : ServerSys} (hi : Inv cfg sys) (a : ServerAction) :
    Inv cfg (sys.step cfg a) := by
  cases a with
  | initiate a amt h ids r => exact hi.arrive trivial
  | check h r => exact hi.arrive trivial
  | resume i =>
    simp only [ServerSys.step]
    cases hc : sys.calls i with
    | none => exact hi
    | some c =>
      obtain ⟨hs, hc', hgrow⟩ := resume_preserves hi.state (hi.calls i c hc)
      refine ⟨hs, fun j d hd => ?_⟩
      simp only [Function.update_apply] at hd
      split_ifs at hd
      · cases hd; exact hc'
      · exact (hi.calls j d hd).mono hgrow

/-- **Every reachable server satisfies the invariant.** -/
theorem Inv.of_reachable {sys : ServerSys} (h : Reachable cfg sys) : Inv cfg sys := by
  induction h with
  | init => exact ⟨StateInv.init, fun _ _ h => by cases h⟩
  | step a _ ih => exact ih.step a

/-! ## What the sidechain sees -/

/-- **Every send was validated, and a valid request always sends again.** Every `sendtoaddress`
    of a reachable server was issued from the `Pending` record of a request whose HTLC VTXOs all
    passed validation. But `initiate_liquid_payment` neither marks those VTXOs used nor looks at
    `liquid_payments`: from any state whatever, in particular one where the hash is already `Sent`
    or `Confirmed`, a new valid request for the same VTXOs, locked to its own hash, runs to a
    second successful send. -/
theorem sendtoaddress_validated_and_repeatable :
    (∀ sys, Reachable cfg sys → ∀ x ∈ sys.state.sidechainSends,
      InitiateValid cfg x.1.htlcVtxoIds ∧ x.1.status = .pending) ∧
    ∀ (sys : ServerSys) (a : String) (amt : Amount) (h : PaymentHash) (ids : List VtxoId)
      (txid : String), InitiateValid cfg ids → HashesMatch cfg h ids →
      (sys.run cfg [.initiate a amt h ids (.ok txid), .resume sys.arrived, .resume sys.arrived,
          .resume sys.arrived]).state.sidechainSends =
        sys.state.sidechainSends ++ [(⟨a, amt, h, ids, .pending, none⟩, .ok txid)] := by
  refine ⟨fun sys hr => (Inv.of_reachable hr).state.sendsValid, ?_⟩
  intro sys a amt h ids txid hv _
  simp [ServerSys.run, ServerSys.step, ServerSys.arrive, ServerCall.resume, ServerCall.block,
    initiateBegin_of_valid _ hv]

/-- Two calls for the same HTLC VTXO, one after the other. -/
def repeatedInitiate : List ServerAction :=
  [.initiate "addr" 100000 7 [1] (.ok "tx1"), .resume 0, .resume 0, .resume 0,
   .initiate "addr" 100000 7 [1] (.ok "tx2"), .resume 1, .resume 1, .resume 1]

/-- **The same HTLC VTXO backs two successful sends**: after the first call the hash is `Sent`,
    and the second call for it sends again. -/
theorem htlc_vtxo_backs_two_sends :
    ((ServerSys.init.run demoConfig (repeatedInitiate.take 4)).state.liquidPayments 7).map
        (·.status) = some .sent ∧
    (ServerSys.init.run demoConfig repeatedInitiate).state.sidechainSends =
      [(⟨"addr", 100000, 7, [1], .pending, none⟩, .ok "tx1"),
       (⟨"addr", 100000, 7, [1], .pending, none⟩, .ok "tx2")] := by
  decide

/-- The `Failed` answers of the status match: a `Failed` entry, or a `Sent` one without daemon. -/
theorem checkPaymentStatus_failed {h : PaymentHash} {p : LiquidPayment} {r : LiquidPaymentResult}
    (hc : checkPaymentStatus cfg h p = .answer r) (hf : r.status = PaymentStatus.failed.toI32) :
    p.status = .failed ∨ cfg.elementsd = false := by
  unfold checkPaymentStatus at hc
  split at hc <;> (try split_ifs at hc) <;> (try split at hc) <;> cases hc <;>
    simp_all [PaymentStatus.toI32]

/-- **`check_liquid_payment(h)` answers `Failed` only on the record of a failed send.** In every
    reachable server, a check call for `h` that answers `Failed` finds under `h` the `Pending`
    record of some call for `h` marked `Failed`, and the sidechain holds that call's
    `sendtoaddress` with an error. Nothing excludes another call for `h`, earlier or concurrent,
    having sent successfully. -/
theorem check_failed_only_on_failed_send {sys : ServerSys} (hr : Reachable cfg sys)
    {h : PaymentHash} {c : ServerCall}
    (hch : (∃ reply, c = .check h reply) ∨ ∃ p reply, c = .querying h p reply)
    (r : LiquidPaymentResult) (hres : (c.resume cfg sys.state).1 = .returned (.ok r))
    (hf : r.status = PaymentStatus.failed.toI32) :
    ∃ p e, (p, .error e) ∈ sys.state.sidechainSends ∧ p.paymentHash = h ∧
      sys.state.liquidPayments h = some { p with status := .failed } := by
  have hi := (Inv.of_reachable hr).state
  rcases hch with ⟨reply, rfl⟩ | ⟨p, reply, rfl⟩
  · simp only [ServerCall.resume, ServerCall.block, checkBegin_apply] at hres
    cases hq : sys.state.liquidPayments h with
    | none => simp [hq] at hres
    | some q =>
      simp only [hq] at hres
      cases hcp : checkPaymentStatus cfg h q with
      | gettransaction _ _ => simp [hcp] at hres
      | answer r' =>
        obtain rfl : r' = r := by simpa [hcp] using hres
        rcases checkPaymentStatus_failed hcp hf with hst | hd
        · obtain ⟨p, e, hm, rfl⟩ := hi.failedSent h _ hq hst
          exact ⟨p, e, hm, hi.keyed h { p with status := .failed } hq, rfl⟩
        · simp [hi.noDaemon hd h] at hq
  · obtain ⟨r', hne, he | he⟩ := checkEnd_cases h p reply sys.state <;>
      simp only [ServerCall.resume, ServerCall.block, he, Function.comp_apply,
        ServerCall.returned.injEq, Except.ok.injEq] at hres <;> exact absurd (hres ▸ hf) hne

/-- A call whose send fails, then a check. -/
def failedThenCheck : List ServerAction :=
  [.initiate "addr" 100000 7 [1] (.error "insufficient funds"), .resume 0, .resume 0, .resume 0]

theorem check_failed_after_failed_send :
    ∃ p e, (p, .error e) ∈ (ServerSys.init.run demoConfig failedThenCheck).state.sidechainSends ∧
      p.paymentHash = 7 ∧ (ServerSys.init.run demoConfig failedThenCheck).state.liquidPayments 7 =
        some { p with status := .failed } :=
  check_failed_only_on_failed_send (Reachable.init.run failedThenCheck) (.inl ⟨.ok none, rfl⟩)
    ⟨"Payment failed", PaymentStatus.failed.toI32, 7⟩ rfl rfl

/-- A successful send, then a second call for the same hash whose send fails, then a check. -/
def sentThenFailed : List ServerAction :=
  [.initiate "addr" 100000 7 [1] (.ok "tx1"), .resume 0, .resume 0, .resume 0,
   .initiate "addr" 100000 7 [1] (.error "insufficient funds"), .resume 1, .resume 1, .resume 1,
   .check 7 (.ok none), .resume 2]

/-- **The server answers `Failed` after forwarding the amount**: the first call's `sendtoaddress`
    succeeded, the second call for the same hash overwrote the entry with `Failed`, and the check
    answers `Failed`. -/
theorem check_failed_after_successful_send :
    (⟨"addr", 100000, 7, [1], .pending, none⟩, .ok "tx1") ∈
        (ServerSys.init.run demoConfig sentThenFailed).state.sidechainSends ∧
    (ServerSys.init.run demoConfig sentThenFailed).calls 2 =
      some (.returned (.ok ⟨"Payment failed", PaymentStatus.failed.toI32, 7⟩)) := by
  decide

/-! ## What the sequential check answers -/

/-- The answers of the status match, by the entry's status. -/
theorem checkPaymentStatus_answer {h : PaymentHash} {p : LiquidPayment} {r : LiquidPaymentResult}
    (hc : checkPaymentStatus cfg h p = .answer r) :
    (r.status = PaymentStatus.complete.toI32 ∧ p.status = .confirmed) ∨
    (r.status = PaymentStatus.failed.toI32 ∧
      (p.status = .failed ∨ (p.status = .sent ∧ cfg.elementsd = false))) ∨
    (r.status = PaymentStatus.pending.toI32 ∧ (p.status = .pending ∨ p.status = .sent)) := by
  rcases p with ⟨a, amt, ph, ids, st, tx⟩
  cases st <;> cases hd : cfg.elementsd <;> cases tx <;>
    simp [checkPaymentStatus, hd] at hc <;> subst hc <;> simp [hd]

/-- The part after `gettransaction` answers `Complete` and writes the snapshot back `Confirmed`, or
    answers `Pending` and writes nothing. -/
theorem checkEnd_answer (h : PaymentHash) (p : LiquidPayment) (reply : Except String (Option Nat))
    (s : ServerState) :
    (∃ r, checkEnd h p reply s = .ok r (s.store { p with status := .confirmed }) ∧
      r.status = PaymentStatus.complete.toI32) ∨
    (∃ r, checkEnd h p reply s = .ok r s ∧ r.status = PaymentStatus.pending.toI32) := by
  rcases reply with e | c
  · exact .inr ⟨_, rfl, rfl⟩
  · by_cases hc : c.getD 0 ≥ 1
    · exact .inl ⟨_, by simp [checkEnd, hc]; rfl, rfl⟩
    · exact .inr ⟨_, by simp [checkEnd, hc]; rfl, rfl⟩

/-- **What `check_liquid_payment` answers**, run alone on a server satisfying the invariant. It
    answers only on an entry under the hash: `Complete` when the entry is `Confirmed`, or `Sent`
    and its transaction confirmed, and the entry is `Confirmed` after; `Failed` when it is
    `Failed`; `Pending` when it is `Pending` or `Sent`. Only the confirmation writes. -/
theorem checkLiquidPayment_answer (hs : StateInv cfg s) {reply : Except String (Option Nat)}
    {h : PaymentHash} {r : LiquidPaymentResult} {s' : ServerState}
    (hc : checkLiquidPayment cfg reply h s = .ok r s') :
    ∃ p, s.liquidPayments h = some p ∧
      ((r.status = PaymentStatus.complete.toI32 ∧ (p.status = .sent ∨ p.status = .confirmed) ∧
          s'.liquidPayments h = some { p with status := .confirmed }) ∨
       (r.status = PaymentStatus.failed.toI32 ∧ p.status = .failed ∧ s' = s) ∨
       (r.status = PaymentStatus.pending.toI32 ∧ (p.status = .pending ∨ p.status = .sent) ∧
          s' = s)) := by
  rw [checkLiquidPayment, bind_apply, checkBegin_apply] at hc
  cases hp : s.liquidPayments h with
  | none => simp [hp] at hc
  | some p =>
    refine ⟨p, rfl, ?_⟩
    simp only [hp] at hc
    cases hcp : checkPaymentStatus cfg h p with
    | answer r' =>
      simp only [hcp, pure_apply, EStateM.Result.ok.injEq] at hc
      obtain ⟨rfl, rfl⟩ := hc
      rcases checkPaymentStatus_answer hcp with ⟨hr, hst⟩ | ⟨hr, hst | ⟨-, hd⟩⟩ | ⟨hr, hst⟩
      · refine .inl ⟨hr, .inr hst, ?_⟩
        rw [hp]
        cases p
        simp_all
      · exact .inr (.inl ⟨hr, hst, rfl⟩)
      · simp [hs.noDaemon hd h] at hp
      · exact .inr (.inr ⟨hr, hst, rfl⟩)
    | gettransaction q txid =>
      obtain ⟨-, hst, -, rfl⟩ := checkPaymentStatus_eq_gettransaction.1 hcp
      simp only [hcp] at hc
      rcases checkEnd_answer h p reply s with ⟨r', he, hr'⟩ | ⟨r', he, hr'⟩ <;>
        rw [he] at hc <;> cases hc
      · refine .inl ⟨hr', .inl hst, ?_⟩
        rw [ServerState.store_liquidPayments, ← hs.keyed h p hp]
        exact Function.update_same _ _ _
      · exact .inr (.inr ⟨hr', .inr hst, rfl⟩)


/-- **`check_liquid_payment` answers `Complete`** on an entry that is `Confirmed`, or `Sent` with a
    txid that the daemon reports confirmed at least once. -/
theorem checkLiquidPayment_complete {reply : Except String (Option Nat)} {h : PaymentHash}
    {p : LiquidPayment} (hp : s.liquidPayments h = some p)
    (hconf : p.status = .confirmed ∨ (p.status = .sent ∧ cfg.elementsd = true ∧
      p.liquidTxid.isSome ∧ ∃ c, reply = .ok c ∧ 1 ≤ c.getD 0)) :
    ∃ r s', checkLiquidPayment cfg reply h s = .ok r s' ∧ r.status = PaymentStatus.complete.toI32 := by
  rw [checkLiquidPayment, bind_apply, checkBegin_apply, hp]
  rcases p with ⟨a, amt, ph, ids, st, tx⟩
  rcases hconf with hst | ⟨hst, hd, htx, c, rfl, hc⟩ <;> simp only at hst <;> subst hst
  · exact ⟨_, _, rfl, rfl⟩
  · obtain ⟨txid, rfl⟩ := Option.isSome_iff_exists.mp htx
    simp [checkPaymentStatus, hd, checkEnd, hc]
end BarkLiquid.Server
