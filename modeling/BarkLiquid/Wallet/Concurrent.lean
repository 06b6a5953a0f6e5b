import BarkLiquid.Wallet.Pay

/-!
# `BarkLiquid.Wallet.Concurrent` — payments under one hash, interleaved at their awaits

Several `pay_liquid_address` calls run on one wallet, and the executor may switch from one to
another at every `.await`. A `PaySys` holds the wallet and what is left of each call;
`PaySys.step i` resumes call `i` for one segment, and `PaySys.run` follows a schedule, any list of
such choices.

In `pay_liquid_address` the duplicate check (`get_liquid_send(payment_hash).is_some()`) and the
insert that the table's `UNIQUE` column guards lie in different segments, with the cosign request,
the `validate_vtxo` awaits, the new movement and the chain lookup between them. So the check does
not stop a second call that passed it before the first inserted its row: that call locks its HTLC
outputs and spends its inputs, and only then does its insert fail. What the constraint keeps, in
every schedule of any number of calls for one hash, is the table and the requests to the server.

## Contents

* `RecordsOnce` — a call as the rows and the initiate requests see it: each segment leaves both as
  they were, except at most one, which inserts the row under the call's hash where there was none
  and sends the initiate request for it (`InsertsRow`); the call returns `Ok` only after that.
  `payLiquidAddress_recordsOnce` shows that `pay_liquid_address` is such a call.
* `PaySys.Flagged`, `PaySys.inv_step`, `PaySys.inv_run` — the invariant of the calls for one hash,
  its step lemma and its run lemma.
* `concurrent_pays_insert_once` — over every schedule: the rows and the requests are as they were
  and no call has returned `Ok`; or one row and one initiate request for the hash were added where
  there was no row, and at most one call has returned `Ok`.
* `second_pay_locks_then_fails` — a schedule in which the second call locks and spends, then fails.
* `payLiquidAddress_forwards` — run alone, a call leaves the rows and the tracker requests as they
  were, or stores its pending row and sends one initiate request, for its address, amount and hash,
  the HTLC outputs built from its cosign reply and the movement it created (`Forwards`).
* `WalletState.RowsAnnounced`, `Proc.Preserves`, `PaySys.run_preserves` — every stored row has its
  own initiate request among the tracker requests; a predicate every segment of every call keeps
  holds under every schedule.
* `concurrent_pays_rows_announced` — under every schedule of pays for one hash, every row is
  announced with its own fields.
-/

namespace BarkLiquid.Wallet

/-! ## What a payment records -/

/-- The initiate requests the wallet has sent. -/
def WalletState.initiates (s : WalletState) : List InitiateLiquidPaymentRequest :=
  s.sent.filterMap ServerRequest.initiate?

/-- **What the wallet has recorded and announced of its payments**: the `bark_liquid_send` rows
    and the initiate requests. -/
def WalletState.recorded (s : WalletState) :=
  (s.db.liquidSends, s.initiates)

theorem Keeps.recorded {α : Type} {x : WalletM α} (h : Keeps WalletState.footprint x) :
    Keeps WalletState.recorded x :=
  fun s => congrArg Prod.snd (h s)

theorem WalletState.recorded_rowsAndSent : RowsAndSent WalletState.recorded :=
  fun _ _ hr hs => by simp only [recorded, initiates, hr, hs]

/-- **A segment inserts the row of `h` and announces it**: where no row was stored under `h`, it
    stores an unfinished one and sends one initiate request for `h`. -/
def InsertsRow (h : PaymentHash) (s s' : WalletState) : Prop :=
  s.db.liquidSends h = none ∧ ∃ row req, row.finished = false ∧
    req.paymentHash = h ∧
    s'.recorded = (Function.update s.db.liquidSends h (some row), s.initiates ++ [req])

section InsertsRow

variable {h : PaymentHash} {s t s' t' : WalletState}

/-- Only the rows and the requests of the two states matter. -/
theorem InsertsRow.congr (hs : s.recorded = t.recorded) (hs' : s'.recorded = t'.recorded)
    (hi : InsertsRow h s s') : InsertsRow h t t' := by
  simp only [WalletState.recorded, Prod.mk.injEq] at hs
  obtain ⟨hrows, hreqs⟩ := hs
  obtain ⟨hnone, row, req, hrow, hreq, hrec⟩ := hi
  exact ⟨hrows ▸ hnone, row, req, hrow, hreq, by rw [← hs', hrec, hrows, hreqs]⟩

theorem InsertsRow.row (hi : InsertsRow h s s') : ∃ row, s'.db.liquidSends h = some row := by
  obtain ⟨_, row, _, _, _, hrec⟩ := hi
  have hrows := congrArg Prod.fst hrec
  exact ⟨row, by simpa [WalletState.recorded] using congrFun hrows h⟩

/-- After an insert under `h`, no segment inserts under `h` again. -/
theorem InsertsRow.not_again (hi : InsertsRow h s s') : ¬ InsertsRow h s' t := by
  obtain ⟨row, hrow⟩ := hi.row
  exact fun ⟨hnone, _⟩ => by simp [hrow] at hnone

theorem InsertsRow.recorded_ne (hi : InsertsRow h s s') : s'.recorded ≠ s.recorded := by
  intro heq
  exact hi.not_again (hi.congr heq.symm rfl)

end InsertsRow

/-- What a call has returned, if it has. -/
def Proc.outcome {α : Type} : Proc α → Option (Except String α)
  | .done r => some r
  | .step .. => none

/-- A call that has returned `Ok`. -/
def Proc.returnedOk {α : Type} : Proc α → Bool
  | .done (.ok _) => true
  | _ => false

/-- **A call for hash `h`, as the rows and the initiate requests see it.** With `inserted = false`
    the call has not inserted its row yet. A segment that keeps the rows and the requests leads to
    a rest of the same kind; one that changes them inserts the row (`InsertsRow`), only once, and
    leads to a rest with `inserted = true`. Only a call that has inserted returns `Ok`. -/
inductive RecordsOnce (h : PaymentHash) {α : Type} : Bool → Proc α → Prop
  | error (e : String) (inserted : Bool) : RecordsOnce h inserted (.done (.error e))
  | ok (a : α) : RecordsOnce h true (.done (.ok a))
  | step {f : WalletState → WalletState} {next : WalletState → Proc α} {inserted : Bool} :
      (∀ s, (f s).recorded = s.recorded → RecordsOnce h inserted (next s)) →
      (∀ s, (f s).recorded ≠ s.recorded → inserted = false ∧ InsertsRow h s (f s)) →
      (∀ s, (f s).recorded ≠ s.recorded → RecordsOnce h true (next s)) →
      RecordsOnce h inserted (.step f next)

section RecordsOnce

variable {h : PaymentHash} {α β : Type}

/-- A segment that keeps the rows and the requests. -/
theorem RecordsOnce.atomic {x : WalletM β} {k : β → Proc α} {inserted : Bool}
    (hx : Keeps WalletState.recorded x) (hk : ∀ b, RecordsOnce h inserted (k b)) :
    RecordsOnce h inserted (Proc.atomic x k) := by
  refine .step (fun s _ => ?_) (fun s hs => absurd (hx s) hs) (fun s hs => absurd (hx s) hs)
  cases x s with
  | ok b _ => exact hk b
  | error e _ => exact .error e inserted

/-- The segment that inserts: it fails with the rows and the requests as they were, or inserts. -/
theorem RecordsOnce.atomic_insert {x : WalletM β} {k : β → Proc α}
    (hx : ∀ s, (∃ e s', x s = .error e s' ∧ s'.recorded = s.recorded) ∨
      (∃ b s', x s = .ok b s' ∧ InsertsRow h s s'))
    (hk : ∀ b, RecordsOnce h true (k b)) : RecordsOnce h false (Proc.atomic x k) := by
  refine .step (fun s hs => ?_) (fun s hs => ?_) (fun s hs => ?_) <;>
    rcases hx s with ⟨e, s', hxs, hrec⟩ | ⟨b, s', hxs, hins⟩ <;>
    simp only [hxs, resultState_ok, resultState_error] at hs ⊢
  · exact .error e false
  · exact absurd hs hins.recorded_ne
  · exact absurd hrec hs
  · exact ⟨trivial, hins⟩
  · exact absurd hrec hs
  · exact hk b

/-- **A call run alone** keeps the rows and the requests, or, not having inserted before, inserts
    once. -/
theorem RecordsOnce.run {p : Proc α} {inserted : Bool} (hp : RecordsOnce h inserted p)
    (s : WalletState) :
    (resultState (p.run s)).recorded = s.recorded ∨
      (inserted = false ∧ InsertsRow h s (resultState (p.run s))) := by
  induction hp generalizing s with
  | error e _ => exact .inl rfl
  | ok a => exact .inl rfl
  | @step f next inserted _ hins _ ihkeep ihnext =>
    show _ = _ ∨ _ ∧ InsertsRow h s (resultState ((next s).run (f s)))
    by_cases hf : (f s).recorded = s.recorded
    · rcases ihkeep s hf (f s) with hr | ⟨hb, hi⟩
      · exact .inl (hr.trans hf)
      · exact .inr ⟨hb, hi.congr hf rfl⟩
    · obtain ⟨hb, hi⟩ := hins s hf
      rcases ihnext s hf (f s) with hr | ⟨hb', -⟩
      · exact .inr ⟨hb, hi.congr rfl hr.symm⟩
      · cases hb'

theorem RecordsOnce.step_inv {f : WalletState → WalletState} {next : WalletState → Proc α}
    {inserted : Bool} (hp : RecordsOnce h inserted (.step f next)) :
    (∀ s, (f s).recorded = s.recorded → RecordsOnce h inserted (next s)) ∧
    (∀ s, (f s).recorded ≠ s.recorded → inserted = false ∧ InsertsRow h s (f s)) ∧
    (∀ s, (f s).recorded ≠ s.recorded → RecordsOnce h true (next s)) := by
  cases hp with
  | step hkeep hins hnext => exact ⟨hkeep, hins, hnext⟩

theorem RecordsOnce.inserted_of_returnedOk {p : Proc α} {inserted : Bool}
    (hp : RecordsOnce h inserted p) (hok : p.returnedOk = true) : inserted = true := by
  cases hp with
  | ok => rfl
  | error => cases hok
  | step => cases hok

end RecordsOnce

/-! ## `pay_liquid_address` records once -/

section Pay

variable {env : WalletEnv} {liquidAddress : String} {amount : Amount}
  {paymentHash : PaymentHash}

/-- **Spec of segment 7.** It fails with the rows and the requests as they were (the metadata, a
    ledger fault, the `UNIQUE` constraint or a fault of the insert), or it stores the pending row
    under the payment hash, where there was none, and sends the initiate request for it. -/
theorem payRecord_spec (htlcVtxos : List Vtxo) (change : Option Vtxo) (movementId : MovementId)
    (s : WalletState) :
    (∃ e s', payRecord env liquidAddress amount paymentHash htlcVtxos change movementId s =
        .error e s' ∧ s'.db.liquidSends = s.db.liquidSends ∧ s'.sent = s.sent) ∨
    (∃ s', payRecord env liquidAddress amount paymentHash htlcVtxos change movementId s =
        .ok (initiateRequest liquidAddress amount paymentHash htlcVtxos) s' ∧
      s.db.liquidSends paymentHash = none ∧
      s'.db.liquidSends = Function.update s.db.liquidSends paymentHash
        (some (pendingRow liquidAddress amount htlcVtxos movementId)) ∧
      s'.sent = s.sent ++ [.initiate (initiateRequest liquidAddress amount paymentHash htlcVtxos)]) := by
  simp only [payRecord, bind_apply]
  cases env.htlcMetadata htlcVtxos with
  | error e => exact .inl ⟨e, s, rfl, rfl, rfl⟩
  | ok metadata =>
    simp only [liftExcept_ok, write_of_touchesRows (.updateMovement _ _) rfl]
    cases env.fault (.updateMovement movementId _) with
    | some e => exact .inl ⟨e, s, rfl, rfl, rfl⟩
    | none =>
      cases hrow : s.db.liquidSends paymentHash with
      | some row =>
        simp [write_apply, WalletDb.violation, WalletDb.apply, hrow]
        exact ⟨_, _, ⟨rfl, rfl⟩, rfl, rfl⟩
      | none =>
        cases hf : env.fault (.storeNewPendingLiquidSend paymentHash
          (pendingRow liquidAddress amount htlcVtxos movementId)) with
        | some e =>
          simp [write_apply, WalletDb.violation, WalletDb.apply, hrow, hf]
          exact ⟨_, _, ⟨rfl, rfl⟩, rfl, rfl⟩
        | none => simp [write_apply, WalletDb.violation, WalletDb.apply, hrow, hf]

/-- Segment 7 as the rows and the initiate requests see it. -/
theorem payRecord_outcome (htlcVtxos : List Vtxo) (change : Option Vtxo)
    (movementId : MovementId) (s : WalletState) :
    (∃ e s', payRecord env liquidAddress amount paymentHash htlcVtxos change movementId s =
        .error e s' ∧ s'.recorded = s.recorded) ∨
    (∃ req s', payRecord env liquidAddress amount paymentHash htlcVtxos change movementId s =
        .ok req s' ∧ InsertsRow paymentHash s s') := by
  rcases payRecord_spec htlcVtxos change movementId s with
    ⟨e, s', hx, hr, hs⟩ | ⟨s', hx, hnone, hr, hs⟩
  · exact .inl ⟨e, s', hx, WalletState.recorded_rowsAndSent _ _ hr hs⟩
  · exact .inr ⟨_, s', hx, hnone, pendingRow liquidAddress amount htlcVtxos movementId,
      initiateRequest liquidAddress amount paymentHash htlcVtxos, rfl, rfl,
      by simp [WalletState.recorded, WalletState.initiates, hr, hs, ServerRequest.initiate?]⟩

section Frames

variable {β : Type} {view : WalletState → β}

theorem payLock_keeps_of (hv : RowsAndSent view) (inputs htlcVtxos : List Vtxo)
    (movementId : MovementId) :
    Keeps view (payLock env liquidAddress amount inputs htlcVtxos movementId) :=
  (keeps_liftExcept _).bind fun _ => (keeps_liftExcept _).bind fun _ =>
  (keeps_write _ (hv.write (by rfl))).bind fun _ => (keeps_write _ (hv.write (by rfl))).bind fun _ =>
  keeps_write _ (hv.write (by rfl))

theorem payChange_keeps_of (hv : RowsAndSent view) (change lastInput : Vtxo) :
    Keeps view (payChange env change lastInput) :=
  (keeps_liftExcept _).bind fun _ => (keeps_contextOpt _ _).bind fun _ =>
  (keeps_context _ _).bind fun _ => keeps_write _ (hv.write (by rfl))

end Frames

theorem payLock_keeps (inputs htlcVtxos : List Vtxo) (movementId : MovementId) :
    Keeps WalletState.recorded (payLock env liquidAddress amount inputs htlcVtxos movementId) :=
  payLock_keeps_of WalletState.recorded_rowsAndSent inputs htlcVtxos movementId

theorem payChange_keeps (change lastInput : Vtxo) :
    Keeps WalletState.recorded (payChange env change lastInput) :=
  payChange_keeps_of WalletState.recorded_rowsAndSent change lastInput

theorem payLocked_recordsOnce (inputs htlcVtxos : List Vtxo) (change : Option Vtxo)
    (movementId : MovementId) :
    RecordsOnce paymentHash false
      (payLocked env liquidAddress amount paymentHash inputs htlcVtxos change movementId) := by
  have hfinish : ∀ c, RecordsOnce paymentHash false
      (payFinish env liquidAddress amount paymentHash htlcVtxos c movementId) := fun _ =>
    .atomic_insert (payRecord_outcome _ _ _) fun _ => .atomic (keeps_liftExcept _) fun _ => .ok ()
  cases change with
  | none => exact .atomic (payLock_keeps _ _ _) fun _ => hfinish none
  | some c =>
    exact .atomic ((payLock_keeps _ _ _).bind fun _ => keeps_contextOpt _ _) fun _ =>
      .atomic (payChange_keeps _ _) fun _ => hfinish (some c)

theorem validateEach_recordsOnce {rest : Proc Unit} (hrest : RecordsOnce paymentHash false rest)
    (vs : List Vtxo) : RecordsOnce paymentHash false (validateEach env rest vs) := by
  induction vs with
  | nil => exact hrest
  | cons v vs ih => exact .atomic (keeps_liftExcept _) fun _ => ih

/-- **`pay_liquid_address` records once**: under every outcome of its external calls, it inserts
    the row under its payment hash and announces it in one segment at most, and returns `Ok` only
    after that segment. -/
theorem payLiquidAddress_recordsOnce :
    RecordsOnce paymentHash false (payLiquidAddress env liquidAddress amount paymentHash) :=
  .atomic (payStart_keeps _ _ _).recorded fun _ =>
  .atomic (payCosigned_keeps _ _).of_id fun _ =>
  validateEach_recordsOnce
    (.atomic keeps_newMovement.recorded fun _ => payLocked_recordsOnce _ _ _ _) _

end Pay

/-! ## What a pay forwards -/

/-- **What the wallet has stored and told the server's tracker**: the `bark_liquid_send` rows, and
    the initiate and check requests. -/
def WalletState.announced (s : WalletState) :=
  (s.db.liquidSends, s.trackerRequests)

theorem WalletState.announced_rowsAndSent : RowsAndSent WalletState.announced :=
  fun _ _ hr hs => by simp only [announced, trackerRequests, hr, hs]

/-- **A pay's row and its request agree**: the pending row of the pay's address, amount, HTLC
    outputs and movement is stored under its hash where there was none, and the one tracker request
    added asks the server to forward that address and amount, under that hash, from those HTLC
    outputs. -/
def Forwards (liquidAddress : String) (amount : Amount) (h : PaymentHash) (htlcVtxos : List Vtxo)
    (movementId : MovementId) (v v' : (PaymentHash → Option LiquidSendRow) × List ServerRequest) :
    Prop :=
  v.1 h = none ∧
    v'.1 = Function.update v.1 h (some (pendingRow liquidAddress amount htlcVtxos movementId)) ∧
    v'.2 = v.2 ++ [.initiate (initiateRequest liquidAddress amount h htlcVtxos)]

/-- The initiate request that announces `row` under `h`: the row's address, amount and HTLC VTXO
    ids. -/
def LiquidSendRow.request (row : LiquidSendRow) (h : PaymentHash) : InitiateLiquidPaymentRequest :=
  ⟨row.liquidAddress, row.amount, h, row.htlcVtxoIds, true⟩

/-- **Every stored row was announced with its own fields**: among the requests the wallet sent to
    the server's tracker is the initiate request of the row under its hash. -/
def WalletState.RowsAnnounced (s : WalletState) : Prop :=
  ∀ h row, s.db.liquidSends h = some row → .initiate (row.request h) ∈ s.trackerRequests

section RowsAnnounced

variable {s s' : WalletState}

/-- Rows stored before with the same request, and tracker requests that only grew. -/
theorem WalletState.RowsAnnounced.of_rows (hs : s.RowsAnnounced)
    (hrows : ∀ h row, s'.db.liquidSends h = some row →
      ∃ row₀, s.db.liquidSends h = some row₀ ∧ row₀.request h = row.request h)
    (htr : ∃ l, s'.trackerRequests = s.trackerRequests ++ l) : s'.RowsAnnounced := by
  intro h row hrow
  obtain ⟨row₀, hrow₀, hreq⟩ := hrows h row hrow
  obtain ⟨l, hl⟩ := htr
  rw [hl, ← hreq]
  exact List.mem_append_left _ (hs h row₀ hrow₀)

/-- The invariant reads only the rows and the tracker requests. -/
theorem WalletState.RowsAnnounced.congr (hs : s.RowsAnnounced) (he : s'.announced = s.announced) :
    s'.RowsAnnounced := by
  simp only [WalletState.announced, Prod.mk.injEq] at he
  exact hs.of_rows (fun h row hrow => ⟨row, he.1 ▸ hrow, rfl⟩) ⟨[], by rw [he.2, List.append_nil]⟩

/-- A pay's insert keeps every row announced: the new row comes with its own request. -/
theorem WalletState.RowsAnnounced.forwards {liquidAddress : String} {amount : Amount}
    {paymentHash : PaymentHash} {htlcVtxos : List Vtxo} {movementId : MovementId}
    (hs : s.RowsAnnounced)
    (hf : Forwards liquidAddress amount paymentHash htlcVtxos movementId s.announced s'.announced) :
    s'.RowsAnnounced := by
  obtain ⟨-, hrows, htr⟩ := hf
  intro h row hrow
  simp only [WalletState.announced] at hrows htr
  rw [htr]
  by_cases hh : h = paymentHash
  · subst hh
    rw [hrows, Function.update_same, Option.some.injEq] at hrow
    subst hrow
    exact List.mem_append_right _ (List.mem_singleton_self _)
  · rw [hrows, Function.update_noteq hh] at hrow
    exact List.mem_append_left _ (hs h row hrow)

theorem Keeps.rowsAnnounced {α : Type} {x : WalletM α} (hx : Keeps WalletState.announced x)
    (s : WalletState) (hs : s.RowsAnnounced) : (resultState (x s)).RowsAnnounced :=
  hs.congr (hx s)

theorem ChangesBy.rowsAnnounced {α : Type} {liquidAddress : String} {amount : Amount}
    {paymentHash : PaymentHash} {htlcVtxos : List Vtxo} {movementId : MovementId} {x : WalletM α}
    (hx : ChangesBy WalletState.announced
      (Forwards liquidAddress amount paymentHash htlcVtxos movementId) x)
    (s : WalletState) (hs : s.RowsAnnounced) : (resultState (x s)).RowsAnnounced :=
  (hx s).elim hs.congr hs.forwards

end RowsAnnounced

section Forwards

variable {env : WalletEnv} {liquidAddress : String} {amount : Amount}
  {paymentHash : PaymentHash}

theorem payStart_keeps_announced :
    Keeps WalletState.announced (payStart env liquidAddress amount paymentHash) :=
  payStart_keeps_of (fun _ _ => WalletState.announced_rowsAndSent.write (by rfl) _)
    (fun _ _ => by simp [WalletState.announced, WalletState.trackerRequests, List.filter_append,
      ServerRequest.tracked]) _ _ _

theorem payRecord_forwards (htlcVtxos : List Vtxo) (change : Option Vtxo)
    (movementId : MovementId) :
    ChangesBy WalletState.announced (Forwards liquidAddress amount paymentHash htlcVtxos movementId)
      (payRecord env liquidAddress amount paymentHash htlcVtxos change movementId) := by
  intro s
  rcases payRecord_spec htlcVtxos change movementId s with
    ⟨e, s', hx, hr, hs⟩ | ⟨s', hx, hnone, hr, hs⟩ <;> rw [hx]
  · exact .inl (WalletState.announced_rowsAndSent _ _ hr hs)
  · exact .inr ⟨hnone, by simp [WalletState.announced, hr],
      by simp [WalletState.announced, WalletState.trackerRequests, hs, List.filter_append,
        ServerRequest.tracked]⟩

theorem payFinish_forwards (htlcVtxos : List Vtxo) (change : Option Vtxo)
    (movementId : MovementId) :
    ChangesBy WalletState.announced (Forwards liquidAddress amount paymentHash htlcVtxos movementId)
      (payFinish env liquidAddress amount paymentHash htlcVtxos change movementId).run := by
  rw [payFinish, Proc.run_atomic_eq_bind]
  refine (payRecord_forwards htlcVtxos change movementId).bind_keeps fun _ => ?_
  rw [Proc.run_atomic_eq_bind]
  exact (keeps_liftExcept _).bind fun _ _ => rfl

theorem payLocked_forwards (inputs htlcVtxos : List Vtxo) (change : Option Vtxo)
    (movementId : MovementId) :
    ChangesBy WalletState.announced (Forwards liquidAddress amount paymentHash htlcVtxos movementId)
      (payLocked env liquidAddress amount paymentHash inputs htlcVtxos change movementId).run := by
  have hv := WalletState.announced_rowsAndSent
  cases change with
  | none => exact (payLock_keeps_of hv _ _ _).run_atomic fun _ => payFinish_forwards _ _ _
  | some c =>
    exact ((payLock_keeps_of hv _ _ _).bind fun _ => keeps_contextOpt _ _).run_atomic fun _ =>
      (payChange_keeps_of hv _ _).run_atomic fun _ => payFinish_forwards _ _ _

/-- Segments 4 to 8 forward the row under the movement they create, the next one of the wallet. -/
theorem payPersist_forwards (inputs htlcVtxos : List Vtxo) (change : Option Vtxo)
    (s : WalletState) :
    (resultState ((payPersist env liquidAddress amount paymentHash inputs htlcVtxos change).run
        s)).announced = s.announced ∨
    Forwards liquidAddress amount paymentHash htlcVtxos s.db.nextMovementId s.announced
      (resultState ((payPersist env liquidAddress amount paymentHash inputs htlcVtxos change).run
        s)).announced := by
  have hkeep : (resultState (newMovement env s)).announced = s.announced :=
    keeps_newMovement_of (WalletState.announced_rowsAndSent.write (by rfl)) s
  rw [payPersist, Proc.run_atomic]
  cases h : newMovement env s with
  | ok movementId s₁ =>
    rw [h, resultState_ok] at hkeep
    obtain rfl := newMovement_eq_ok h
    rw [← hkeep]
    exact payLocked_forwards inputs htlcVtxos change _ s₁
  | error e s₁ =>
    rw [h, resultState_error] at hkeep
    exact .inl hkeep

/-- The `validate_vtxo` loop runs the rest from where it is, or fails there. -/
theorem validateEach_run_cases {α : Type} (rest : Proc α) (vs : List Vtxo) (s : WalletState) :
    (validateEach env rest vs).run s = rest.run s ∨
      ∃ e, (validateEach env rest vs).run s = .error e s := by
  induction vs with
  | nil => exact .inl rfl
  | cons v vs ih =>
    rw [validateEach, Proc.run_atomic]
    cases env.validateVtxo v with
    | ok _ => exact ih
    | error e => exact .inr ⟨e, rfl⟩

/-- **`pay_liquid_address` run alone forwards what it records.** Under every outcome of its
    external calls, the call leaves the rows and the tracker requests as they were; or its cosign
    reply was accepted, and it stores, under its hash where there was none, the pending row of its
    address and amount, the HTLC outputs built from that reply and the movement the wallet creates
    next, and sends exactly one tracker request: the initiate request for that address, amount,
    hash and those HTLC outputs. -/
theorem payLiquidAddress_forwards (s : WalletState) :
    (resultState ((payLiquidAddress env liquidAddress amount paymentHash).run s)).announced =
        s.announced ∨
    ∃ ctx s₁ out, payStart env liquidAddress amount paymentHash s = .ok ctx s₁ ∧
      payCosigned env amount ctx s₁ = .ok out s₁ ∧
      Forwards liquidAddress amount paymentHash out.1 s.db.nextMovementId s.announced
        (resultState ((payLiquidAddress env liquidAddress amount paymentHash).run s)).announced := by
  rcases @payLiquidAddress_run_split env liquidAddress amount paymentHash s with
    ⟨e, hrun⟩ | ⟨ctx, s₁, out, h₁, h₂, hrun⟩ <;> rw [hrun]
  · exact .inl (payStart_keeps_announced s)
  · have hstart : (resultState (payStart env liquidAddress amount paymentHash s)).announced =
        s.announced := payStart_keeps_announced s
    have hmid := @payStart_nextMovementId env liquidAddress amount paymentHash s
    rw [h₁, resultState_ok] at hstart hmid
    rcases validateEach_run_cases (payPersist env liquidAddress amount paymentHash ctx.inputs
      out.1 out.2) out.1 s₁ with hv | ⟨e, hv⟩ <;> rw [hv]
    · rcases payPersist_forwards ctx.inputs out.1 out.2 s₁ with hp | hp
      · exact .inl (hp.trans hstart)
      · exact .inr ⟨ctx, s₁, out, h₁, h₂, by rw [← hstart, ← hmid]; exact hp⟩
    · exact .inl hstart

/-! ### Segment by segment -/

theorem validateEach_preserves {P : WalletState → Prop} {rest : Proc Unit}
    (hrest : rest.Preserves P) (vs : List Vtxo) : (validateEach env rest vs).Preserves P := by
  induction vs with
  | nil => exact hrest
  | cons v vs ih => exact .atomic (fun s hs => by cases env.validateVtxo v <;> exact hs) fun _ => ih

/-- **Every segment of `pay_liquid_address` keeps every row announced**: segment 7 inserts its row
    with its own request, and the others leave the rows and the tracker requests alone. -/
theorem payLiquidAddress_preserves :
    (payLiquidAddress env liquidAddress amount paymentHash).Preserves WalletState.RowsAnnounced := by
  have hv := WalletState.announced_rowsAndSent
  have hfinish : ∀ htlcVtxos change movementId,
      (payFinish env liquidAddress amount paymentHash htlcVtxos change movementId).Preserves
        WalletState.RowsAnnounced := fun _ _ _ =>
    .atomic (payRecord_forwards _ _ _).rowsAnnounced fun _ =>
      .atomic (keeps_liftExcept _).rowsAnnounced fun _ => .done _
  refine .atomic payStart_keeps_announced.rowsAnnounced fun _ =>
    .atomic (payCosigned_keeps _ _).of_id.rowsAnnounced fun _ => validateEach_preserves
      (.atomic (keeps_newMovement_of (hv.write (by rfl))).rowsAnnounced fun _ => ?_) _
  unfold payLocked
  split
  · exact .atomic (payLock_keeps_of hv _ _ _).rowsAnnounced fun _ => hfinish _ _ _
  · exact .atomic ((payLock_keeps_of hv _ _ _).bind fun _ => keeps_contextOpt _ _).rowsAnnounced
      fun _ => .atomic (payChange_keeps_of hv _ _).rowsAnnounced fun _ => hfinish _ _ _

end Forwards

/-! ## Calls in flight -/

/-- **Calls in flight on one wallet**: the wallet, and what is left of each call. -/
structure PaySys where
  wallet : WalletState
  calls : List (Proc Unit)

/-- **The executor resumes call `i`** for one segment. A call that has returned, or an index past
    the last call, does not move. -/
def PaySys.step (sys : PaySys) (i : Nat) : PaySys :=
  match sys.calls[i]? with
  | some (.step f next) => ⟨f sys.wallet, sys.calls.set i (next sys.wallet)⟩
  | _ => sys

/-- A schedule of resumptions, one after another. -/
def PaySys.run (sys : PaySys) (schedule : List Nat) : PaySys :=
  schedule.foldl PaySys.step sys

/-- `pay_liquid_address` for hash `h` started on `w` once per world, address and amount. -/
def PaySys.start (w : WalletState) (h : PaymentHash)
    (pays : List (WalletEnv × String × Amount)) : PaySys :=
  ⟨w, pays.map fun p => payLiquidAddress p.1 p.2.1 p.2.2 h⟩

/-- **The invariant of calls for one hash `h`, started on the wallet `w`**, given a flag per call,
    set once the call has inserted its row. -/
structure PaySys.Flagged (h : PaymentHash) (w : WalletState) (sys : PaySys) (flag : Nat → Bool) :
    Prop where
  calls : ∀ i p, sys.calls[i]? = some p → RecordsOnce h (flag i) p
  /-- At most one flag is set. -/
  unique : ∀ i j, i < sys.calls.length → j < sys.calls.length → flag i = true → flag j = true →
    i = j
  /-- With none set, the rows and the requests are those of `w`. -/
  none_set : (∀ i, i < sys.calls.length → flag i = false) → sys.wallet.recorded = w.recorded
  /-- With one set, they are those of `w` plus its insert. -/
  some_set : ∀ i, i < sys.calls.length → flag i = true → InsertsRow h w sys.wallet

/-- The invariant, for some flags. -/
def PaySys.Inv (h : PaymentHash) (w : WalletState) (sys : PaySys) : Prop :=
  ∃ flag, sys.Flagged h w flag

section System

variable {h : PaymentHash} {w : WalletState}

theorem PaySys.inv_start (pays : List (WalletEnv × String × Amount)) :
    (PaySys.start w h pays).Inv h w := by
  refine ⟨fun _ => false, fun i p hp => ?_, by simp, fun _ => rfl, by simp⟩
  obtain ⟨q, -, rfl⟩ := List.mem_map.mp (List.getElem?_mem hp)
  exact payLiquidAddress_recordsOnce

/-- The calls after one resumes: call `i` replaced by what is left of it. -/
theorem getElem?_set_calls {calls : List (Proc Unit)} {i j : Nat} {p q : Proc Unit}
    (hi : calls[i]? = some p) (hj : (calls.set i q)[j]? = some p') :
    (j = i ∧ p' = q) ∨ (j ≠ i ∧ calls[j]? = some p') := by
  rw [List.getElem?_set] at hj
  by_cases hji : i = j
  · subst hji
    have hlt : i < calls.length := (List.getElem?_eq_some_iff.mp hi).1
    simp only [hlt, if_true, Option.some.injEq] at hj
    exact .inl ⟨rfl, hj.symm⟩
  · simp only [hji, if_false] at hj
    exact .inr ⟨Ne.symm hji, hj⟩

section Resume

variable {sys : PaySys} {flag : Nat → Bool} {i : Nat} {f : WalletState → WalletState}
  {next : WalletState → Proc Unit}

/-- Resuming call `i` for a segment that keeps the rows and the requests keeps every flag. -/
theorem PaySys.Flagged.resume_keep (hinv : sys.Flagged h w flag)
    (hc : sys.calls[i]? = some (.step f next)) (hf : (f sys.wallet).recorded = sys.wallet.recorded) :
    (PaySys.mk (f sys.wallet) (sys.calls.set i (next sys.wallet))).Flagged h w flag := by
  refine ⟨fun j p hj => ?_, by simpa using hinv.unique,
    fun hall => hf.trans (hinv.none_set (by simpa using hall)),
    fun j hj hfj => (hinv.some_set j (by simpa using hj) hfj).congr rfl hf.symm⟩
  rcases getElem?_set_calls hc hj with ⟨rfl, rfl⟩ | ⟨-, hj⟩
  · exact (hinv.calls _ _ hc).step_inv.1 _ hf
  · exact hinv.calls j p hj

/-- Resuming call `i` for the segment that inserts sets its flag: no other flag was set. -/
theorem PaySys.Flagged.resume_insert (hinv : sys.Flagged h w flag)
    (hc : sys.calls[i]? = some (.step f next)) (hf : (f sys.wallet).recorded ≠ sys.wallet.recorded) :
    (PaySys.mk (f sys.wallet) (sys.calls.set i (next sys.wallet))).Flagged h w
      (Function.update flag i true) := by
  have hlt : i < sys.calls.length := (List.getElem?_eq_some_iff.mp hc).1
  obtain ⟨-, hi⟩ := (hinv.calls i _ hc).step_inv.2.1 _ hf
  have hothers : ∀ j, j < sys.calls.length → flag j = false := fun j hj => by
    cases hfj : flag j
    · rfl
    · exact absurd hi (hinv.some_set j hj hfj).not_again
  have honly : ∀ j, j < sys.calls.length → Function.update flag i true j = true → j = i :=
    fun j hj hfj => by
      by_contra hji
      rw [Function.update_noteq hji, hothers j hj] at hfj
      cases hfj
  refine ⟨fun j p hj => ?_, fun j k hj hk hfj hfk => ?_, fun hall => ?_,
    fun _ _ _ => hi.congr (hinv.none_set hothers) rfl⟩
  · rcases getElem?_set_calls hc hj with ⟨rfl, rfl⟩ | ⟨hji, hj⟩
    · rw [Function.update_same]
      exact (hinv.calls _ _ hc).step_inv.2.2 _ hf
    · rw [Function.update_noteq hji]
      exact hinv.calls j p hj
  · simp only [List.length_set] at hj hk
    exact (honly j hj hfj).trans (honly k hk hfk).symm
  · simpa using hall i (by simpa using hlt)

end Resume

/-- **Step lemma.** Resuming any call keeps the invariant. -/
theorem PaySys.inv_step {sys : PaySys} (hinv : sys.Inv h w) (i : Nat) : (sys.step i).Inv h w := by
  obtain ⟨flag, hinv⟩ := hinv
  unfold PaySys.step
  cases hc : sys.calls[i]? with
  | none => exact ⟨flag, hinv⟩
  | some p =>
    cases p with
    | done r => exact ⟨flag, hinv⟩
    | step f next =>
      by_cases hf : (f sys.wallet).recorded = sys.wallet.recorded
      · exact ⟨flag, hinv.resume_keep hc hf⟩
      · exact ⟨_, hinv.resume_insert hc hf⟩

/-- **Run lemma.** Every schedule keeps the invariant. -/
theorem PaySys.inv_run {sys : PaySys} (hinv : sys.Inv h w) (schedule : List Nat) :
    (sys.run schedule).Inv h w := by
  induction schedule generalizing sys with
  | nil => exact hinv
  | cons i is ih => exact ih (PaySys.inv_step hinv i)

/-- An insert under `h` sends one initiate request, for `h`. -/
theorem InsertsRow.initiates {s s' : WalletState} (hi : InsertsRow h s s') :
    ∃ req : InitiateLiquidPaymentRequest, req.paymentHash = h ∧ s'.initiates = s.initiates ++ [req] := by
  obtain ⟨-, row, req, -, hreq, hrec⟩ := hi
  exact ⟨req, hreq, congrArg Prod.snd hrec⟩

/-- **The requests of calls for one hash**: those of `w`, or those and one initiate request for
    the hash. -/
theorem PaySys.Inv.initiates {sys : PaySys} (hinv : sys.Inv h w) :
    sys.wallet.initiates = w.initiates ∨
      ∃ req : InitiateLiquidPaymentRequest, req.paymentHash = h ∧
        sys.wallet.initiates = w.initiates ++ [req] := by
  obtain ⟨flag, -, -, hnone, hsome⟩ := hinv
  by_cases hany : ∃ i, i < sys.calls.length ∧ flag i = true
  · obtain ⟨i, hi, hfi⟩ := hany
    exact .inr (hsome i hi hfi).initiates
  · refine .inl (congrArg Prod.snd (hnone fun i hi => ?_))
    simpa using fun hfi => hany ⟨i, hi, hfi⟩

/-- **Step lemma, as the server sees it.** Resuming a call keeps the rows and the requests, or
    inserts the row of `h` and sends its initiate request. -/
theorem PaySys.step_recorded {sys : PaySys} (hinv : sys.Inv h w) (i : Nat) :
    (sys.step i).wallet.recorded = sys.wallet.recorded ∨ InsertsRow h sys.wallet (sys.step i).wallet := by
  obtain ⟨flag, hinv⟩ := hinv
  unfold PaySys.step
  cases hc : sys.calls[i]? with
  | none => exact .inl rfl
  | some p =>
    cases p with
    | done r => exact .inl rfl
    | step f next =>
      by_cases hf : (f sys.wallet).recorded = sys.wallet.recorded
      · exact .inl hf
      · exact .inr ((hinv.calls i _ hc).step_inv.2.1 _ hf).2

/-! ### A state predicate that every segment keeps -/

section Preserves

variable {P : WalletState → Prop} {sys : PaySys}

/-- **Step lemma.** Resuming a call whose segments keep `P` keeps `P`, and what is left of it
    keeps it too. -/
theorem PaySys.step_preserves (hw : P sys.wallet) (hc : ∀ p ∈ sys.calls, p.Preserves P)
    (i : Nat) : P (sys.step i).wallet ∧ ∀ p ∈ (sys.step i).calls, p.Preserves P := by
  unfold PaySys.step
  split
  · rename_i f next hi
    cases hc _ (List.getElem?_mem hi) with
    | step hf hnext =>
      refine ⟨hf _ hw, fun p hp => ?_⟩
      rcases List.mem_or_eq_of_mem_set hp with hp | rfl
      · exact hc p hp
      · exact hnext _
  · exact ⟨hw, hc⟩

/-- **Run lemma.** -/
theorem PaySys.run_preserves (hw : P sys.wallet) (hc : ∀ p ∈ sys.calls, p.Preserves P)
    (schedule : List Nat) :
    P (sys.run schedule).wallet ∧ ∀ p ∈ (sys.run schedule).calls, p.Preserves P := by
  induction schedule generalizing sys with
  | nil => exact ⟨hw, hc⟩
  | cons i is ih =>
    obtain ⟨hw', hc'⟩ := PaySys.step_preserves hw hc i
    exact ih hw' hc'

end Preserves

end System

/-- **Concurrent payments under one hash insert once.** Start any number of `pay_liquid_address`
    calls for hash `h` on a wallet `w`, each in its own world (any server and chain replies, any
    store faults), and resume them in any order. Then either the rows and the initiate requests are
    those of `w` and no call has returned `Ok`; or `w` had no row under `h`, one unfinished row
    under `h` and one initiate request for `h` were added and nothing else changed in them, and at
    most one call has returned `Ok`. -/
theorem concurrent_pays_insert_once (w : WalletState) (h : PaymentHash)
    (pays : List (WalletEnv × String × Amount)) (schedule : List Nat) :
    let sys := (PaySys.start w h pays).run schedule
    (sys.wallet.recorded = w.recorded ∧ ∀ p ∈ sys.calls, p.returnedOk = false) ∨
    (InsertsRow h w sys.wallet ∧ ∀ (i j : Nat) (p q : Proc Unit), sys.calls[i]? = some p →
      sys.calls[j]? = some q → p.returnedOk = true → q.returnedOk = true → i = j) := by
  intro sys
  obtain ⟨flag, hcalls, huniq, hnone, hsome⟩ : sys.Inv h w :=
    PaySys.inv_run (PaySys.inv_start pays) schedule
  have hflag : ∀ i p, sys.calls[i]? = some p → p.returnedOk = true →
      i < sys.calls.length ∧ flag i = true := fun i p hp hok =>
    ⟨(List.getElem?_eq_some_iff.mp hp).1, (hcalls i p hp).inserted_of_returnedOk hok⟩
  by_cases hany : ∃ i, i < sys.calls.length ∧ flag i = true
  · obtain ⟨i, hi, hfi⟩ := hany
    refine .inr ⟨hsome i hi hfi, fun j k p q hp hq hokp hokq => ?_⟩
    obtain ⟨hj, hfj⟩ := hflag j p hp hokp
    obtain ⟨hk, hfk⟩ := hflag k q hq hokq
    exact huniq j k hj hk hfj hfk
  · have hall : ∀ i, i < sys.calls.length → flag i = false := fun i hi => by
      simpa using fun hfi => hany ⟨i, hi, hfi⟩
    refine .inl ⟨hnone hall, fun p hp => Bool.eq_false_iff.mpr fun hok => ?_⟩
    obtain ⟨i, hpi⟩ := List.mem_iff_getElem?.mp hp
    obtain ⟨hi, hfi⟩ := hflag i p hpi hok
    simp [hall i hi] at hfi

/-- **Under every interleaving, every row is announced with its own fields.** From a wallet whose
    rows were all announced, any number of `pay_liquid_address` calls for one hash, resumed in any
    order, leave a wallet whose every `bark_liquid_send` row has, among the requests sent to the
    server's tracker, the initiate request for the row's hash, address, amount and HTLC VTXO ids:
    the row the race's winner inserts comes with that call's own request. -/
theorem concurrent_pays_rows_announced (w : WalletState) (h : PaymentHash)
    (pays : List (WalletEnv × String × Amount)) (schedule : List Nat) (hw : w.RowsAnnounced) :
    ((PaySys.start w h pays).run schedule).wallet.RowsAnnounced :=
  (PaySys.run_preserves hw (fun p hp => by
    obtain ⟨q, -, rfl⟩ := List.mem_map.mp hp
    exact payLiquidAddress_preserves) schedule).1

/-! ## Two calls that both pass the duplicate check -/

/-- A second world under the same hash: the wallet covers the amount with VTXO 2, and the library
    signs HTLC output 12 and change 13. -/
def otherEnv : WalletEnv :=
  { demoEnv with
    selectVtxosToCover := fun db _ =>
      match db.vtxos 2 with
      | some v => .ok [v.vtxo]
      | none => .error "no spendable VTXOs"
    buildVtxos := fun b _ =>
      match b with
      | .send .. =>
        .ok ([⟨12, 40000, .pubkey 0, 900, "oor"⟩], some ⟨13, 10000, .pubkey 101, 900, "oor"⟩)
      | .htlcRevocation .. => .ok ([], none) }

/-- `demoWallet` with a second spendable VTXO, of 50 000 sats. -/
def twoVtxoWallet : WalletState :=
  { demoWallet with
    db :=
      { demoWallet.db with
        vtxos := fun id =>
          if id = 2 then some ⟨⟨2, 50000, .pubkey 101, 900, "anchor"⟩, .spendable⟩
          else demoWallet.db.vtxos id } }

/-- **Both calls pass the duplicate check.** Calls 0 and 1 pay under hash 7, and each runs its
    first segment before either inserts. Call 0 then runs to `Ok`. Call 1 runs on: it locks its
    HTLC output 12 under its movement, marks its input 2 spent, and fails only at the insert, on
    the `UNIQUE` constraint. The row under hash 7 is call 0's. -/
theorem second_pay_locks_then_fails :
    let sys := (PaySys.start twoVtxoWallet 7
      [(demoEnv, "addr", 40000), (otherEnv, "addr", 40000)]).run
      ([0, 1] ++ List.replicate 7 0 ++ List.replicate 6 1)
    sys.calls.map Proc.outcome = [some (.ok ()), some (.error uniqueViolation)] ∧
      (sys.wallet.db.vtxos 12).map (·.state) = some (.locked (some 1)) ∧
      (sys.wallet.db.vtxos 2).map (·.state) = some .spent ∧
      (sys.wallet.db.liquidSends 7).map (·.htlcVtxoIds) = some [10] := by
  decide

theorem raced_pays_announced :
    ((PaySys.start twoVtxoWallet 7 [(demoEnv, "addr", 40000), (otherEnv, "addr", 40000)]).run
      ([0, 1] ++ List.replicate 7 0 ++ List.replicate 6 1)).wallet.RowsAnnounced :=
  concurrent_pays_rows_announced twoVtxoWallet 7 _ _
    (fun _ _ hr => by simp [twoVtxoWallet, demoWallet] at hr)

end BarkLiquid.Wallet
