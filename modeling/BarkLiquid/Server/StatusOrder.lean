import BarkLiquid.Server.Run

/-!
# `BarkLiquid.Server.StatusOrder` — when a payment's status follows the spec's order

The spec orders the statuses of a tracked payment: Pending → {Sent, Failed},
Sent → {Confirmed, Failed}, with Confirmed and Failed terminal. No call of the code takes
Sent → Failed (a check writes only `Confirmed`), so `StatusStep` is that order without it. The
code keeps this order only as long as each payment hash is used by a single
`initiate_liquid_payment` call:

* a second call for a hash overwrites its entry with `Pending`, whatever its status;
* a check that read `Sent` before that second call writes its stale snapshot back as
  `Confirmed` over whatever the second call recorded (both in `failed_entry_changes`).

`ReachableOnce` is the runs with one initiate call per hash, any number of checks, any
interleaving and any daemon replies. Along them every step moves each entry by an `EntryStep`
(create as `Pending`; own `Pending` to `Sent`/`Failed`; `Sent` to `Confirmed`), which is the
order (`status_follows_order`). The argument is an invariant on the calls in flight: the
initiating call of a hash is the only call that can write its entry until it records the
daemon's answer, and every check waiting on `gettransaction` holds the entry's current `Sent`
record, so all of them write back the same `Confirmed` record.
-/

namespace BarkLiquid.Server

/-! ## The order -/

/-- **The spec's order on statuses** less Sent → Failed, with the creation of an entry as
    `Pending`. -/
inductive StatusStep : Option LiquidPaymentStatus → Option LiquidPaymentStatus → Prop
  | stay (s : Option LiquidPaymentStatus) : StatusStep s s
  | create : StatusStep none (some .pending)
  | send : StatusStep (some .pending) (some .sent)
  | fail : StatusStep (some .pending) (some .failed)
  | confirm : StatusStep (some .sent) (some .confirmed)

/-- **How one step of a run with one initiate call per hash moves an entry.** -/
inductive EntryStep : Option LiquidPayment → Option LiquidPayment → Prop
  | stay (e : Option LiquidPayment) : EntryStep e e
  | create (q : LiquidPayment) : q.status = .pending → EntryStep none (some q)
  | record (p q : LiquidPayment) : p.status = .pending → q.status = .sent ∨ q.status = .failed →
      EntryStep (some p) (some q)
  | confirm (p : LiquidPayment) : p.status = .sent →
      EntryStep (some p) (some { p with status := .confirmed })

theorem EntryStep.status {e e' : Option LiquidPayment} (h : EntryStep e e') :
    StatusStep (e.map (·.status)) (e'.map (·.status)) := by
  cases h with
  | stay => exact .stay _
  | create q hq => simpa [hq] using StatusStep.create
  | record p q hp hq =>
    rcases hq with hq | hq
    · simpa [hp, hq] using StatusStep.send
    · simpa [hp, hq] using StatusStep.fail
  | confirm p hp => simpa [hp] using StatusStep.confirm

/-- A `Confirmed` or `Failed` entry is left as it is. -/
theorem EntryStep.terminal {q : LiquidPayment} {e' : Option LiquidPayment}
    (h : EntryStep (some q) e') (hq : q.status = .confirmed ∨ q.status = .failed) : e' = some q := by
  cases h with
  | stay => rfl
  | record _ _ hp => rcases hq with hq | hq <;> simp [hq] at hp
  | confirm _ hp => rcases hq with hq | hq <;> simp [hq] at hp

/-- The status stored under `h`. -/
def ServerSys.status (sys : ServerSys) (h : PaymentHash) : Option LiquidPaymentStatus :=
  (sys.state.liquidPayments h).map (·.status)

/-! ## Runs with one initiate call per hash -/

/-- The hash of an `initiate_liquid_payment` call while it is in flight. -/
def ServerCall.initiating : ServerCall → Option PaymentHash
  | .initiate _ _ h _ _ => some h
  | .sending p _ => some p.paymentHash
  | .recording p _ => some p.paymentHash
  | _ => none

/-- The entry a call in flight depends on. -/
def ServerCall.watched : ServerCall → Option PaymentHash
  | .querying h _ _ => some h
  | c => c.initiating

/-- The hash of the new `initiate_liquid_payment` call an action brings. -/
def ServerAction.initiateHash : ServerAction → Option PaymentHash
  | .initiate _ _ h _ _ => some h
  | _ => none

/-- **Runs with one `initiate_liquid_payment` call per hash.** `used` lists the hashes of the
    initiate calls so far; a new one must be for another hash. -/
inductive ReachableOnce (cfg : ServerConfig) : List PaymentHash → ServerSys → Prop
  | init : ReachableOnce cfg [] ServerSys.init
  | step {used : List PaymentHash} {sys : ServerSys} (a : ServerAction) :
      ReachableOnce cfg used sys → (∀ h ∈ a.initiateHash, h ∉ used) →
      ReachableOnce cfg (a.initiateHash.toList ++ used) (sys.step cfg a)

/-- Actions that bring no initiate call keep a run in `ReachableOnce`. -/
theorem ReachableOnce.run_of_no_initiate {cfg : ServerConfig} {used : List PaymentHash}
    {sys : ServerSys} (hr : ReachableOnce cfg used sys) (as : List ServerAction)
    (has : ∀ a ∈ as, a.initiateHash = none) : ReachableOnce cfg used (sys.run cfg as) := by
  induction as generalizing sys with
  | nil => exact hr
  | cons a as ih =>
    have ha := has a (.head _)
    have hstep := hr.step a (by simp [ha])
    rw [ha, Option.toList_none, List.nil_append] at hstep
    exact ih hstep fun b hb => has b (.tail _ hb)

/-- What a call in flight knows about the entry it depends on. -/
def OnceCallInv (st : ServerState) : ServerCall → Prop
  | .initiate _ _ h _ _ => st.liquidPayments h = none
  | .sending p _ => st.liquidPayments p.paymentHash = some p ∧ p.status = .pending
  | .recording p _ => st.liquidPayments p.paymentHash = some p ∧ p.status = .pending
  | .querying h p _ => p.status = .sent ∧ p.paymentHash = h ∧
      (st.liquidPayments h = some p ∨ st.liquidPayments h = some { p with status := .confirmed })
  | _ => True

/-- **The invariant of runs with one initiate call per hash.** -/
structure OnceInv (used : List PaymentHash) (sys : ServerSys) : Prop where
  keyed : ∀ h q, sys.state.liquidPayments h = some q → q.paymentHash = h
  unused : ∀ h, h ∉ used → sys.state.liquidPayments h = none
  fresh : ∀ i, sys.arrived ≤ i → sys.calls i = none
  unique : ∀ i j ci cj h, sys.calls i = some ci → sys.calls j = some cj →
    ci.initiating = some h → cj.initiating = some h → i = j
  inUsed : ∀ i c h, sys.calls i = some c → c.initiating = some h → h ∈ used
  /-- A `Pending` entry belongs to the initiate call of its hash, still in flight. -/
  pendingOwned : ∀ h q, sys.state.liquidPayments h = some q → q.status = .pending →
    ∃ i c, sys.calls i = some c ∧ c.initiating = some h
  calls : ∀ i c, sys.calls i = some c → OnceCallInv sys.state c

section Step

variable {cfg : ServerConfig} {used : List PaymentHash} {sys : ServerSys} {st st' : ServerState}

/-- An initiating call's entry is absent or its own `Pending` record. -/
theorem OnceCallInv.initiating_entry {c : ServerCall} {k : PaymentHash} (hc : OnceCallInv st c)
    (hk : c.initiating = some k) {q : LiquidPayment} (hq : st.liquidPayments k = some q) :
    q.status = .pending := by
  cases c <;> simp only [ServerCall.initiating, Option.some.injEq, reduceCtorEq] at hk <;>
    subst hk <;> simp_all [OnceCallInv]

/-- A waiting check's entry is `Sent` or `Confirmed`. -/
theorem OnceCallInv.querying_entry {h : PaymentHash} {p : LiquidPayment}
    {r : Except String (Option Nat)} (hc : OnceCallInv st (.querying h p r)) :
    ∃ q, st.liquidPayments h = some q ∧ (q.status = .sent ∨ q.status = .confirmed) := by
  obtain ⟨hp, -, he | he⟩ := hc
  · exact ⟨p, he, .inl hp⟩
  · exact ⟨_, he, .inr rfl⟩

/-- Two checks waiting on one entry hold the same snapshot. -/
theorem OnceCallInv.querying_eq {h : PaymentHash} {p p' : LiquidPayment}
    {r r' : Except String (Option Nat)} (hc : OnceCallInv st (.querying h p r))
    (hc' : OnceCallInv st (.querying h p' r')) : p = p' := by
  obtain ⟨hp, -, he | he⟩ := hc <;> obtain ⟨hp', -, he' | he'⟩ := hc' <;> rw [he] at he' <;>
    cases p <;> cases p' <;> simp_all

/-- A call's knowledge survives every change to entries it does not depend on. -/
theorem OnceCallInv.frame {d : ServerCall} (hd : OnceCallInv st d)
    (h : ∀ k, d.watched = some k → st'.liquidPayments k = st.liquidPayments k) :
    OnceCallInv st' d := by
  cases d with
  | initiate a amt k ids r => simpa [OnceCallInv, h k rfl] using hd
  | sending p r => simpa [OnceCallInv, h _ rfl] using hd
  | recording p r => simpa [OnceCallInv, h _ rfl] using hd
  | querying k p r => simpa [OnceCallInv, h k rfl] using hd
  | check => trivial
  | returned => trivial

/-- **The initiating call of a hash is the only call depending on its entry.** -/
theorem OnceInv.sole_watcher (hi : OnceInv used sys) {i j : Nat} {c d : ServerCall}
    {k : PaymentHash} (hc : sys.calls i = some c) (hk : c.initiating = some k)
    (hd : sys.calls j = some d) (hdk : d.watched = some k) : j = i := by
  cases d with
  | querying h p r =>
    simp only [ServerCall.watched, Option.some.injEq] at hdk
    subst hdk
    obtain ⟨q, hq, hs⟩ := (hi.calls j _ hd).querying_entry
    have := (hi.calls i c hc).initiating_entry hk hq
    rcases hs with hs | hs <;> simp [hs] at this
  | check => simp [ServerCall.watched, ServerCall.initiating] at hdk
  | returned => simp [ServerCall.watched, ServerCall.initiating] at hdk
  | initiate => exact hi.unique j i _ c k hd hc hdk hk
  | sending => exact hi.unique j i _ c k hd hc hdk hk
  | recording => exact hi.unique j i _ c k hd hc hdk hk

/-- A call arriving keeps the invariant: it is numbered past every earlier call, and a new
    initiate call is for an unused hash. -/
theorem OnceInv.arrive (hi : OnceInv used sys) (c : ServerCall) (hc : OnceCallInv sys.state c)
    (hnew : ∀ h, c.initiating = some h → h ∉ used) :
    OnceInv (c.initiating.toList ++ used) (sys.arrive c) := by
  have old : ∀ {i d}, sys.calls i = some d → i ≠ sys.arrived := fun hd he =>
    by simp [hi.fresh _ he.ge] at hd
  simp only [ServerSys.arrive]
  refine ⟨hi.keyed, fun h hh => hi.unused h (by simp_all), fun i hle => ?_, ?_, ?_, ?_, ?_⟩
  · dsimp only at hle ⊢
    rw [Function.update_noteq (by omega)]; exact hi.fresh i (by omega)
  · intro i j ci cj h hi' hj hci hcj
    simp only [Function.update_apply] at hi' hj
    split_ifs at hi' hj with h1 h2 h2
    · omega
    · cases hi'; exact absurd (hi.inUsed j cj h hj hcj) (hnew h hci)
    · cases hj; exact absurd (hi.inUsed i ci h hi' hci) (hnew h hcj)
    · exact hi.unique i j ci cj h hi' hj hci hcj
  · intro i d h hd hdh
    simp only [Function.update_apply] at hd
    split_ifs at hd
    · cases hd; simp [hdh]
    · exact List.mem_append_right _ (hi.inUsed i d h hd hdh)
  · intro h q hq hp
    obtain ⟨i, d, hd, hdh⟩ := hi.pendingOwned h q hq hp
    exact ⟨i, d, by dsimp only; rw [Function.update_noteq (old hd)]; exact hd, hdh⟩
  · intro i d hd
    simp only [Function.update_apply] at hd
    split_ifs at hd
    · cases hd; exact hc
    · exact hi.calls i d hd

/-- **Replacing a call.** Call `i` moves to a stage initiating the same hash, or none, and the
    state changes to `st'`: the invariant holds again once the new entries are keyed and written
    only at used hashes, every `Pending` entry still has its initiating call, and every call knows
    what it should of `st'`. -/
theorem OnceInv.replace (hi : OnceInv used sys) {i : Nat} {c c' : ServerCall}
    (hc : sys.calls i = some c) (hini : c'.initiating = c.initiating ∨ c'.initiating = none)
    (hkeyed : ∀ h q, st'.liquidPayments h = some q → q.paymentHash = h)
    (hunused : ∀ h, h ∉ used → st'.liquidPayments h = sys.state.liquidPayments h)
    (hpend : ∀ h q, st'.liquidPayments h = some q → q.status = .pending →
      c'.initiating = some h ∨ ∃ j d, j ≠ i ∧ sys.calls j = some d ∧ d.initiating = some h)
    (hcall : OnceCallInv st' c') (hothers : ∀ j d, j ≠ i → sys.calls j = some d → OnceCallInv st' d) :
    OnceInv used ⟨st', Function.update sys.calls i (some c'), sys.arrived⟩ := by
  have hlt : i < sys.arrived := Nat.lt_of_not_le fun h => by simp [hi.fresh i h] at hc
  have hini' : ∀ h, c'.initiating = some h → c.initiating = some h := by
    rcases hini with e | e <;> simp [e]
  refine ⟨hkeyed, fun h hh => (hunused h hh).trans (hi.unused h hh), fun j hj => ?_, ?_, ?_, ?_, ?_⟩
  · dsimp only at hj ⊢
    rw [Function.update_noteq (by omega)]; exact hi.fresh j hj
  · intro i₁ i₂ c₁ c₂ h h₁ h₂ hc₁ hc₂
    simp only [Function.update_apply] at h₁ h₂
    split_ifs at h₁ h₂ with e₁ e₂ e₂
    · omega
    · cases h₁; exact e₁ ▸ hi.unique i i₂ c c₂ h hc h₂ (hini' h hc₁) hc₂
    · cases h₂; exact e₂ ▸ hi.unique i₁ i c₁ c h h₁ hc hc₁ (hini' h hc₂)
    · exact hi.unique i₁ i₂ c₁ c₂ h h₁ h₂ hc₁ hc₂
  · intro j d h hd hdh
    simp only [Function.update_apply] at hd
    split_ifs at hd
    · cases hd; exact hi.inUsed i c h hc (hini' h hdh)
    · exact hi.inUsed j d h hd hdh
  · intro h q hq hp
    rcases hpend h q hq hp with e | ⟨j, d, hji, hd, hdh⟩
    · exact ⟨i, c', by simp, e⟩
    · exact ⟨j, d, by dsimp only; rw [Function.update_noteq hji]; exact hd, hdh⟩
  · intro j d hd
    simp only [Function.update_apply] at hd
    split_ifs at hd with e
    · cases hd; exact hcall
    · exact hothers j d e hd

theorem store_keyed (hk : ∀ h q, st.liquidPayments h = some q → q.paymentHash = h)
    (p : LiquidPayment) : ∀ h q, (st.store p).liquidPayments h = some q → q.paymentHash = h := by
  intro h q hq
  simp only [ServerState.store_liquidPayments, Function.update_apply] at hq
  split_ifs at hq with e
  · cases hq; exact e.symm
  · exact hk h q hq

theorem store_other {p : LiquidPayment} {h : PaymentHash} (hh : h ≠ p.paymentHash) :
    (st.store p).liquidPayments h = st.liquidPayments h := by
  simp [hh]

/-- A `Pending` entry whose hash call `i` does not initiate is owned by another call. -/
theorem OnceInv.owner_ne (hi : OnceInv used sys) {i : Nat} {c : ServerCall}
    (hc : sys.calls i = some c) {h : PaymentHash} {q : LiquidPayment}
    (hq : sys.state.liquidPayments h = some q) (hp : q.status = .pending)
    (hne : c.initiating ≠ some h) : ∃ j d, j ≠ i ∧ sys.calls j = some d ∧ d.initiating = some h := by
  obtain ⟨j, d, hd, hdh⟩ := hi.pendingOwned h q hq hp
  refine ⟨j, d, fun e => hne ?_, hd, hdh⟩
  subst e
  rw [hc] at hd
  cases hd
  exact hdh

/-- Writing only the entry of the hash call `i` initiates leaves every other call's knowledge. -/
theorem OnceInv.others_of_sole (hi : OnceInv used sys) {i : Nat} {c : ServerCall}
    {k : PaymentHash} (hc : sys.calls i = some c) (hk : c.initiating = some k)
    (hst : ∀ h, h ≠ k → st'.liquidPayments h = sys.state.liquidPayments h) :
    ∀ j d, j ≠ i → sys.calls j = some d → OnceCallInv st' d := fun j d hj hd =>
  (hi.calls j d hd).frame fun _ hk' => hst _ fun e => hj (hi.sole_watcher hc hk hd (e ▸ hk'))

/-- An initiate call's first part: it creates its `Pending` entry, or it is rejected. -/
theorem OnceInv.resume_initiate (hi : OnceInv used sys) {i : Nat} {a : String} {amt : Amount}
    {h : PaymentHash} {ids : List VtxoId} {reply : Except String String}
    (hc : sys.calls i = some (.initiate a amt h ids reply)) :
    let r := (ServerCall.initiate a amt h ids reply).resume cfg sys.state
    OnceInv used ⟨r.2, Function.update sys.calls i (some r.1), sys.arrived⟩ ∧
      ∀ k, EntryStep (sys.state.liquidPayments k) (r.2.liquidPayments k) := by
  have hnone : sys.state.liquidPayments h = none := hi.calls i _ hc
  have hne : ∀ {k}, sys.state.liquidPayments k ≠ none → h ≠ k := fun hk e => hk (e ▸ hnone)
  by_cases hv : InitiateValid cfg ids
  · simp only [ServerCall.resume, ServerCall.block, initiateBegin_of_valid _ hv]
    have hh : h ∈ used := hi.inUsed i _ h hc rfl
    refine ⟨hi.replace hc (.inl rfl) (store_keyed hi.keyed _)
      (fun k hk => store_other fun e => hk (e ▸ hh)) (fun k q hq hp => ?_) (by simp [OnceCallInv])
      (hi.others_of_sole hc rfl fun k hk => store_other hk), fun k => ?_⟩
    · by_cases e : k = h
      · exact .inl (by simp [ServerCall.initiating, e])
      · rw [store_other e] at hq
        exact .inr (hi.owner_ne hc hq hp (by simpa [ServerCall.initiating] using Ne.symm e))
    · by_cases e : k = h
      · subst e; simpa [hnone] using EntryStep.create _ rfl
      · rw [store_other e]; exact .stay _
  · obtain ⟨e, he⟩ := initiateBegin_of_invalid a amt h sys.state hv
    simp only [ServerCall.resume, ServerCall.block, he]
    refine ⟨hi.replace hc (.inr rfl) hi.keyed (fun _ _ => rfl) (fun k q hq hp => .inr ?_) trivial
      (fun j d _ hd => hi.calls j d hd), fun k => .stay _⟩
    exact hi.owner_ne hc hq hp (by simpa [ServerCall.initiating] using hne (by simp [hq]))

/-- An initiate call's second part: the daemon answers and the sidechain records it. -/
theorem OnceInv.resume_sending (hi : OnceInv used sys) {i : Nat} {p : LiquidPayment}
    {reply : Except String String} (hc : sys.calls i = some (.sending p reply)) :
    let r := (ServerCall.sending p reply).resume cfg sys.state
    OnceInv used ⟨r.2, Function.update sys.calls i (some r.1), sys.arrived⟩ ∧
      ∀ k, EntryStep (sys.state.liquidPayments k) (r.2.liquidPayments k) := by
  simp only [ServerCall.resume, ServerCall.block, sendtoaddress_apply,
    ServerState.recordSend_liquidPayments]
  refine ⟨hi.replace hc (.inl rfl) (by simpa using hi.keyed) (by simp) (fun k q hq hp => ?_)
    (by simpa [OnceCallInv] using hi.calls i _ hc)
    (fun j d _ hd => (hi.calls j d hd).frame (by simp)), fun k => .stay _⟩
  obtain ⟨j, d, hd, hdh⟩ := hi.pendingOwned k q (by simpa using hq) hp
  by_cases e : j = i
  · subst e; rw [hc] at hd; cases hd; exact .inl hdh
  · exact .inr ⟨j, d, e, hd, hdh⟩

/-- An initiate call's last part: it records the daemon's answer over its own `Pending` entry. -/
theorem OnceInv.resume_recording (hi : OnceInv used sys) {i : Nat} {p : LiquidPayment}
    {sent : Except String String} (hc : sys.calls i = some (.recording p sent)) :
    let r := (ServerCall.recording p sent).resume cfg sys.state
    OnceInv used ⟨r.2, Function.update sys.calls i (some r.1), sys.arrived⟩ ∧
      ∀ k, EntryStep (sys.state.liquidPayments k) (r.2.liquidPayments k) := by
  obtain ⟨hown, hpend⟩ : sys.state.liquidPayments p.paymentHash = some p ∧ p.status = .pending :=
    hi.calls i _ hc
  have hh : p.paymentHash ∈ used := hi.inUsed i _ _ hc rfl
  obtain ⟨q, hq, hfq, res, hres⟩ : ∃ q : LiquidPayment, q.paymentHash = p.paymentHash ∧
      (q.status = .sent ∨ q.status = .failed) ∧ ∃ res,
        (ServerCall.recording p sent).resume cfg sys.state = (.returned (.ok res), sys.state.store q) := by
    cases sent with
    | error e => exact ⟨{ p with status := .failed }, rfl, .inr rfl, _, rfl⟩
    | ok txid => exact ⟨{ p with status := .sent, liquidTxid := some txid }, rfl, .inl rfl, _, rfl⟩
  simp only [hres]
  refine ⟨hi.replace hc (.inr rfl) (store_keyed hi.keyed _)
    (fun k hk => store_other fun e => hk (e ▸ hq ▸ hh)) (fun k q' hq' hp' => .inr ?_) trivial
    (hi.others_of_sole hc rfl fun k hk => store_other (hq ▸ hk)), fun k => ?_⟩
  · by_cases e : k = p.paymentHash
    · subst e; simp [← hq] at hq'; subst hq'; rcases hfq with h | h <;> simp [h] at hp'
    · rw [store_other (hq ▸ e)] at hq'
      exact hi.owner_ne hc hq' hp' (by simpa [ServerCall.initiating] using Ne.symm e)
  · by_cases e : k = p.paymentHash
    · subst e
      rw [hown, ServerState.store_liquidPayments, ← hq, Function.update_same]
      exact .record p q hpend hfq
    · rw [store_other (hq ▸ e)]; exact .stay _

/-- A part that leaves the state alone and moves call `i` to a stage initiating nothing. -/
theorem OnceInv.replace_read (hi : OnceInv used sys) {i : Nat} {c c' : ServerCall}
    (hc : sys.calls i = some c) (hci : c.initiating = none) (hc' : c'.initiating = none)
    (hcall : OnceCallInv sys.state c') :
    OnceInv used ⟨sys.state, Function.update sys.calls i (some c'), sys.arrived⟩ ∧
      ∀ k, EntryStep (sys.state.liquidPayments k) (sys.state.liquidPayments k) :=
  ⟨hi.replace hc (.inl (hc'.trans hci.symm)) hi.keyed (fun _ _ => rfl)
    (fun _ _ hq hp => .inr (hi.owner_ne hc hq hp (by simp [hci]))) hcall
    (fun j d _ hd => hi.calls j d hd), fun _ => .stay _⟩

/-- A check's first part reads; a `Sent` entry becomes its snapshot. -/
theorem OnceInv.resume_check (hi : OnceInv used sys) {i : Nat} {h : PaymentHash}
    {reply : Except String (Option Nat)} (hc : sys.calls i = some (.check h reply)) :
    let r := (ServerCall.check h reply).resume cfg sys.state
    OnceInv used ⟨r.2, Function.update sys.calls i (some r.1), sys.arrived⟩ ∧
      ∀ k, EntryStep (sys.state.liquidPayments k) (r.2.liquidPayments k) := by
  simp only [ServerCall.resume, ServerCall.block, checkBegin_apply]
  cases hq : sys.state.liquidPayments h with
  | none => exact hi.replace_read hc rfl rfl trivial
  | some q =>
    dsimp only
    cases hcp : checkPaymentStatus cfg h q with
    | answer r => exact hi.replace_read hc rfl rfl trivial
    | gettransaction q' txid =>
      obtain ⟨-, hs, -, rfl⟩ := checkPaymentStatus_eq_gettransaction.1 hcp
      exact hi.replace_read hc rfl rfl ⟨hs, hi.keyed h _ hq, .inl hq⟩

/-- A check's last part: it may write its snapshot back as `Confirmed`, and every other check
    waiting on that entry holds the same snapshot. -/
theorem OnceInv.resume_querying (hi : OnceInv used sys) {i : Nat} {h : PaymentHash}
    {p : LiquidPayment} {reply : Except String (Option Nat)}
    (hc : sys.calls i = some (.querying h p reply)) :
    let r := (ServerCall.querying h p reply).resume cfg sys.state
    OnceInv used ⟨r.2, Function.update sys.calls i (some r.1), sys.arrived⟩ ∧
      ∀ k, EntryStep (sys.state.liquidPayments k) (r.2.liquidPayments k) := by
  have hq := hi.calls i _ hc
  obtain ⟨hsent, rfl, hcur⟩ := hq
  obtain ⟨r, -, he | he⟩ := checkEnd_cases p.paymentHash p reply sys.state <;>
    simp only [ServerCall.resume, ServerCall.block, he]
  · exact hi.replace_read hc rfl rfl trivial
  have hused : p.paymentHash ∈ used := by
    by_contra hn; rcases hcur with e | e <;> simp [hi.unused _ hn] at e
  have hwrite : ∀ k, k ≠ p.paymentHash →
      (sys.state.store { p with status := .confirmed }).liquidPayments k =
        sys.state.liquidPayments k := fun k hk => store_other hk
  refine ⟨hi.replace hc (.inl rfl) (store_keyed hi.keyed _)
    (fun k hk => hwrite k fun e => hk (e ▸ hused)) (fun k q hq hp => .inr ?_) trivial
    (fun j d hj hd => ?_), fun k => ?_⟩
  · by_cases e : k = p.paymentHash
    · subst e; simp at hq; subst hq; simp at hp
    · rw [hwrite k e] at hq; exact hi.owner_ne hc hq hp (by simp [ServerCall.initiating])
  · by_cases hw : d.watched = some p.paymentHash
    · cases d with
      | querying h' p' r' =>
        obtain rfl : h' = p.paymentHash := by simpa [ServerCall.watched] using hw
        obtain rfl := (hi.calls i _ hc).querying_eq (hi.calls j _ hd)
        exact ⟨hsent, rfl, .inr (by simp)⟩
      | check => simp [ServerCall.watched, ServerCall.initiating] at hw
      | returned => simp [ServerCall.watched, ServerCall.initiating] at hw
      | _ =>
        exfalso
        rcases hcur with e | e <;>
          have := (hi.calls j _ hd).initiating_entry hw e <;> simp_all
    · exact (hi.calls j d hd).frame fun k hk => hwrite k fun e => hw (e ▸ hk)
  · by_cases e : k = p.paymentHash
    · subst e
      rcases hcur with e | e <;> rw [e] <;> simp only [ServerState.store_liquidPayments,
        Function.update_same]
      · exact .confirm p hsent
      · exact .stay _
    · rw [hwrite k e]; exact .stay _

/-- **Step lemma.** Every step of a run with one initiate call per hash keeps the invariant and
    moves each entry by an `EntryStep`. -/
theorem OnceInv.step (hi : OnceInv used sys) (a : ServerAction)
    (ha : ∀ h ∈ a.initiateHash, h ∉ used) :
    OnceInv (a.initiateHash.toList ++ used) (sys.step cfg a) ∧
      ∀ k, EntryStep (sys.state.liquidPayments k) ((sys.step cfg a).state.liquidPayments k) := by
  cases a with
  | initiate a amt h ids r =>
    exact ⟨hi.arrive (.initiate a amt h ids r) (hi.unused h (ha h rfl))
      (fun _ e => by cases e; exact ha h rfl), fun _ => .stay _⟩
  | check h r => exact ⟨hi.arrive (.check h r) trivial (fun _ e => by cases e), fun _ => .stay _⟩
  | resume i =>
    simp only [ServerAction.initiateHash, Option.toList_none, List.nil_append, ServerSys.step]
    cases hc : sys.calls i with
    | none => exact ⟨hi, fun _ => .stay _⟩
    | some c =>
      cases c with
      | initiate => exact hi.resume_initiate hc
      | sending => exact hi.resume_sending hc
      | recording => exact hi.resume_recording hc
      | check => exact hi.resume_check hc
      | querying => exact hi.resume_querying hc
      | returned r =>
        exact ⟨hi.replace hc (.inl rfl) hi.keyed (fun _ _ => rfl)
          (fun _ _ hq hp => .inr (hi.owner_ne hc hq hp (by simp [ServerCall.initiating])))
          trivial (fun j d _ hd => hi.calls j d hd), fun _ => .stay _⟩

theorem OnceInv.of_reachable (h : ReachableOnce cfg used sys) : OnceInv used sys := by
  induction h with
  | init => constructor <;> simp [ServerSys.init, ServerState.init]
  | step a _ ha ih => exact (ih.step a ha).1

end Step

/-- **The status order holds in runs with one initiate call per hash.** From every state such a
    run reaches, each next step of it (any call arriving, any call resuming with any daemon
    reply) moves the status stored under every hash along the spec's order, and leaves a
    `Confirmed` or `Failed` entry exactly as it is. -/
theorem status_follows_order {cfg : ServerConfig} {used : List PaymentHash} {sys : ServerSys}
    (hr : ReachableOnce cfg used sys) (a : ServerAction) (ha : ∀ h ∈ a.initiateHash, h ∉ used)
    (h : PaymentHash) :
    StatusStep (sys.status h) ((sys.step cfg a).status h) ∧
    ∀ q, sys.state.liquidPayments h = some q → (q.status = .confirmed ∨ q.status = .failed) →
      (sys.step cfg a).state.liquidPayments h = some q := by
  have hs : EntryStep _ ((sys.step cfg a).state.liquidPayments h) :=
    ((OnceInv.of_reachable hr).step a ha).2 h
  exact ⟨hs.status, fun q hq ht => (hq ▸ hs).terminal ht⟩

/-- A call sends for hash `7`, then a check reads the `Sent` entry and waits on
    `gettransaction`, which finds the transaction. -/
def sentThenChecked : List ServerAction :=
  [.initiate "addr" 100000 7 [1] (.ok "tx1"), .resume 0, .resume 0, .resume 0,
   .check 7 (.ok (some 1)), .resume 1]

theorem sentThenChecked_reachable :
    ReachableOnce demoConfig [7] (ServerSys.init.run demoConfig sentThenChecked) :=
  (ReachableOnce.init.step (.initiate "addr" 100000 7 [1] (.ok "tx1")) (by simp)).run_of_no_initiate
    _ (by simp [ServerAction.initiateHash])

theorem status_order_confirm_step :
    (StatusStep ((ServerSys.init.run demoConfig sentThenChecked).status 7)
      (((ServerSys.init.run demoConfig sentThenChecked).step demoConfig (.resume 1)).status 7) ∧
    ∀ q, (ServerSys.init.run demoConfig sentThenChecked).state.liquidPayments 7 = some q →
      (q.status = .confirmed ∨ q.status = .failed) →
      ((ServerSys.init.run demoConfig sentThenChecked).step demoConfig
        (.resume 1)).state.liquidPayments 7 = some q) ∧
    (ServerSys.init.run demoConfig sentThenChecked).status 7 = some .sent ∧
    ((ServerSys.init.run demoConfig sentThenChecked).step demoConfig (.resume 1)).status 7 =
      some .confirmed :=
  ⟨status_follows_order sentThenChecked_reachable (.resume 1)
    (by simp [ServerAction.initiateHash]) 7, by decide⟩

/-- A failed call for hash `7`, then a second call for it that records `Pending`. -/
def secondInitiate : List ServerAction :=
  [.initiate "addr" 100000 7 [1] (.error "insufficient funds"), .resume 0, .resume 0, .resume 0,
   .initiate "addr" 100000 7 [1] (.ok "tx")]

/-- A call sends, a check reads `Sent` and waits on `gettransaction`, a second call's send fails,
    then the check writes its snapshot back. -/
def staleCheck : List ServerAction :=
  sentThenChecked ++
    [.initiate "addr" 100000 7 [1] (.error "insufficient funds"), .resume 2, .resume 2, .resume 2]

/-- **A `Failed` entry changes again**: a second initiate call resets it to `Pending`, and a check
    holding a stale `Sent` snapshot turns it into `Confirmed`. -/
theorem failed_entry_changes :
    ((ServerSys.init.run demoConfig secondInitiate).status 7 = some .failed ∧
      (ServerSys.init.run demoConfig (secondInitiate ++ [.resume 1])).status 7 = some .pending) ∧
    ((ServerSys.init.run demoConfig staleCheck).status 7 = some .failed ∧
      (ServerSys.init.run demoConfig (staleCheck ++ [.resume 1])).status 7 = some .confirmed) := by
  decide

end BarkLiquid.Server
