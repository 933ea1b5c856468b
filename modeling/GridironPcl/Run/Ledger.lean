import GridironPcl.Run.Storage

namespace GridironPcl.Run.Ledger

open GridironPcl.Decimal GridironPcl.Assets GridironPcl.State GridironPcl.Deps GridironPcl.Utils
open GridironPcl.Cw20 GridironPcl.Contract.Instantiate GridironPcl.Contract.Provide
open GridironPcl.Contract.Withdraw GridironPcl.Contract.Swap GridironPcl.Contract.Execute
open GridironPcl.System GridironPcl.Run.Storage

variable {L : Lib} (pair token : Addr)

def pairIn : Msg → Nat
  | .cw20Mint t r a | .cw20Transfer t r a | .cw20Send t r a => if t = token ∧ r = pair then a else 0
  | _ => 0

def pairOut : Msg → Nat
  | .cw20Transfer t _ a | .cw20Send t _ a | .cw20Burn t a => if t = token then a else 0
  | _ => 0

def minted : Msg → Nat
  | .cw20Mint t _ a => if t = token then a else 0
  | _ => 0

def burned : Msg → Nat
  | .cw20Burn t a => if t = token then a else 0
  | _ => 0

variable {pair token}

def total (f : Msg → Nat) : List Msg → Nat
  | [] => 0
  | m :: msgs => f m + total f msgs

@[simp] theorem total_nil (f : Msg → Nat) : total f [] = 0 := rfl

@[simp] theorem total_cons (f : Msg → Nat) (m : Msg) (msgs : List Msg) :
    total f (m :: msgs) = f m + total f msgs := rfl

@[simp] theorem total_append (f : Msg → Nat) (a b : List Msg) :
    total f (a ++ b) = total f a + total f b := by
  induction a with
  | nil => simp
  | cons m a ih => simp [ih, Nat.add_assoc]

theorem total_eq_zero {f : Msg → Nat} {msgs : List Msg} (h : ∀ m ∈ msgs, f m = 0) :
    total f msgs = 0 := by
  induction msgs with
  | nil => rfl
  | cons m msgs ih =>
      simp [h m (.head _), ih fun m hm => h m (.tail _ hm)]

theorem le_total_of_mem {f : Msg → Nat} {m : Msg} :
    ∀ {msgs : List Msg}, m ∈ msgs → f m ≤ total f msgs
  | _ :: _, .head _ => Nat.le_add_right _ _
  | _ :: _, .tail _ h => le_trans (le_total_of_mem h) (Nat.le_add_left _ _)

theorem execMsg_flow {w w' : World} {m : Msg} (h : execMsg L pair token w m = some w') :
    balanceOf w'.ledger pair + pairOut token m = balanceOf w.ledger pair + pairIn pair token m ∧
      supply w'.ledger + burned token m = supply w.ledger + minted token m := by
  cases m with
  | cw20Transfer t r a =>
      simp only [execMsg] at h
      split_ifs at h with ht
      · obtain ⟨-, l, hl, rfl⟩ := lpExec_eq_some h
        obtain ⟨-, -, hs, hb⟩ := transfer_eq_some hl
        have := hb pair
        by_cases hr : pair = r <;> simp_all [pairOut, pairIn, burned, minted, eq_comm]
      · cases h
        simp [pairOut, pairIn, burned, minted, ht]
  | cw20Send t r a =>
      simp only [execMsg] at h
      split_ifs at h with ht
      · obtain ⟨-, l, hl, rfl⟩ := lpExec_eq_some h
        obtain ⟨-, -, hs, hb⟩ := transfer_eq_some hl
        have := hb pair
        by_cases hr : pair = r <;> simp_all [pairOut, pairIn, burned, minted, eq_comm]
  | cw20Mint t r a =>
      simp only [execMsg] at h
      split_ifs at h with ht
      · obtain ⟨-, l, hl, rfl⟩ := lpExec_eq_some h
        obtain ⟨-, hs, hb⟩ := mint_eq_some hl
        have := hb pair
        by_cases hr : pair = r <;> simp_all [pairOut, pairIn, burned, minted, eq_comm]
  | cw20Burn t a =>
      simp only [execMsg] at h
      split_ifs at h with ht
      · obtain ⟨-, l, hl, rfl⟩ := lpExec_eq_some h
        obtain ⟨-, -, hs, hb⟩ := burn_eq_some hl
        have := hb pair
        simp_all [pairOut, pairIn, burned, minted]
  | _ =>
      simp only [execMsg] at h
      (try split_ifs at h) <;> cases h <;> simp [pairOut, pairIn, burned, minted]

theorem execMsgs_flow {msgs : List Msg} :
    ∀ {w w' : World}, execMsgs L pair token w msgs = some w' →
      balanceOf w'.ledger pair + total (pairOut token) msgs =
          balanceOf w.ledger pair + total (pairIn pair token) msgs ∧
        supply w'.ledger + total (burned token) msgs = supply w.ledger + total (minted token) msgs := by
  induction msgs with
  | nil =>
      intro w w' h
      cases h
      simp
  | cons m msgs ih =>
      intro w w' h
      simp only [execMsgs, List.foldlM_cons] at h
      obtain ⟨w₁, h₁, h⟩ := Option.bind_eq_some.1 h
      obtain ⟨hb, hs⟩ := ih h
      obtain ⟨hb₁, hs₁⟩ := execMsg_flow h₁
      simp only [total_cons]
      omega

variable (pair token) in
def LpFree (m : Msg) : Prop :=
  pairIn pair token m = 0 ∧ pairOut token m = 0 ∧ minted token m = 0 ∧ burned token m = 0

theorem lpFree_bankSend (recipient : Addr) (coin : Coin) :
    LpFree pair token (.bankSend recipient coin) := ⟨rfl, rfl, rfl, rfl⟩

theorem lpFree_intoMsg {a : Asset} {denom : String} (h : a.info = .nativeToken denom)
    (recipient : Addr) : LpFree pair token (Asset.intoMsg a recipient) := by
  simp only [Asset.intoMsg, h]
  exact lpFree_bankSend _ _

theorem lpFree_leaveOrderbook (ob : OrderbookState) (balances : List Asset) :
    ∀ m ∈ (Orderbook.leaveOrderbook ob balances).messages, LpFree pair token m := by
  simp only [Orderbook.leaveOrderbook, List.mem_cons, List.mem_map]
  rintro m (rfl | ⟨_, -, rfl⟩) <;> exact ⟨rfl, rfl, rfl, rfl⟩

theorem lpFree_makerFees (makerFees : List (Addr × Coin)) :
    ∀ m ∈ makerFees.map (fun (recipient, coin) => Msg.bankSend recipient coin),
      LpFree pair token m := by
  simp only [List.mem_map]
  rintro m ⟨_, -, rfl⟩
  exact lpFree_bankSend _ _

theorem total_lpFree {msgs : List Msg} (h : ∀ m ∈ msgs, LpFree pair token m) :
    total (pairIn pair token) msgs = 0 ∧ total (pairOut token) msgs = 0 ∧
      total (minted token) msgs = 0 ∧ total (burned token) msgs = 0 :=
  ⟨total_eq_zero fun m hm => (h m hm).1, total_eq_zero fun m hm => (h m hm).2.1,
    total_eq_zero fun m hm => (h m hm).2.2.1, total_eq_zero fun m hm => (h m hm).2.2.2⟩

theorem provideMsgs_flow {q : Querier} {config : Config} {env : Env} {lock : Bool}
    {recipient : Addr} {share : Nat} {autoStake : Bool} {lockMsgs mintMsgs : List Msg}
    (hcontract : env.contract = pair)
    (hlock : lockMinimumMessage L q config env lock = .ok lockMsgs)
    (hmint : mintLiquidityTokenMessage q config env.contract recipient share autoStake =
      .ok mintMsgs) :
    (if lock ∧ config.pairInfo.liquidityToken = token then L.minimumLiquidityAmount else 0) +
        total (pairOut token) (lockMsgs ++ mintMsgs) ≤
        total (pairIn pair token) (lockMsgs ++ mintMsgs) ∧
      total (burned token) (lockMsgs ++ mintMsgs) = 0 ∧
      (0 < total (minted token) (lockMsgs ++ mintMsgs) → config.pairInfo.liquidityToken = token) := by
  rw [lockMinimumMessage_eq_ok L hlock]
  rcases mintLiquidityTokenMessage_eq_ok hmint with rfl | ⟨g, rfl⟩ <;> cases lock <;>
    by_cases ht : config.pairInfo.liquidityToken = token <;>
    simp [pairIn, pairOut, minted, burned, ht, hcontract]

variable (L pair token) in
/-- The flows of a response that burns nothing: it takes from the pair no more than it credits
it, and when it mints into an empty pool it credits the pair the minimum beyond that. -/
def LocksMinimum (q : Querier) (msgs : List Msg) : Prop :=
  total (burned token) msgs = 0 ∧ total (pairOut token) msgs ≤ total (pairIn pair token) msgs ∧
    (0 < total (minted token) msgs → ∃ sup, q.supply token = .ok sup ∧
      (sup = 0 → L.minimumLiquidityAmount + total (pairOut token) msgs ≤
        total (pairIn pair token) msgs))

theorem locksMinimum_of_lpFree {q : Querier} {msgs : List Msg}
    (h : ∀ m ∈ msgs, LpFree pair token m) : LocksMinimum L pair token q msgs := by
  obtain ⟨hi, ho, hm, hb⟩ := total_lpFree h
  exact ⟨hb, by rw [hi, ho], fun hpos => absurd hm (Nat.pos_iff_ne_zero.1 hpos)⟩

theorem provideLiquidity_flow {q : Querier} {env : Env} {s s' : Storage} {info : MessageInfo}
    {assets : List Asset} {slippageTolerance : Option Decimal256} {autoStake : Option Bool}
    {receiver : Option String} {r : Response} (hcontract : env.contract = pair)
    (h : provideLiquidity L q env s info assets slippageTolerance autoStake receiver = .ok (s', r)) :
    LocksMinimum L pair token q r.messages := by
  obtain ⟨config, _, _, out, _, _, _, -, -, hout, hlock, hmint, -, hr⟩ := provideLiquidity_eq_ok L h
  obtain ⟨sup, hsup, hlm, -⟩ := provideCompute_spec L hout
  obtain ⟨hflow, hburn, hmint'⟩ := provideMsgs_flow hcontract hlock hmint
  obtain ⟨i₀, o₀, m₀, b₀⟩ := total_lpFree (@lpFree_makerFees pair token out.makerFees)
  rw [hr, List.append_assoc]
  simp only [LocksMinimum, total_append, i₀, o₀, m₀, b₀, Nat.zero_add] at hflow hburn hmint' ⊢
  refine ⟨hburn, le_trans (Nat.le_add_left _ _) hflow, fun hpos => ?_⟩
  have ht : config.pairInfo.liquidityToken = token := hmint' hpos
  refine ⟨sup, ht ▸ hsup, fun h0 => ?_⟩
  have hlock : out.lockMinimum = true := by
    rw [hlm, h0]
    exact (Decimal256.isZero_withPrecision (by decide)).2 rfl
  simpa [hlock, ht] using hflow

theorem withdrawLiquidity_flow {q : Querier} {env : Env} {s s' : Storage} {info : MessageInfo}
    {sender : Addr} {amount : Nat} {assets : List Asset} {r : Response} (hinv : AssetsNative s)
    (h : withdrawLiquidity L q env s info sender amount assets = .ok (s', r)) :
    total (pairIn pair token) r.messages = 0 ∧ total (minted token) r.messages = 0 ∧
      total (pairOut token) r.messages = (if info.sender = token then amount else 0) ∧
      total (burned token) r.messages = (if info.sender = token then amount else 0) := by
  obtain ⟨config, ob, pools, _, _, leave, _, _, refunds, hc, hsender, -, hp, -, -, -, -, -, -, hr,
    -, hmsgs⟩ := withdrawLiquidity_eq_ok L h
  obtain ⟨_, base, quote, -, -, hnative⟩ := hinv config hc
  have hleave : ∀ m ∈ (if leave then (Orderbook.leaveOrderbook ob (Orderbook.getSubaccountBalances
      config.pairInfo.assetInfos q ob.subaccount)).messages else []), LpFree pair token m := by
    split
    · exact lpFree_leaveOrderbook _ _
    · intro m hm; cases hm
  have hrefunds : ∀ m ∈ refunds.map (Asset.intoMsg · sender), LpFree pair token m := by
    intro m hm
    obtain ⟨a, ha, rfl⟩ := List.mem_map.1 hm
    have hinfo : a.info ∈ config.pairInfo.assetInfos := by
      rw [← queryPools_infos hp, ← getShareInAssets_infos pools (amount - 1), ←
        refundsToUint_infos hr]
      exact List.mem_map_of_mem _ ha
    rw [hnative] at hinfo
    rcases List.mem_pair.1 hinfo with h | h <;> exact lpFree_intoMsg h _
  obtain ⟨i₀, o₀, m₀, b₀⟩ := total_lpFree hleave
  obtain ⟨i₁, o₁, m₁, b₁⟩ := total_lpFree hrefunds
  rw [hmsgs]
  simp [i₀, o₀, m₀, b₀, i₁, o₁, m₁, b₁, pairIn, pairOut, minted, burned, hsender]

theorem swap_lpFree {q : Querier} {env : Env} {s s' : Storage} {sender : Addr} {offerAsset : Asset}
    {beliefPrice maxSpread : Option Decimal256} {recipient : Option Addr} {r : Response}
    (hinv : AssetsNative s)
    (h : swap L q env s sender offerAsset beliefPrice maxSpread recipient = .ok (s', r)) :
    ∀ m ∈ r.messages, LpFree pair token m := by
  obtain ⟨out, _, _, hout, -, -, -, hr⟩ := swap_eq_ok L h
  obtain ⟨config, _, hc, -, -, askInfo, hask, hmsgs⟩ := swapCompute_spec L hout
  obtain ⟨_, base, quote, -, -, hnative⟩ := hinv config hc
  rw [hnative] at hask
  intro m hm
  rw [hr] at hm
  rcases List.mem_append.1 hm with hm | hm
  · exact lpFree_makerFees _ m hm
  · obtain ⟨_, _, rfl⟩ := hmsgs m hm
    rcases List.mem_pair.1 hask with h | h <;> exact lpFree_intoMsg h _

theorem orderbookEmergencyWithdraw_lpFree {q : Querier} {env : Env} {s s' : Storage}
    {r : Response} (h : orderbookEmergencyWithdraw L q env s = .ok (s', r)) :
    ∀ m ∈ r.messages, LpFree pair token m := by
  obtain ⟨ob, _, fees, _, _, b0, b1, -, -, -, -, -, -, -, hr⟩ := orderbookEmergencyWithdraw_eq_ok L h
  intro m hm
  rw [hr] at hm
  rcases List.mem_append.1 hm with hm | hm
  · split at hm
    · exact lpFree_leaveOrderbook _ _ m hm
    · cases hm
  · exact lpFree_makerFees _ m hm

variable (token) in
theorem execute_flow {q : Querier} {env : Env} {s s' : Storage} {info : MessageInfo}
    {msg : ExecuteMsg} {r : Response} (hinv : AssetsNative s) (hcontract : env.contract = pair)
    (h : execute L q env s info msg = .ok (s', r)) :
    (∃ cw20Msg, msg = .receive cw20Msg ∧ total (pairIn pair token) r.messages = 0 ∧
        total (minted token) r.messages = 0 ∧
        total (pairOut token) r.messages = (if info.sender = token then cw20Msg.amount else 0) ∧
        total (burned token) r.messages = (if info.sender = token then cw20Msg.amount else 0)) ∨
      LocksMinimum L pair token q r.messages := by
  unfold execute at h
  simp only [bind_eq_ok, Storage.loadConfig_eq_ok] at h
  obtain ⟨config, hc, h⟩ := h
  cases msg with
  | receive cw20Msg =>
      dsimp only [receiveCw20] at h
      split at h
      · exact .inl ⟨cw20Msg, rfl, withdrawLiquidity_flow hinv h⟩
      · simp at h
      · simp at h
  | provideLiquidity => exact .inr (provideLiquidity_flow hcontract h)
  | swap =>
      obtain ⟨_, h⟩ := executeSwap_eq_ok L h
      exact .inr (locksMinimum_of_lpFree (swap_lpFree hinv h))
  | updateConfig =>
      obtain ⟨_, _, _, _, _, _, -, -, -, -, -, -, hr⟩ := updateConfig_eq_ok L h
      exact .inr (locksMinimum_of_lpFree (by simp [hr]))
  | proposeNewOwner | dropOwnershipProposal | claimOwnership =>
      simp only [bind_eq_ok, liftStd_eq_ok, pure_eq_ok, Except.ok.injEq, Prod.mk.injEq,
        Storage.loadConfig_eq_ok] at h
      obtain ⟨_, -, _, -, -, rfl⟩ := h
      exact .inr (locksMinimum_of_lpFree (by simp))
  | withdrawFromOrderbook =>
      exact .inr (locksMinimum_of_lpFree (orderbookEmergencyWithdraw_lpFree h))
  | updateMarketTicks =>
      obtain ⟨_, _, -, -, -, hr⟩ := updateMarketTicks_eq_ok h
      exact .inr (locksMinimum_of_lpFree (by simp [hr]))

theorem querier_supply {w : World} {x : External} {addr : Addr} {sup : Nat}
    (h : (w.querier L pair token x).supply addr = .ok sup) : addr = token ∧ sup = supply w.ledger := by
  simp only [World.querier] at h
  split_ifs at h with ha
  exact ⟨ha.1, (Except.ok.inj h).symm⟩

variable (L pair) in
/-- What one step may do to the LP ledger, seen from the pair: its balance never falls, and a step
that raises the supply from zero leaves the pair holding at least `MINIMUM_LIQUIDITY_AMOUNT`. -/
def LedgerStep (l l' : Ledger) : Prop :=
  balanceOf l pair ≤ balanceOf l' pair ∧
    (supply l = 0 → 0 < supply l' → L.minimumLiquidityAmount ≤ balanceOf l' pair)

theorem ledgerStep_of_lpFree {w w' : World} {msgs : List Msg}
    (h : execMsgs L pair token w msgs = some w') (hfree : ∀ m ∈ msgs, LpFree pair token m) :
    LedgerStep L pair w.ledger w'.ledger := by
  obtain ⟨hb, hs⟩ := execMsgs_flow h
  obtain ⟨hi, ho, hm, hbu⟩ := total_lpFree hfree
  rw [hi, ho] at hb
  rw [hm, hbu] at hs
  exact ⟨by omega, by omega⟩

theorem ledgerStep_execute {w₀ w₁ w' : World} {x : External} {msgs : List Msg}
    (h : execMsgs L pair token w₁ msgs = some w')
    (hflow : LocksMinimum L pair token (w₀.querier L pair token x) msgs)
    (hl : w₁.ledger = w₀.ledger) :
    LedgerStep L pair w₀.ledger w'.ledger := by
  obtain ⟨hb, hs⟩ := execMsgs_flow h
  obtain ⟨hburn, hle, hlock⟩ := hflow
  rw [hl] at hb hs
  refine ⟨by omega, fun h0 hpos => ?_⟩
  obtain ⟨sup, hsup, hmin⟩ := hlock (by omega)
  have := hmin (by rw [(querier_supply hsup).2, h0])
  omega

theorem step_ledger {w w' : World} {e : Event} (hinv : AssetsNative w.store)
    (h : step L pair token w e = some w') : LedgerStep L pair w.ledger w'.ledger := by
  cases e with
  | instantiate x time msg =>
      simp only [step] at h
      split_ifs at h
      obtain ⟨r, hr, -, hexec⟩ := commit_eq_some h
      obtain ⟨_, _, _, _, -, -, -, -, -, -, -, _, hmsgs⟩ := instantiate_eq_ok L hr
      rw [hmsgs] at hexec
      have := ledgerStep_of_lpFree hexec (by simp [LpFree, pairIn, pairOut, minted, burned])
      exact this
  | reply msg =>
      obtain ⟨r, hr, -, hexec⟩ := commit_eq_some h
      obtain ⟨_, _, _, _, -, -, -, -, -, -, hmsgs⟩ := reply_eq_ok L hr
      rw [hmsgs] at hexec
      have := ledgerStep_of_lpFree hexec (by simp)
      exact this
  | execute x time info msg =>
      simp only [step] at h
      split_ifs at h with hs <;>
      · obtain ⟨w₁, h₁, rfl⟩ := Option.map_eq_some'.1 h
        obtain ⟨r, hr, -, hexec⟩ := commit_eq_some h₁
        rcases execute_flow token hinv rfl hr with ⟨_, -, hi, hm, ho, hb⟩ | hflow
        · rw [if_neg hs.1] at ho hb
          obtain ⟨hbal, hsup⟩ := execMsgs_flow hexec
          exact ⟨by simp_all, by simp_all⟩
        · have := ledgerStep_execute hexec hflow rfl
          exact this
  | lpTransfer owner recipient amount =>
      simp only [step] at h
      split_ifs at h with ho
      obtain ⟨-, l, hl, rfl⟩ := lpExec_eq_some h
      obtain ⟨-, -, hs, hb⟩ := transfer_eq_some hl
      have := hb pair
      rw [if_neg (Ne.symm ho)] at this
      dsimp only [LedgerStep]
      exact ⟨by omega, fun _ _ => by omega⟩
  | lpBurn owner amount =>
      simp only [step] at h
      split_ifs at h with ho
      obtain ⟨-, l, hl, rfl⟩ := lpExec_eq_some h
      obtain ⟨-, -, hs, hb⟩ := burn_eq_some hl
      have := hb pair
      rw [if_neg (Ne.symm ho)] at this
      dsimp only [LedgerStep]
      exact ⟨by omega, fun _ _ => by omega⟩
  | lpSend x time owner amount hook =>
      simp only [step] at h
      split_ifs at h with ho
      obtain ⟨w₁, h₁, h⟩ := Option.bind_eq_some.1 h
      obtain ⟨-, l, hl, rfl⟩ := lpExec_eq_some h₁
      obtain ⟨hne, -, hs₁, hb₁⟩ := transfer_eq_some hl
      have h₁ := hb₁ pair
      rw [if_neg (Ne.symm ho), if_pos rfl] at h₁
      obtain ⟨r, hr, -, hexec⟩ := commit_eq_some h
      rcases execute_flow token hinv rfl hr with ⟨_, hmsg, hi, hm, ho', hb'⟩ | hflow
      · obtain rfl := ExecuteMsg.receive.inj hmsg
        rw [if_pos rfl] at ho' hb'
        obtain ⟨hbal, hsup⟩ := execMsgs_flow hexec
        rw [hi, ho'] at hbal
        rw [hm, hb'] at hsup
        dsimp only [LedgerStep] at hbal hsup h₁ ⊢
        exact ⟨by omega, fun _ _ => by omega⟩
      · have := ledgerStep_execute hexec hflow rfl
        dsimp only [LedgerStep] at this ⊢
        exact ⟨by omega, fun _ hpos => this.2 (by omega) hpos⟩
  | fill denom delta =>
      simp only [step] at h
      split_ifs at h
      cases h
      exact ⟨le_refl _, fun h0 hpos => absurd h0 (Nat.pos_iff_ne_zero.1 hpos)⟩
  | beginBlocker x time moved =>
      simp only [step, beginBlocker, Option.bind_eq_bind, Option.bind_eq_some, Option.pure_def,
        Option.some.injEq] at h
      obtain ⟨ob, -, _, -, w₁, h₁, w₂, h₂, rfl⟩ := h
      have hl : w₂.ledger = w₁.ledger :=
        foldlM_keeps (·.ledger) (fun _ _ _ _ h => (deposit_frame h).2.1) h₂
      have := ledgerStep_of_lpFree h₁ (lpFree_makerFees _)
      rw [← hl] at this
      exact this
  | donate coin =>
      cases h
      exact ⟨le_refl _, fun h0 hpos => absurd h0 (Nat.pos_iff_ne_zero.1 hpos)⟩

theorem provideLiquidity_minted {w : World} {x : External} {env : Env} {s s' : Storage}
    {info : MessageInfo} {assets : List Asset} {slippageTolerance : Option Decimal256}
    {autoStake : Option Bool} {receiver : Option String} {r : Response}
    (h : provideLiquidity L (w.querier L pair token x) env s info assets slippageTolerance autoStake
      receiver = .ok (s', r)) (h0 : supply w.ledger = 0) :
    L.minimumLiquidityAmount ≤ total (minted token) r.messages := by
  obtain ⟨config, _, _, out, _, _, _, -, -, hout, hlock, -, -, hr⟩ := provideLiquidity_eq_ok L h
  obtain ⟨sup, hsup, hlm, -⟩ := provideCompute_spec L hout
  obtain ⟨ht, rfl⟩ := querier_supply hsup
  have hlock' : out.lockMinimum = true := by
    rw [hlm, h0]
    exact (Decimal256.isZero_withPrecision (by decide)).2 rfl
  rw [hr, lockMinimumMessage_eq_ok L hlock, hlock']
  simp only [if_true, total_append, total_cons, total_nil, minted, ht]
  omega

variable (L pair) in
/-- The lock of the first provide: while any LP token exists, the pair holds at least
`MINIMUM_LIQUIDITY_AMOUNT` of them. -/
def MinimumLocked (l : Ledger) : Prop :=
  0 < supply l → L.minimumLiquidityAmount ≤ balanceOf l pair

theorem minimumLocked_of_ledgerStep {l l' : Ledger} (hl : MinimumLocked L pair l)
    (h : LedgerStep L pair l l') : MinimumLocked L pair l' := by
  intro hpos
  rcases Nat.eq_zero_or_pos (supply l) with h0 | hpos₀
  · exact h.2 h0 hpos
  · exact le_trans (hl hpos₀) h.1

theorem supply_pos_of_ledgerStep {l l' : Ledger} (hl : MinimumLocked L pair l)
    (h : LedgerStep L pair l l') (hpos : 0 < supply l) : 0 < supply l' :=
  calc 0 < L.minimumLiquidityAmount := L.minimumLiquidityAmount_pos
    _ ≤ balanceOf l pair := hl hpos
    _ ≤ balanceOf l' pair := h.1
    _ ≤ supply l' := balanceOf_le_supply l' pair

theorem reachable_minimumLocked {w : World} (hw : Reachable L pair token w) :
    MinimumLocked L pair w.ledger := by
  induction hw with
  | init => exact fun h => absurd h (Nat.lt_irrefl 0)
  | step e hw hs ih => exact minimumLocked_of_ledgerStep ih (step_ledger (reachable_assetsNative hw) hs)

theorem run_balance_le {w w' : World} (hw : Reachable L pair token w) (h : Run L pair token w w') :
    balanceOf w.ledger pair ≤ balanceOf w'.ledger pair := by
  induction h with
  | refl => exact le_refl _
  | step e hrun hs ih =>
      exact le_trans ih (step_ledger (reachable_assetsNative (reachable_of_run hw hrun)) hs).1

theorem run_supply_pos {w w' : World} (hw : Reachable L pair token w) (h : Run L pair token w w')
    (hpos : 0 < supply w.ledger) : 0 < supply w'.ledger := by
  induction h with
  | refl => exact hpos
  | step e hrun hs ih =>
      have hw' := reachable_of_run hw hrun
      exact supply_pos_of_ledgerStep (reachable_minimumLocked hw')
        (step_ledger (reachable_assetsNative hw') hs) ih

theorem provide_first_locks {w w' : World} {x : External} {time : Nat} {info : MessageInfo}
    {assets : List Asset} {slippageTolerance : Option Decimal256} {autoStake : Option Bool}
    {receiver : Option String} (hinv : AssetsNative w.store)
    (h : step L pair token w
      (.execute x time info (.provideLiquidity assets slippageTolerance autoStake receiver)) = some w')
    (h0 : supply w.ledger = 0) : L.minimumLiquidityAmount ≤ balanceOf w'.ledger pair := by
  have hstep := step_ledger hinv h
  simp only [step] at h
  split_ifs at h <;>
  · obtain ⟨w₁, h₁, rfl⟩ := Option.map_eq_some'.1 h
    obtain ⟨r, hr, -, hexec⟩ := commit_eq_some h₁
    unfold execute at hr
    simp only [bind_eq_ok, Storage.loadConfig_eq_ok] at hr
    obtain ⟨_, -, hr⟩ := hr
    have hmin := provideLiquidity_minted hr h0
    have hburn : total (burned token) r.messages = 0 := (provideLiquidity_flow rfl hr).1
    have hsup := (execMsgs_flow hexec).2
    rw [hburn] at hsup
    have := L.minimumLiquidityAmount_pos
    exact hstep.2 h0 (by dsimp only at hsup ⊢; omega)

theorem send_amount_add_minimum_le {w w₁ : World} {owner : Addr} {amount totalShare : Nat}
    {x : External} (hw : Reachable L pair token w) (hne : owner ≠ pair)
    (h₁ : lpExec w (transfer w.ledger owner pair amount) = some w₁)
    (hshare : (w₁.querier L pair token x).supply token = .ok totalShare) :
    amount + L.minimumLiquidityAmount ≤ totalShare := by
  obtain ⟨-, l, hl, rfl⟩ := lpExec_eq_some h₁
  obtain ⟨hn, hle, hs, hb⟩ := transfer_eq_some hl
  have hpair := hb pair
  rw [if_neg (Ne.symm hne), if_pos rfl] at hpair
  have hlock := reachable_minimumLocked hw
    (lt_of_lt_of_le (Nat.pos_of_ne_zero hn) (hle.trans (balanceOf_le_supply _ _)))
  have := balanceOf_le_supply l pair
  rw [(querier_supply hshare).2]
  dsimp only
  omega

/-- The pair's LP balance keeps the minimum a first provide locks, so the total supply never returns
to zero, and a withdrawal never takes the pool below it: the share left (line 652) is positive, so
its divisor is not zero, and every refund is at most its pool (lines 645-646). -/
theorem minimum_liquidity_locked {w : World} (hw : Reachable L pair token w) :
    MinimumLocked L pair w.ledger ∧
    (∀ x time info assets slippageTolerance autoStake receiver w₁ w',
      step L pair token w
        (.execute x time info (.provideLiquidity assets slippageTolerance autoStake receiver)) =
        some w₁ →
      supply w.ledger = 0 → Run L pair token w₁ w' →
      L.minimumLiquidityAmount ≤ balanceOf w'.ledger pair) ∧
    (∀ w', Run L pair token w w' → 0 < supply w.ledger → 0 < supply w'.ledger) ∧
    ∀ owner amount w₁ x totalShare, owner ≠ pair →
      lpExec w (transfer w.ledger owner pair amount) = some w₁ →
      (w₁.querier L pair token x).supply token = .ok totalShare →
      amount + L.minimumLiquidityAmount ≤ totalShare ∧
      lpLeft totalShare amount = .ok (totalShare - amount) ∧ 0 < totalShare - amount ∧
      (Decimal256.withPrecision (totalShare - amount) lpTokenPrecision).isZero = false ∧
      ∀ pools, List.Forall₂ (fun r p => r.info = p.info ∧ r.amount ≤ p.amount)
        (getShareInAssets pools (amount - 1) totalShare) pools := by
  refine ⟨reachable_minimumLocked hw, ?_, fun w' h => run_supply_pos hw h, ?_⟩
  · intro _ _ _ _ _ _ _ w₁ w' h h0 hrun
    have hw₁ : Reachable L pair token w₁ := .step _ hw h
    exact le_trans (provide_first_locks (reachable_assetsNative hw) h h0) (run_balance_le hw₁ hrun)
  · intro owner amount w₁ x totalShare hne h₁ hshare
    have hle := send_amount_add_minimum_le hw hne h₁ hshare
    have hpos := L.minimumLiquidityAmount_pos
    have hleft : totalShare - amount ≠ 0 := by omega
    exact ⟨hle, by simp only [lpLeft, if_pos (by omega : amount ≤ totalShare)], by omega,
      Bool.eq_false_iff.2 (mt (Decimal256.isZero_withPrecision (by decide)).1 hleft),
      fun _ => getShareInAssets_le (by omega)⟩

def aliceProvided : World :=
  (step sampleLib "pair" "lp" repliedWorld (fundedRun.get ⟨2, by decide⟩)).getD World.init

def aliceSent : World :=
  (lpExec aliceProvided (transfer aliceProvided.ledger "alice" "pair" 100000)).getD World.init

theorem minimum_liquidity_locked_sample :
    supply repliedWorld.ledger = 0 ∧
      step sampleLib "pair" "lp" repliedWorld (fundedRun.get ⟨2, by decide⟩) = some aliceProvided ∧
      sampleLib.minimumLiquidityAmount ≤ balanceOf aliceProvided.ledger "pair" ∧
      lpExec aliceProvided (transfer aliceProvided.ledger "alice" "pair" 100000) = some aliceSent ∧
      (aliceSent.querier sampleLib "pair" "lp" sampleExternal).supply "lp" = .ok 200000 ∧
      100000 + sampleLib.minimumLiquidityAmount ≤ 200000 ∧ 0 < 200000 - 100000 :=
  have h0 : supply repliedWorld.ledger = 0 := by decide
  have h : step sampleLib "pair" "lp" repliedWorld (fundedRun.get ⟨2, by decide⟩) =
      some aliceProvided :=
    (Option.getD_of_ne_none (Option.ne_none_iff_isSome.2 (by decide)) _).symm
  have h₁ : lpExec aliceProvided (transfer aliceProvided.ledger "alice" "pair" 100000) =
      some aliceSent :=
    (Option.getD_of_ne_none (Option.ne_none_iff_isSome.2 (by decide)) _).symm
  have hs : (aliceSent.querier sampleLib "pair" "lp" sampleExternal).supply "lp" = .ok 200000 := rfl
  have hsend := (minimum_liquidity_locked (.step _ reachable_repliedWorld h)).2.2.2 "alice" 100000
    aliceSent sampleExternal 200000 (by decide) h₁ hs
  ⟨h0, h, (minimum_liquidity_locked reachable_repliedWorld).2.1 _ _ _ _ _ _ _ _ _ h h0 (.refl _),
    h₁, hs, hsend.1, hsend.2.2.1⟩

/-- From a reachable world whose LP token has supply zero, a provide whose checks pass and whose
list names pool assets is refused with `InvalidZeroAmount` as soon as one amount is zero, whatever
the pool holds (lines 429-432): the step fails and the world stays as it was. -/
theorem first_provide_zero_refused {w : World} (hw : Reachable L pair token w) {x : External}
    {time : Nat} {info : MessageInfo} {assets checked : List Asset}
    {slippageTolerance : Option Decimal256} {autoStake : Option Bool} {receiver : Option String}
    {config : Config} (hc : w.store.config = some config)
    (h0 : (w.querier L pair token x).supply config.pairInfo.liquidityToken = .ok 0)
    (hchk : provideChecks L (w.querier L pair token x) config info assets = .ok checked)
    (hpool : ∀ c ∈ checked, c.info ∈ config.pairInfo.assetInfos)
    (hzero : ∃ c ∈ checked, c.amount = 0) :
    execute L (({ w with balances := info.funds.foldl credit w.balances }).querier L pair token x)
        ⟨time, pair⟩ w.store info (.provideLiquidity assets slippageTolerance autoStake receiver) =
      .error .invalidZeroAmount ∧
    step L pair token w
      (.execute x time info (.provideLiquidity assets slippageTolerance autoStake receiver)) =
      none := by
  obtain ⟨ob, base, quote, ho, -, hinfos⟩ := reachable_assetsNative hw config hc
  have herr : execute L (({ w with balances := info.funds.foldl credit w.balances }).querier L pair
      token x) ⟨time, pair⟩ w.store info
      (.provideLiquidity assets slippageTolerance autoStake receiver) = .error .invalidZeroAmount := by
    simp only [execute, Storage.loadConfig, hc, ok_bind]
    exact provideLiquidity_zero_refused L hc ho hchk (reachable_precisionsStored hw config hc)
      (by rw [hinfos]; exact List.cons_ne_nil _ _) hpool h0 hzero
  refine ⟨herr, ?_⟩
  cases hs : step L pair token w
    (.execute x time info (.provideLiquidity assets slippageTolerance autoStake receiver)) with
  | none => rfl
  | some w' =>
      obtain ⟨-, w₁, r, hr, -⟩ := step_execute_eq_some hs
      rw [herr] at hr
      cases hr

def oneSidedProvide : ExecuteMsg :=
  .provideLiquidity [⟨.nativeToken "base", 100000⟩] none none none

theorem first_provide_zero_refused_one_sided :
    Reachable sampleLib "pair" "lp" repliedWorld ∧
      repliedWorld.store.config = some (repliedWorld.store.config.get (by decide)) ∧
      (repliedWorld.querier sampleLib "pair" "lp" sampleExternal).supply
        (repliedWorld.store.config.get (by decide)).pairInfo.liquidityToken = .ok 0 ∧
      provideChecks sampleLib (repliedWorld.querier sampleLib "pair" "lp" sampleExternal)
        (repliedWorld.store.config.get (by decide)) ⟨"alice", [⟨"base", 100000⟩]⟩
        [⟨.nativeToken "base", 100000⟩] =
        .ok [⟨.nativeToken "base", 100000⟩, ⟨.nativeToken "quote", 0⟩] ∧
      step sampleLib "pair" "lp" repliedWorld
        (.execute sampleExternal 1 ⟨"alice", [⟨"base", 100000⟩]⟩ oneSidedProvide) = none :=
  have hc := (Option.some_get (by decide : repliedWorld.store.config.isSome = true)).symm
  have h0 : (repliedWorld.querier sampleLib "pair" "lp" sampleExternal).supply
      (repliedWorld.store.config.get (by decide)).pairInfo.liquidityToken = .ok 0 := rfl
  have hchk : provideChecks sampleLib (repliedWorld.querier sampleLib "pair" "lp" sampleExternal)
      (repliedWorld.store.config.get (by decide)) ⟨"alice", [⟨"base", 100000⟩]⟩
      [⟨.nativeToken "base", 100000⟩] =
      .ok [⟨.nativeToken "base", 100000⟩, ⟨.nativeToken "quote", 0⟩] := rfl
  ⟨reachable_repliedWorld, hc, h0, hchk, (first_provide_zero_refused reachable_repliedWorld hc h0
    hchk (by decide) ⟨_, .tail _ (.head _), rfl⟩).2⟩

theorem imbalanced_withdraw_reverts (w : World) (x : External) (time : Nat) (owner : Addr)
    (amount : Nat) (a : Asset) (assets : List Asset) :
    step L pair token w
      (.lpSend x time owner amount (some (.withdrawLiquidity (a :: assets)))) = none := by
  simp only [step]
  split_ifs
  · simp only [Option.bind_eq_bind, Option.bind_eq_none]
    intro w₁ _
    rcases hr : execute L (w₁.querier L pair token x) ⟨time, pair⟩ w₁.store ⟨token, []⟩
      (.receive ⟨owner, amount, some (.withdrawLiquidity (a :: assets))⟩) with _ | res
    · rfl
    · unfold execute at hr
      simp only [bind_eq_ok, Storage.loadConfig_eq_ok] at hr
      obtain ⟨_, -, hr⟩ := hr
      exact absurd hr (withdrawLiquidity_imbalanced L)
  · rfl

end GridironPcl.Run.Ledger
