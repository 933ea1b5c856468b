import GridironPcl.Contract.Instantiate

namespace GridironPcl.Contract.Provide

open GridironPcl.Decimal GridironPcl.Assets GridironPcl.State GridironPcl.Deps GridironPcl.Utils
open GridironPcl.Contract.Instantiate

variable (L : Lib)

def completeAssets (assetInfos : List AssetInfo) (assets : List Asset) :
    Except ContractError (List Asset) :=
  match assets with
  | [] => throw (genericErr "Nothing to provide")
  | [a] =>
      match assetInfos.findIdx? (fun pool => pool.equal a.info) with
      | none => throw (.invalidAsset a.info.toString)
      | some givenInd => do
          let other ← liftStd (index assetInfos (1 ^^^ givenInd))
          pure [a, ⟨other, 0⟩]
  | [a, b] => pure [a, b]
  | _ => throw (.invalidNumberOfAssets assetInfos.length)

def provideChecks (q : Querier) (config : Config) (info : MessageInfo) (assets : List Asset) :
    Except ContractError (List Asset) := do
  let registered ← liftStd q.pairRegistered
  ensure (registered = true) ContractError.pairIsNotRegistered
  let assets ← completeAssets config.pairInfo.assetInfos assets
  L.checkAssets assets
  liftStd (L.assertCoinsProperlySent info.funds assets config.pairInfo.assetInfos)
  pure assets

theorem completeAssets_eq_ok {assetInfos : List AssetInfo} {assets checked : List Asset}
    (h : completeAssets assetInfos assets = .ok checked) :
    (∃ a b, assets = [a, b] ∧ checked = [a, b]) ∨
      ∃ a other, assets = [a] ∧ checked = [a, ⟨other, 0⟩] := by
  unfold completeAssets at h
  split at h
  · cases h
  · split at h
    · cases h
    · simp only [bind_eq_ok, liftStd_eq_ok, pure_eq_ok, Except.ok.injEq] at h
      obtain ⟨other, -, rfl⟩ := h
      exact .inr ⟨_, other, rfl, rfl⟩
  · exact .inl ⟨_, _, rfl, (Except.ok.inj h).symm⟩
  · cases h

theorem provideChecks_complete {q : Querier} {config : Config} {info : MessageInfo}
    {assets checked : List Asset} (h : provideChecks L q config info assets = .ok checked) :
    completeAssets config.pairInfo.assetInfos assets = .ok checked := by
  unfold provideChecks at h
  simp only [bind_eq_ok, liftStd_eq_ok, ensure_eq_ok, pure_eq_ok, Except.ok.injEq] at h
  obtain ⟨_, -, _, -, _, hc, _, -, _, -, rfl⟩ := h
  exact hc

def orderAssets (pools : List DecimalAsset) (assets : List Asset) : Except StdError (List Asset) := do
  let pool0 ← index pools 0
  let asset1 ← index assets 1
  if pool0.info.equal asset1.info then
    match assets with
    | a0 :: a1 :: rest => pure (a1 :: a0 :: rest)
    | _ => pure assets
  else pure assets

theorem orderAssets_swap {pools : List DecimalAsset} {a b : Asset}
    (hhead : pools.head?.map (·.info) = some a.info) (hb : b.info ≠ a.info) :
    orderAssets pools [b, a] = orderAssets pools [a, b] := by
  cases pools with
  | nil => cases hhead
  | cons pool rest =>
      simp only [List.head?_cons, Option.map_some', Option.some.injEq] at hhead
      simp [orderAssets, index, hhead, hb, Ne.symm hb]

def cw20Prohibited : StdError :=
  .panic "internal error: entered unreachable code: CW20 tokens are prohibited"

/-- Lines 434-443: a native deposit is already in the queried balance, so it is taken back out;
a CW20 pool asset is taken to be impossible. -/
def subtractDeposits (deposits : List Decimal256) (pools : List DecimalAsset) :
    Except ContractError (List DecimalAsset) :=
  pools.enum.mapM fun (i, pool) =>
    match pool.info with
    | .token _ => .error (.std cw20Prohibited)
    | .nativeToken _ => do
        let deposit ← liftStd (index deposits i)
        let some amount := pool.amount.checkedSub deposit | throw .overflowError
        pure { pool with amount }

theorem subtractDeposits_ne_cw20Prohibited {deposits : List Decimal256}
    {pools : List DecimalAsset} (hnative : ∀ p ∈ pools, ∃ denom, p.info = .nativeToken denom) :
    subtractDeposits deposits pools ≠ .error (.std cw20Prohibited) := by
  refine mapM_ne_error fun ⟨i, pool⟩ hmem => ?_
  obtain ⟨denom, hd⟩ := hnative pool (List.snd_mem_of_mem_enum hmem)
  simp only [hd, index, cw20Prohibited]
  split
  · simp only [liftStd, ok_bind]
    split <;> simp
  · simp [liftStd]

/-- Lines 449-473: an orderbook trade that the begin blocker did not process is processed
first. Returns the pool state, the balances, the snapshot to record and the maker fees. -/
def processPendingTrade (q : Querier) (env : Env) (config : Config) (ob : OrderbookState)
    (precisions : Precisions) (xs : List Decimal256) :
    Except ContractError (PoolState × List Decimal256 × List Asset × List (Addr × Coin)) := do
  let subaccBalances := Orderbook.getSubaccountBalances config.pairInfo.assetInfos q ob.subaccount
  if ob.lastBalances ≠ subaccBalances then
    let (base, quote) ← liftStd (Orderbook.firstTwo config.pairInfo.assetInfos)
    let basePrecision ← getPrecision precisions base
    let quotePrecision ← getPrecision precisions quote
    let (poolState, xs, makerFees) ← liftStd
      (L.processCumulativeTrade q env ob config xs subaccBalances basePrecision quotePrecision)
    pure (poolState, xs, subaccBalances, makerFees)
  else pure (config.poolState, xs, ob.lastBalances, [])

theorem processPendingTrade_lastBalances {q : Querier} {env : Env} {config : Config}
    {ob : OrderbookState} {precisions : Precisions} {xs : List Decimal256}
    {out : PoolState × List Decimal256 × List Asset × List (Addr × Coin)}
    (h : processPendingTrade L q env config ob precisions xs = .ok out) :
    out.2.2.1 = Orderbook.getSubaccountBalances config.pairInfo.assetInfos q ob.subaccount := by
  unfold processPendingTrade at h
  dsimp only at h
  split_ifs at h with hne
  · simp only [bind_eq_ok, liftStd_eq_ok, pure_eq_ok, Except.ok.injEq] at h
    obtain ⟨_, _, _, _, _, _, _, _, rfl⟩ := h
    rfl
  · simp only [pure_eq_ok, Except.ok.injEq] at h
    subst h
    simpa using hne

theorem processPendingTrade_quiet {q : Querier} {env : Env} {config : Config}
    {ob : OrderbookState} {precisions : Precisions} {xs : List Decimal256}
    {out : PoolState × List Decimal256 × List Asset × List (Addr × Coin)}
    (h : processPendingTrade L q env config ob precisions xs = .ok out)
    (hquiet : ob.lastBalances =
      Orderbook.getSubaccountBalances config.pairInfo.assetInfos q ob.subaccount) :
    out.2.2.2 = [] := by
  unfold processPendingTrade at h
  dsimp only at h
  rw [if_neg (not_not.2 hquiet)] at h
  cases h
  rfl

/-- Lines 485-519: the LP amount the deposit is worth. On a first provide the amount beyond
`MINIMUM_LIQUIDITY_AMOUNT` (the flag says that amount is minted to the pair), otherwise the growth
of `D` net of the provide fee. -/
def provideShare (config : Config) (ampGamma : AmpGamma) (totalShare newD : Decimal256)
    (xs newXp deposits : List Decimal256) : Except ContractError (Decimal256 × Bool × PoolState) := do
  let priceScale := config.poolState.priceState.priceScale
  if totalShare.isZero then
    let xcp := L.getXcp newD priceScale
    let some mintAmount :=
        xcp.checkedSub (Decimal256.withPrecision L.minimumLiquidityAmount lpTokenPrecision)
      | throw .minimumLiquidityAmountError
    ensure (mintAmount.isZero = false) ContractError.minimumLiquidityAmountError
    pure (mintAmount, true, { config.poolState with
      priceState := { config.poolState.priceState with
        xcpProfitReal := Decimal256.one, xcpProfit := Decimal256.one } })
  else
    let oldXp ← liftStd (modifyIndex xs 1 (·.mul priceScale))
    let oldD ← liftStd (L.calcD oldXp ampGamma)
    let product ← liftStd (totalShare.mul newD)
    let grown ← liftStd (product.div oldD)
    let share := grown.saturatingSub totalShare
    let ideposits ← liftStd (modifyIndex deposits 1 (·.mul priceScale))
    let kept ← liftStd (Decimal256.one.sub (L.calcProvideFee ideposits newXp config.poolParams))
    let share ← liftStd (share.mul kept)
    pure (share, false, config.poolState)

theorem provideShare_lockMinimum {config : Config} {ampGamma : AmpGamma}
    {totalShare newD : Decimal256} {xs newXp deposits : List Decimal256}
    {out : Decimal256 × Bool × PoolState}
    (h : provideShare L config ampGamma totalShare newD xs newXp deposits = .ok out) :
    out.2.1 = totalShare.isZero := by
  unfold provideShare at h
  dsimp only at h
  split_ifs at h with hz
  · split at h
    · simp only [bind_eq_ok, pure_eq_ok, Except.ok.injEq] at h
      obtain ⟨_, _, rfl⟩ := h
      simp [hz]
    · simp at h
  · simp only [bind_eq_ok, liftStd_eq_ok, pure_eq_ok, Except.ok.injEq] at h
    obtain ⟨_, -, _, -, _, -, _, -, _, -, _, -, _, -, rfl⟩ := h
    simp [hz]

def provideDeposits (precisions : Precisions) (pools : List DecimalAsset) (assets : List Asset) :
    Except ContractError (Asset × Asset × Decimal256 × Decimal256) := do
  let assets ← liftStd (orderAssets pools assets)
  let asset0 ← liftStd (index assets 0)
  let asset1 ← liftStd (index assets 1)
  let precision0 ← getPrecision precisions asset0.info
  let precision1 ← getPrecision precisions asset1.info
  pure (asset0, asset1, Decimal256.withPrecision asset0.amount precision0,
    Decimal256.withPrecision asset1.amount precision1)

theorem provideDeposits_swap {precisions : Precisions} {pools : List DecimalAsset} {a b : Asset}
    (hhead : pools.head?.map (·.info) = some a.info) (hb : b.info ≠ a.info) :
    provideDeposits precisions pools [b, a] = provideDeposits precisions pools [a, b] := by
  rw [provideDeposits, orderAssets_swap hhead hb, provideDeposits]

def checkInitialDeposits (totalShare deposit0 deposit1 : Decimal256) : Except ContractError Unit :=
  ensure (¬ (totalShare.isZero ∧ (deposit0.isZero ∨ deposit1.isZero))) .invalidZeroAmount

def depositedXp (xs deposits : List Decimal256) (priceScale : Decimal256) :
    Except StdError (List Decimal256) := do
  let newXp ← xs.enum.mapM fun (ind, pool) => do pool.add (← index deposits ind)
  modifyIndex newXp 1 (·.mul priceScale)

def providePrice (env : Env) (config : Config) (totalShare share : Decimal256)
    (newXp : List Decimal256) (deposit0 deposit1 : Decimal256)
    (slippageTolerance : Option Decimal256) : Except ContractError (Decimal256 × PoolState) := do
  let priceScale := config.poolState.priceState.priceScale
  let newShare ← liftStd (totalShare.add share)
  let shareRatio ← liftStd (share.div newShare)
  let newXp0 ← liftStd (index newXp 0)
  let balanced0 ← liftStd (newXp0.mul shareRatio)
  let newXp1 ← liftStd (index newXp 1)
  let scaled1 ← liftStd (newXp1.mul shareRatio)
  let balanced1 ← liftStd (scaled1.div priceScale)
  let diff0 := deposit0.diff balanced0
  let diff1 := deposit1.diff balanced1
  if L.minTradeSize ≤ diff0 ∧ L.minTradeSize ≤ diff1 then
    let slippage ← L.assertSlippageTolerance [deposit0, deposit1] share config.poolState.priceState
      slippageTolerance
    let lastPrice ← liftStd (diff0.div diff1)
    let poolState ← L.updatePrice config.poolState config.poolParams env newShare newXp lastPrice
    pure (slippage, poolState)
  else pure (Decimal256.zero, config.poolState)

structure ProvideOutcome where
  poolState : PoolState
  lastBalances : List Asset
  makerFees : List (Addr × Coin)
  lockMinimum : Bool
  shareUint : Nat
  slippage : Decimal256
  assets : Asset × Asset

def provideCompute (q : Querier) (env : Env) (config : Config) (ob : OrderbookState)
    (precisions : Precisions) (assets : List Asset) (slippageTolerance : Option Decimal256) :
    Except ContractError ProvideOutcome := do
  let pools ← queryPools q config ob precisions
  let (asset0, asset1, deposit0, deposit1) ← provideDeposits precisions pools assets
  let supply ← liftStd (q.supply config.pairInfo.liquidityToken)
  let totalShare := Decimal256.withPrecision supply lpTokenPrecision
  checkInitialDeposits totalShare deposit0 deposit1
  let pools ← subtractDeposits [deposit0, deposit1] pools
  let (poolState, xs, lastBalances, makerFees) ←
    processPendingTrade L q env config ob precisions (pools.map (·.amount))
  let config := { config with poolState }
  let newXp ← liftStd (depositedXp xs [deposit0, deposit1] config.poolState.priceState.priceScale)
  let ampGamma := L.getAmpGamma config.poolState env
  let newD ← liftStd (L.calcD newXp ampGamma)
  let (share, lockMinimum, poolState) ←
    provideShare L config ampGamma totalShare newD xs newXp [deposit0, deposit1]
  let (slippage, poolState) ← providePrice L env { config with poolState } totalShare share newXp
    deposit0 deposit1 slippageTolerance
  let shareUint ← liftConversion (share.toUint lpTokenPrecision)
  pure ⟨poolState, lastBalances, makerFees, lockMinimum, shareUint, slippage, (asset0, asset1)⟩

theorem provideCompute_spec {q : Querier} {env : Env} {config : Config} {ob : OrderbookState}
    {precisions : Precisions} {assets : List Asset} {slippageTolerance : Option Decimal256}
    {out : ProvideOutcome}
    (h : provideCompute L q env config ob precisions assets slippageTolerance = .ok out) :
    ∃ supply, q.supply config.pairInfo.liquidityToken = .ok supply ∧
      out.lockMinimum = (Decimal256.withPrecision supply lpTokenPrecision).isZero ∧
      out.lastBalances = Orderbook.getSubaccountBalances config.pairInfo.assetInfos q ob.subaccount := by
  unfold provideCompute at h
  simp only [bind_eq_ok, liftStd_eq_ok, pure_eq_ok, Except.ok.injEq] at h
  obtain ⟨_, _, _, _, supply, hsupply, _, _, _, _, _, htrade, _, _, _, _, _, hshare, _, _, _, _, rfl⟩ := h
  exact ⟨supply, hsupply, provideShare_lockMinimum L hshare, processPendingTrade_lastBalances L htrade⟩

theorem provideCompute_swap {q : Querier} {env : Env} {config : Config} {ob : OrderbookState}
    {precisions : Precisions} {a b : Asset} {slippageTolerance : Option Decimal256}
    (hhead : config.pairInfo.assetInfos.head? = some a.info) (hb : b.info ≠ a.info) :
    provideCompute L q env config ob precisions [b, a] slippageTolerance =
      provideCompute L q env config ob precisions [a, b] slippageTolerance := by
  unfold provideCompute
  cases hp : queryPools q config ob precisions with
  | error e => rfl
  | ok pools =>
      have hhead' : pools.head?.map (·.info) = some a.info := by
        rw [← List.head?_map, queryPools_infos hp, hhead]
      simp only [ok_bind, provideDeposits_swap hhead' hb]

theorem provideDeposits_ok {precisions : Precisions} {pools : List DecimalAsset} {c₀ c₁ : Asset}
    (hne : pools ≠ []) (hprec : ∀ c ∈ [c₀, c₁], ∃ p, getPrecision precisions c.info = .ok p) :
    ∃ a₀ a₁ p₀ p₁, (a₀ = c₀ ∧ a₁ = c₁ ∨ a₀ = c₁ ∧ a₁ = c₀) ∧
      provideDeposits precisions pools [c₀, c₁] = .ok (a₀, a₁,
        Decimal256.withPrecision a₀.amount p₀, Decimal256.withPrecision a₁.amount p₁) := by
  obtain ⟨pool, rest, rfl⟩ := List.exists_cons_of_ne_nil hne
  obtain ⟨p₀, hp₀⟩ := hprec c₀ (by simp)
  obtain ⟨p₁, hp₁⟩ := hprec c₁ (by simp)
  by_cases hq : pool.info = c₁.info
  · exact ⟨c₁, c₀, p₁, p₀, .inr ⟨rfl, rfl⟩, by
      simp [provideDeposits, orderAssets, index, hq, liftStd, hp₀, hp₁]⟩
  · exact ⟨c₀, c₁, p₀, p₁, .inl ⟨rfl, rfl⟩, by
      simp [provideDeposits, orderAssets, index, hq, liftStd, hp₀, hp₁]⟩

theorem provideCompute_zero_refused {q : Querier} {env : Env} {config : Config}
    {ob : OrderbookState} {precisions : Precisions} {c₀ c₁ : Asset}
    {slippageTolerance : Option Decimal256} {pools : List DecimalAsset}
    (hp : queryPools q config ob precisions = .ok pools) (hne : pools ≠ [])
    (hprec : ∀ c ∈ [c₀, c₁], ∃ p, getPrecision precisions c.info = .ok p)
    (h0 : q.supply config.pairInfo.liquidityToken = .ok 0) (hzero : ∃ c ∈ [c₀, c₁], c.amount = 0) :
    provideCompute L q env config ob precisions [c₀, c₁] slippageTolerance =
      .error .invalidZeroAmount := by
  obtain ⟨a₀, a₁, p₀, p₁, hperm, hdep⟩ := provideDeposits_ok hne hprec
  have hz : a₀.amount = 0 ∨ a₁.amount = 0 := by
    obtain ⟨c, hc, hc0⟩ := hzero
    rcases List.mem_pair.1 hc with rfl | rfl <;> rcases hperm with ⟨rfl, rfl⟩ | ⟨rfl, rfl⟩ <;>
      simp [hc0]
  unfold provideCompute
  rw [hp, ok_bind, hdep, ok_bind]
  simp only [liftStd, h0, Except.mapError, ok_bind, checkInitialDeposits, ensure,
    Decimal256.withPrecision_zero]
  rcases hz with h | h <;> simp [h, Decimal256.zero, Decimal256.isZero]

def lockMinimumMessage (q : Querier) (config : Config) (env : Env) (lockMinimum : Bool) :
    Except ContractError (List Msg) :=
  if lockMinimum then
    mintLiquidityTokenMessage q config env.contract env.contract L.minimumLiquidityAmount false
  else pure []

theorem lockMinimumMessage_eq_ok {q : Querier} {config : Config} {env : Env} {lockMinimum : Bool}
    {msgs : List Msg} (h : lockMinimumMessage L q config env lockMinimum = .ok msgs) :
    msgs = if lockMinimum then
      [.cw20Mint config.pairInfo.liquidityToken env.contract L.minimumLiquidityAmount] else [] := by
  unfold lockMinimumMessage mintLiquidityTokenMessage at h
  cases lockMinimum <;> simp_all

def provideLiquidity (q : Querier) (env : Env) (s : Storage) (info : MessageInfo)
    (assets : List Asset) (slippageTolerance : Option Decimal256) (autoStake : Option Bool)
    (receiver : Option String) : Except ContractError (Storage × Response) := do
  let config ← s.loadConfig
  let assets ← provideChecks L q config info assets
  let ob ← s.loadObState
  let out ← provideCompute L q env config ob s.precisions assets slippageTolerance
  let config := { config with poolState := out.poolState }
  let lockMsgs ← lockMinimumMessage L q config env out.lockMinimum
  let receiver := (← liftStd (L.addrOptValidate receiver)).getD info.sender
  let mintMsgs ← mintLiquidityTokenMessage q config env.contract receiver out.shareUint
    (autoStake.getD false)
  let ob := Orderbook.reconcile
    { ob with lastBalances := out.lastBalances, enabled := q.allowedForBeginBlocker }
  pure ({ s with config := some config, obState := some ob },
    ⟨out.makerFees.map (fun (recipient, coin) => .bankSend recipient coin) ++ lockMsgs ++ mintMsgs,
      [("action", "provide_liquidity"), ("sender", info.sender), ("receiver", receiver),
        ("assets", out.assets.1.toString ++ ", " ++ out.assets.2.toString),
        ("share", Nat.repr out.shareUint), ("slippage", out.slippage.toString)]⟩)

theorem provideLiquidity_eq_ok {q : Querier} {env : Env} {s s' : Storage} {info : MessageInfo}
    {assets : List Asset} {slippageTolerance : Option Decimal256} {autoStake : Option Bool}
    {receiver : Option String} {r : Response}
    (h : provideLiquidity L q env s info assets slippageTolerance autoStake receiver = .ok (s', r)) :
    ∃ config ob checked out lockMsgs recipient mintMsgs,
      s.config = some config ∧ s.obState = some ob ∧
      provideCompute L q env config ob s.precisions checked slippageTolerance = .ok out ∧
      lockMinimumMessage L q { config with poolState := out.poolState } env out.lockMinimum =
        .ok lockMsgs ∧
      mintLiquidityTokenMessage q { config with poolState := out.poolState } env.contract recipient
        out.shareUint (autoStake.getD false) = .ok mintMsgs ∧
      s' = { s with
        config := some { config with poolState := out.poolState }
        obState := some (Orderbook.reconcile
          { ob with lastBalances := out.lastBalances, enabled := q.allowedForBeginBlocker }) } ∧
      r.messages = out.makerFees.map (fun (recipient, coin) => .bankSend recipient coin) ++
        lockMsgs ++ mintMsgs := by
  unfold provideLiquidity at h
  simp only [bind_eq_ok, liftStd_eq_ok, pure_eq_ok, Except.ok.injEq, Storage.loadConfig_eq_ok,
    Storage.loadObState_eq_ok] at h
  obtain ⟨config, hc, checked, _, ob, hob, out, hout, lockMsgs, hlock, _, _, mintMsgs, hmint, rfl, rfl⟩ := h
  exact ⟨config, ob, checked, out, lockMsgs, _, mintMsgs, hc, hob, hout, hlock, hmint, rfl, rfl⟩

theorem provideCompute_quiet {q : Querier} {env : Env} {config : Config} {ob : OrderbookState}
    {precisions : Precisions} {assets : List Asset} {slippageTolerance : Option Decimal256}
    {out : ProvideOutcome}
    (h : provideCompute L q env config ob precisions assets slippageTolerance = .ok out)
    (hquiet : ob.lastBalances =
      Orderbook.getSubaccountBalances config.pairInfo.assetInfos q ob.subaccount) :
    out.makerFees = [] := by
  unfold provideCompute at h
  simp only [bind_eq_ok, liftStd_eq_ok, pure_eq_ok, Except.ok.injEq] at h
  obtain ⟨_, _, _, _, _, _, _, _, _, _, _, htrade, _, _, _, _, _, _, _, _, _, _, rfl⟩ := h
  exact processPendingTrade_quiet L htrade hquiet

theorem provideLiquidity_to_sender {q : Querier} {env : Env} {s s' : Storage} {info : MessageInfo}
    {assets : List Asset} {slippageTolerance : Option Decimal256} {r : Response}
    (h : provideLiquidity L q env s info assets slippageTolerance none none = .ok (s', r)) :
    ∃ config ob checked out, s.config = some config ∧ s.obState = some ob ∧
      provideCompute L q env config ob s.precisions checked slippageTolerance = .ok out ∧
      s'.precisions = s.precisions ∧
      r.messages = out.makerFees.map (fun (recipient, coin) => .bankSend recipient coin) ++
        (if out.lockMinimum then [.cw20Mint config.pairInfo.liquidityToken env.contract
          L.minimumLiquidityAmount] else []) ++
        [.cw20Mint config.pairInfo.liquidityToken info.sender out.shareUint] := by
  unfold provideLiquidity at h
  simp only [bind_eq_ok, liftStd_eq_ok, pure_eq_ok, Except.ok.injEq, Prod.mk.injEq,
    Storage.loadConfig_eq_ok, Storage.loadObState_eq_ok] at h
  obtain ⟨config, hc, checked, -, ob, hob, out, hout, _, hlock, _, hv, _, hmint, rfl, rfl⟩ := h
  cases hv
  cases hmint
  exact ⟨config, ob, checked, out, hc, hob, hout, rfl, by rw [lockMinimumMessage_eq_ok L hlock]; rfl⟩

theorem provideLiquidity_zero_refused {q : Querier} {env : Env} {s : Storage} {info : MessageInfo}
    {assets checked : List Asset} {slippageTolerance : Option Decimal256} {autoStake : Option Bool}
    {receiver : Option String} {config : Config} {ob : OrderbookState}
    (hc : s.config = some config) (ho : s.obState = some ob)
    (hchk : provideChecks L q config info assets = .ok checked)
    (hprec : ∀ info ∈ config.pairInfo.assetInfos, ∃ p, getPrecision s.precisions info = .ok p)
    (hne : config.pairInfo.assetInfos ≠ []) (hpool : ∀ c ∈ checked, c.info ∈ config.pairInfo.assetInfos)
    (h0 : q.supply config.pairInfo.liquidityToken = .ok 0) (hzero : ∃ c ∈ checked, c.amount = 0) :
    provideLiquidity L q env s info assets slippageTolerance autoStake receiver =
      .error .invalidZeroAmount := by
  obtain ⟨c₀, c₁, rfl⟩ : ∃ c₀ c₁, checked = [c₀, c₁] := by
    rcases completeAssets_eq_ok (provideChecks_complete L hchk) with ⟨a, b, -, rfl⟩ | ⟨a, o, -, rfl⟩
    exacts [⟨a, b, rfl⟩, ⟨a, _, rfl⟩]
  obtain ⟨pools, hp⟩ := @queryPools_ok q config ob s.precisions hprec
  have hpools : pools ≠ [] := fun h => hne (by rw [← queryPools_infos hp, h, List.map_nil])
  unfold provideLiquidity
  simp only [Storage.loadConfig, Storage.loadObState, hc, ho, hchk, ok_bind, error_bind,
    provideCompute_zero_refused L hp hpools (fun c hc => hprec c.info (hpool c hc)) h0 hzero]

end GridironPcl.Contract.Provide
