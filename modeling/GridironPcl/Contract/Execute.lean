import GridironPcl.Contract.Swap

namespace GridironPcl.Contract.Execute

open GridironPcl.Decimal GridironPcl.Assets GridironPcl.State GridironPcl.Deps GridironPcl.Utils
open GridironPcl.Contract.Instantiate GridironPcl.Contract.Provide GridironPcl.Contract.Withdraw
open GridironPcl.Contract.Swap

variable (L : Lib)

inductive ConcentratedObPoolUpdateParams where
  | update (params : UpdatePoolParams)
  | promote (params : PromoteParams)
  | stopChangingAmpGamma
  | updateOrderbookParams (ordersNumber : UInt8)
  deriving DecidableEq, Repr

inductive Cw20HookMsg where
  | withdrawLiquidity (assets : List Asset)
  | swap
  deriving DecidableEq, Repr

structure Cw20ReceiveMsg where
  sender : String
  amount : Nat
  msg : Option Cw20HookMsg
  deriving DecidableEq, Repr

/-- `ExecuteMsg`; a binary payload is kept decoded, or `none` when it does not decode. -/
inductive ExecuteMsg where
  | receive (msg : Cw20ReceiveMsg)
  | provideLiquidity (assets : List Asset) (slippageTolerance : Option Decimal256)
      (autoStake : Option Bool) (receiver : Option String)
  | swap (offerAsset : Asset) (beliefPrice maxSpread : Option Decimal256) (recipient : Option String)
  | updateConfig (params : Option ConcentratedObPoolUpdateParams)
  | proposeNewOwner (owner : String) (expiresIn : Nat)
  | dropOwnershipProposal
  | claimOwnership
  | withdrawFromOrderbook
  | updateMarketTicks
  deriving DecidableEq, Repr

def receiveCw20 (q : Querier) (env : Env) (s : Storage) (info : MessageInfo)
    (cw20Msg : Cw20ReceiveMsg) : Except ContractError (Storage × Response) :=
  match cw20Msg.msg with
  | some (.withdrawLiquidity assets) =>
      withdrawLiquidity L q env s info cw20Msg.sender cw20Msg.amount assets
  | some .swap => throw .notSupported
  | none => throw (.std (.parseErr "Cw20HookMsg"))

def applyUpdateParams (env : Env) (s : Storage) (config : Config) :
    ConcentratedObPoolUpdateParams → Except ContractError (Storage × Config × List (String × String))
  | .update updateParams => do
      let (poolParams, attrs) ← L.updateParams config.poolParams updateParams
      pure (s, { config with poolParams }, attrs ++ [("action", "update_params")])
  | .promote promoteParams => do
      let poolState ← L.promoteParams config.poolState env promoteParams
      pure (s, { config with poolState },
        [("action", "promote_params"), ("next_amp", promoteParams.nextAmp.toString),
          ("next_gamma", promoteParams.nextGamma.toString),
          ("future_time", Nat.repr promoteParams.futureTime)])
  | .stopChangingAmpGamma =>
      pure (s, { config with poolState := L.stopPromotion config.poolState env },
        [("action", "stop_changing_amp_gamma")])
  | .updateOrderbookParams ordersNumber => do
      let s ← liftStd (Orderbook.updateOrdersNumber L s ordersNumber)
      pure (s, config,
        [("action", "update_orderbook_params"), ("orders_number", toString ordersNumber)])

theorem applyUpdateParams_eq_ok {env : Env} {s s' : Storage} {config config' : Config}
    {params : ConcentratedObPoolUpdateParams} {attrs : List (String × String)}
    (h : applyUpdateParams L env s config params = .ok (s', config', attrs)) :
    (s' = s ∧ ((∃ poolParams, config' = { config with poolParams }) ∨
        ∃ poolState, config' = { config with poolState })) ∨
      (config' = config ∧ ∃ ordersNumber ob, Orderbook.validateParam "orders_number" ordersNumber
          L.orderSizeLimits.1 L.orderSizeLimits.2 = .ok () ∧
        s.obState = some ob ∧ s' = { s with obState := some { ob with ordersNumber } }) := by
  cases params with
  | update p =>
      simp only [applyUpdateParams, bind_eq_ok, pure_eq_ok, Except.ok.injEq, Prod.mk.injEq] at h
      obtain ⟨_, -, rfl, rfl, -⟩ := h
      exact .inl ⟨rfl, .inl ⟨_, rfl⟩⟩
  | promote p =>
      simp only [applyUpdateParams, bind_eq_ok, pure_eq_ok, Except.ok.injEq, Prod.mk.injEq] at h
      obtain ⟨_, -, rfl, rfl, -⟩ := h
      exact .inl ⟨rfl, .inr ⟨_, rfl⟩⟩
  | stopChangingAmpGamma =>
      simp only [applyUpdateParams, pure_eq_ok, Except.ok.injEq, Prod.mk.injEq] at h
      obtain ⟨rfl, rfl, -⟩ := h
      exact .inl ⟨rfl, .inr ⟨_, rfl⟩⟩
  | updateOrderbookParams n =>
      simp only [applyUpdateParams, bind_eq_ok, liftStd_eq_ok, pure_eq_ok, Except.ok.injEq,
        Prod.mk.injEq] at h
      obtain ⟨_, hs, rfl, rfl, -⟩ := h
      obtain ⟨hv, ob, ho, rfl⟩ := Orderbook.updateOrdersNumber_eq_ok L hs
      exact .inr ⟨rfl, n, ob, hv, ho, rfl⟩

def updateConfig (q : Querier) (env : Env) (s : Storage) (info : MessageInfo)
    (params : Option ConcentratedObPoolUpdateParams) : Except ContractError (Storage × Response) := do
  let config ← s.loadConfig
  let factoryOwner ← liftStd q.factoryOwner
  ensure (info.sender = config.owner.getD factoryOwner) ContractError.unauthorized
  let some params := params | throw (.std (.parseErr "ConcentratedObPoolUpdateParams"))
  let (s, config, attributes) ← applyUpdateParams L env s config params
  pure ({ s with config := some config }, ⟨[], attributes⟩)

theorem updateConfig_eq_ok {q : Querier} {env : Env} {s s' : Storage} {info : MessageInfo}
    {params : Option ConcentratedObPoolUpdateParams} {r : Response}
    (h : updateConfig L q env s info params = .ok (s', r)) :
    ∃ config factoryOwner params' s₁ config' attrs, s.config = some config ∧
      q.factoryOwner = .ok factoryOwner ∧ info.sender = config.owner.getD factoryOwner ∧
      params = some params' ∧ applyUpdateParams L env s config params' = .ok (s₁, config', attrs) ∧
      s' = { s₁ with config := some config' } ∧ r.messages = [] := by
  unfold updateConfig at h
  simp only [bind_eq_ok, liftStd_eq_ok, ensure_eq_ok, Storage.loadConfig_eq_ok] at h
  obtain ⟨config, hc, fo, hfo, ⟨⟩, hauth, h⟩ := h
  rcases params with _ | params
  · simp at h
  simp only [bind_eq_ok, pure_eq_ok, Except.ok.injEq, Prod.mk.injEq] at h
  obtain ⟨⟨s₁, config', attrs⟩, hm, rfl, rfl⟩ := h
  exact ⟨config, fo, params, s₁, config', attrs, hc, hfo, hauth, rfl, hm, rfl, rfl⟩

def settleTrade (q : Querier) (env : Env) (s : Storage) (config : Config) (ob : OrderbookState)
    (balances : List Asset) :
    Except ContractError (PoolState × List Decimal256 × List (Addr × Coin)) := do
  let pools ← queryPools q config ob s.precisions
  let (base, quote) ← liftStd (Orderbook.firstTwo config.pairInfo.assetInfos)
  let basePrecision ← getPrecision s.precisions base
  let quotePrecision ← getPrecision s.precisions quote
  liftStd (L.processCumulativeTrade q env ob config (pools.map (·.amount)) balances
    basePrecision quotePrecision)

/-- Lines 956-981: a difference that no begin blocker processed is processed before the funds
leave the subaccount. Returns the storage and the maker fees to pay. -/
def settlePending (q : Querier) (env : Env) (s : Storage) (ob : OrderbookState)
    (balances : List Asset) : Except ContractError (Storage × List (Addr × Coin)) :=
  if ob.lastBalances ≠ balances then do
    let config ← s.loadConfig
    let (poolState, _, makerFees) ← settleTrade L q env s config ob balances
    pure ({ s with config := some { config with poolState } }, makerFees)
  else pure (s, [])

theorem settlePending_eq_ok {q : Querier} {env : Env} {s s' : Storage} {ob : OrderbookState}
    {balances : List Asset} {makerFees : List (Addr × Coin)}
    (h : settlePending L q env s ob balances = .ok (s', makerFees)) :
    s' = s ∨ ∃ config poolState, s.config = some config ∧
      s' = { s with config := some { config with poolState } } := by
  unfold settlePending at h
  split_ifs at h
  · simp only [bind_eq_ok, pure_eq_ok, Except.ok.injEq, Prod.mk.injEq,
      Storage.loadConfig_eq_ok] at h
    obtain ⟨config, hc, _, -, rfl, -⟩ := h
    exact .inr ⟨config, _, hc, rfl⟩
  · simp only [pure_eq_ok, Except.ok.injEq, Prod.mk.injEq] at h
    exact .inl h.1.symm

/-- `orderbook_emergency_withdraw`: once the chain has deactivated the pair, anyone may move the
subaccount's funds back to it, settling any trade not yet processed. -/
def orderbookEmergencyWithdraw (q : Querier) (env : Env) (s : Storage) :
    Except ContractError (Storage × Response) := do
  ensure (q.contractActive = false)
    (genericErr "Failed to withdraw liquidity from orderbook: contract is active")
  let ob ← s.loadObState
  let balances := Orderbook.getSubaccountBalances ob.assetInfos q ob.subaccount
  let b0 ← liftStd (index balances 0)
  let b1 ← liftStd (index balances 1)
  let response := if b0.amount + b1.amount ≠ 0 then Orderbook.leaveOrderbook ob balances
    else Response.empty
  let (s, makerFees) ← settlePending L q env s ob balances
  let (base, quote) ← liftStd (Orderbook.firstTwo ob.assetInfos)
  let ob := Orderbook.reconciliationDone { ob with enabled := false }
    [base.withBalance 0, quote.withBalance 0]
  pure ({ s with obState := some ob },
    (response.addMessages (makerFees.map fun (recipient, coin) => .bankSend recipient coin)).addAttributes
      [("action", "emergency_orderbook_withdraw"), ("pair", env.contract)])

theorem orderbookEmergencyWithdraw_eq_ok {q : Querier} {env : Env} {s s' : Storage}
    {r : Response} (h : orderbookEmergencyWithdraw L q env s = .ok (s', r)) :
    ∃ ob s₁ makerFees base quote b0 b1,
      q.contractActive = false ∧ s.obState = some ob ∧
      index (Orderbook.getSubaccountBalances ob.assetInfos q ob.subaccount) 0 = .ok b0 ∧
      index (Orderbook.getSubaccountBalances ob.assetInfos q ob.subaccount) 1 = .ok b1 ∧
      settlePending L q env s ob (Orderbook.getSubaccountBalances ob.assetInfos q ob.subaccount) =
        .ok (s₁, makerFees) ∧
      Orderbook.firstTwo ob.assetInfos = .ok (base, quote) ∧
      s' = { s₁ with obState := some (Orderbook.reconciliationDone { ob with enabled := false }
        [base.withBalance 0, quote.withBalance 0]) } ∧
      r.messages = (if b0.amount + b1.amount ≠ 0 then (Orderbook.leaveOrderbook ob
          (Orderbook.getSubaccountBalances ob.assetInfos q ob.subaccount)).messages else []) ++
        makerFees.map (fun (recipient, coin) => .bankSend recipient coin) := by
  unfold orderbookEmergencyWithdraw at h
  simp only [bind_eq_ok, liftStd_eq_ok, ensure_eq_ok, pure_eq_ok, Except.ok.injEq, Prod.mk.injEq,
    Storage.loadObState_eq_ok] at h
  obtain ⟨⟨⟩, hact, ob, ho, b0, h0, b1, h1, ⟨s₁, fees⟩, hsettle, ⟨base, quote⟩, hbq, rfl, rfl⟩ := h
  refine ⟨ob, s₁, fees, base, quote, b0, b1, hact, ho, h0, h1, hsettle, hbq, rfl, ?_⟩
  split_ifs <;> simp [Response.addMessages, Response.addAttributes, Response.empty]

def updateMarketTicks (q : Querier) (s : Storage) : Except ContractError (Storage × Response) := do
  let ob ← s.loadObState
  let _ ← s.loadConfig
  let (base, _) ← liftStd (Orderbook.firstTwo ob.assetInfos)
  let basePrecision ← liftStd (q.decimals base)
  let ob ← liftStd (Orderbook.setTicks q ob basePrecision)
  pure ({ s with obState := some ob }, ⟨[], [("action", "update_market_ticks")]⟩)

theorem updateMarketTicks_eq_ok {q : Querier} {s s' : Storage} {r : Response}
    (h : updateMarketTicks q s = .ok (s', r)) :
    ∃ ob ob', s.obState = some ob ∧ (∃ p, Orderbook.setTicks q ob p = .ok ob') ∧
      s' = { s with obState := some ob' } ∧ r.messages = [] := by
  unfold updateMarketTicks at h
  simp only [bind_eq_ok, liftStd_eq_ok, pure_eq_ok, Except.ok.injEq, Prod.mk.injEq,
    Storage.loadObState_eq_ok, Storage.loadConfig_eq_ok] at h
  obtain ⟨ob, ho, _, -, _, -, p, -, ob', hticks, rfl, rfl⟩ := h
  exact ⟨ob, ob', ho, ⟨p, hticks⟩, rfl, rfl⟩
def execute (q : Querier) (env : Env) (s : Storage) (info : MessageInfo) (msg : ExecuteMsg) :
    Except ContractError (Storage × Response) := do
  let config ← s.loadConfig
  match msg with
  | .receive cw20Msg => receiveCw20 L q env s info cw20Msg
  | .provideLiquidity assets slippageTolerance autoStake receiver =>
      provideLiquidity L q env s info assets slippageTolerance autoStake receiver
  | .swap offerAsset beliefPrice maxSpread recipient =>
      executeSwap L q env s config info offerAsset beliefPrice maxSpread recipient
  | .updateConfig params => updateConfig L q env s info params
  | .proposeNewOwner owner expiresIn => do
      let factoryOwner ← liftStd q.factoryOwner
      let (proposal, attrs) ← liftStd
        (L.proposeNewOwner info env owner expiresIn (config.owner.getD factoryOwner))
      pure ({ s with proposal := some proposal }, ⟨[], attrs⟩)
  | .dropOwnershipProposal => do
      let factoryOwner ← liftStd q.factoryOwner
      let attrs ← liftStd (L.dropOwnershipProposal info (config.owner.getD factoryOwner))
      pure ({ s with proposal := none }, ⟨[], attrs⟩)
  | .claimOwnership => do
      let (newOwner, attrs) ← liftStd (L.claimOwnership info env s.proposal)
      let config ← s.loadConfig
      pure ({ s with config := some { config with owner := some newOwner }, proposal := none },
        ⟨[], attrs⟩)
  | .withdrawFromOrderbook => orderbookEmergencyWithdraw L q env s
  | .updateMarketTicks => updateMarketTicks q s

end GridironPcl.Contract.Execute
