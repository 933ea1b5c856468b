import GridironPcl.Contract.Execute

namespace GridironPcl.Frame

open GridironPcl.Decimal GridironPcl.Assets GridironPcl.State GridironPcl.Deps GridironPcl.Utils
open GridironPcl.Contract.Instantiate GridironPcl.Contract.Provide GridironPcl.Contract.Withdraw
open GridironPcl.Contract.Swap GridironPcl.Contract.Execute

variable (L : Lib)

/-- What an `execute` entry point may change in the stored state. It keeps the pair's
`PairInfo` and precisions, and the orderbook state's market, subaccount, asset list and
`min_trades_to_avg`; it changes `orders_number` only to a value that passed `validate_param!`. -/
structure Keeps (s s' : Storage) : Prop where
  pairInfo : s'.config.map (·.pairInfo) = s.config.map (·.pairInfo)
  precisions : s'.precisions = s.precisions
  market : s'.obState.map (fun ob => (ob.marketId, ob.subaccount)) =
    s.obState.map (fun ob => (ob.marketId, ob.subaccount))
  assetInfos : s'.obState.map (·.assetInfos) = s.obState.map (·.assetInfos)
  minTradesToAvg : s'.obState.map (·.minTradesToAvg) = s.obState.map (·.minTradesToAvg)
  ordersNumber : s'.obState.map (·.ordersNumber) = s.obState.map (·.ordersNumber) ∨
    ∃ ob', s'.obState = some ob' ∧ Orderbook.validateParam "orders_number" ob'.ordersNumber
      L.orderSizeLimits.1 L.orderSizeLimits.2 = .ok ()

variable {L}

theorem Keeps.refl (s : Storage) : Keeps L s s := ⟨rfl, rfl, rfl, rfl, rfl, .inl rfl⟩

theorem Keeps.config_of_new {s s' : Storage} (hk : Keeps L s s') {c' : Config}
    (h : s'.config = some c') : ∃ c, s.config = some c ∧ c'.pairInfo = c.pairInfo := by
  have hp := hk.pairInfo
  rw [h] at hp
  obtain ⟨c, hc, hpi⟩ := Option.map_eq_some'.1 hp.symm
  exact ⟨c, hc, hpi.symm⟩

theorem Keeps.config_of_old {s s' : Storage} (hk : Keeps L s s') {c : Config}
    (h : s.config = some c) : ∃ c', s'.config = some c' ∧ c'.pairInfo = c.pairInfo := by
  have hp := hk.pairInfo
  rw [h] at hp
  exact Option.map_eq_some'.1 hp

theorem Keeps.obState_of_old {s s' : Storage} (hk : Keeps L s s') {ob : OrderbookState}
    (h : s.obState = some ob) : ∃ ob', s'.obState = some ob' ∧ ob'.assetInfos = ob.assetInfos ∧
      ob'.marketId = ob.marketId ∧ ob'.subaccount = ob.subaccount := by
  have ha := hk.assetInfos
  have hm := hk.market
  rw [h] at ha hm
  obtain ⟨ob', ho', hinfos⟩ := Option.map_eq_some'.1 ha
  rw [ho'] at hm
  simp only [Option.map_some', Option.some.injEq, Prod.mk.injEq] at hm
  exact ⟨ob', ho', hinfos, hm⟩

theorem Keeps.obState_of_new {s s' : Storage} (hk : Keeps L s s') {ob' : OrderbookState}
    (h : s'.obState = some ob') :
    ∃ ob, s.obState = some ob ∧ ob'.minTradesToAvg = ob.minTradesToAvg ∧
      (ob'.ordersNumber = ob.ordersNumber ∨ Orderbook.validateParam "orders_number"
        ob'.ordersNumber L.orderSizeLimits.1 L.orderSizeLimits.2 = .ok ()) := by
  have ha := hk.assetInfos
  rw [h] at ha
  obtain ⟨ob, ho, -⟩ := Option.map_eq_some'.1 ha.symm
  have hm := hk.minTradesToAvg
  rw [h, ho] at hm
  refine ⟨ob, ho, Option.some.inj hm, ?_⟩
  rcases hk.ordersNumber with hn | ⟨ob'', h'', hv⟩
  · rw [h, ho] at hn
    exact .inl (Option.some.inj hn)
  · rw [h] at h''
    exact .inr (Option.some.inj h'' ▸ hv)

theorem keeps_write {s : Storage} {config config' : Config} {ob ob' : OrderbookState}
    (hc : s.config = some config) (ho : s.obState = some ob)
    (hpair : config'.pairInfo = config.pairInfo) (hmarket : ob'.marketId = ob.marketId)
    (hsub : ob'.subaccount = ob.subaccount) (hassets : ob'.assetInfos = ob.assetInfos)
    (hmin : ob'.minTradesToAvg = ob.minTradesToAvg) (horders : ob'.ordersNumber = ob.ordersNumber) :
    Keeps L s { s with config := some config', obState := some ob' } :=
  ⟨by simp [hc, hpair], rfl, by simp [ho, hmarket, hsub], by simp [ho, hassets], by simp [ho, hmin],
    .inl (by simp [ho, horders])⟩

theorem keeps_config {s : Storage} {config config' : Config} (hc : s.config = some config)
    (hpair : config'.pairInfo = config.pairInfo) : Keeps L s { s with config := some config' } :=
  ⟨by simp [hc, hpair], rfl, rfl, rfl, rfl, .inl rfl⟩

theorem provideLiquidity_keeps {q : Querier} {env : Env} {s s' : Storage} {info : MessageInfo}
    {assets : List Asset} {slippageTolerance : Option Decimal256} {autoStake : Option Bool}
    {receiver : Option String} {r : Response}
    (h : provideLiquidity L q env s info assets slippageTolerance autoStake receiver = .ok (s', r)) :
    Keeps L s s' := by
  obtain ⟨_, _, _, _, _, _, _, hc, ho, -, -, -, rfl, -⟩ := provideLiquidity_eq_ok L h
  exact keeps_write hc ho rfl rfl rfl rfl rfl rfl

theorem withdrawLiquidity_keeps {q : Querier} {env : Env} {s s' : Storage} {info : MessageInfo}
    {sender : Addr} {amount : Nat} {assets : List Asset} {r : Response}
    (h : withdrawLiquidity L q env s info sender amount assets = .ok (s', r)) : Keeps L s s' := by
  obtain ⟨_, _, _, _, _, _, _, _, _, hc, -, ho, -, -, -, -, -, -, -, -, rfl, -⟩ :=
    withdrawLiquidity_eq_ok L h
  exact keeps_write hc ho rfl rfl rfl rfl rfl rfl

theorem swap_keeps {q : Querier} {env : Env} {s s' : Storage} {sender : Addr} {offerAsset : Asset}
    {beliefPrice maxSpread : Option Decimal256} {recipient : Option Addr} {r : Response}
    (h : swap L q env s sender offerAsset beliefPrice maxSpread recipient = .ok (s', r)) :
    Keeps L s s' := by
  obtain ⟨_, _, _, -, hc, ho, rfl, -⟩ := swap_eq_ok L h
  exact keeps_write hc ho rfl rfl rfl rfl rfl rfl

theorem updateConfig_keeps {q : Querier} {env : Env} {s s' : Storage} {info : MessageInfo}
    {params : Option ConcentratedObPoolUpdateParams} {r : Response}
    (h : updateConfig L q env s info params = .ok (s', r)) : Keeps L s s' := by
  obtain ⟨config, _, _, _, _, _, hc, -, -, -, happly, rfl, -⟩ := updateConfig_eq_ok L h
  rcases applyUpdateParams_eq_ok L happly with
    ⟨rfl, ⟨_, rfl⟩ | ⟨_, rfl⟩⟩ | ⟨rfl, n, ob, hv, ho, rfl⟩
  · exact keeps_config hc rfl
  · exact keeps_config hc rfl
  · exact ⟨by simp [hc], rfl, by simp [ho], by simp [ho], by simp [ho], .inr ⟨_, rfl, hv⟩⟩

theorem keeps_settlePending {q : Querier} {env : Env} {s s₁ : Storage} {ob ob' : OrderbookState}
    {balances : List Asset} {makerFees : List (Addr × Coin)}
    (h : settlePending L q env s ob balances = .ok (s₁, makerFees)) (ho : s.obState = some ob)
    (hmarket : ob'.marketId = ob.marketId) (hsub : ob'.subaccount = ob.subaccount)
    (hassets : ob'.assetInfos = ob.assetInfos) (hmin : ob'.minTradesToAvg = ob.minTradesToAvg)
    (horders : ob'.ordersNumber = ob.ordersNumber) :
    Keeps L s { s₁ with obState := some ob' } := by
  rcases settlePending_eq_ok L h with rfl | ⟨config, _, hc, rfl⟩
  · exact ⟨rfl, rfl, by simp [ho, hmarket, hsub], by simp [ho, hassets], by simp [ho, hmin],
      .inl (by simp [ho, horders])⟩
  · exact keeps_write hc ho rfl hmarket hsub hassets hmin horders

theorem orderbookEmergencyWithdraw_keeps {q : Querier} {env : Env} {s s' : Storage}
    {r : Response} (h : orderbookEmergencyWithdraw L q env s = .ok (s', r)) : Keeps L s s' := by
  obtain ⟨_, _, _, _, _, _, _, -, ho, -, -, hsettle, -, rfl, -⟩ :=
    orderbookEmergencyWithdraw_eq_ok L h
  exact keeps_settlePending hsettle ho rfl rfl rfl rfl rfl

theorem updateMarketTicks_keeps {q : Querier} {s s' : Storage} {r : Response}
    (h : updateMarketTicks q s = .ok (s', r)) : Keeps L s s' := by
  obtain ⟨ob, _, ho, ⟨_, hticks⟩, rfl, -⟩ := updateMarketTicks_eq_ok h
  obtain ⟨_, _, rfl⟩ := Orderbook.setTicks_eq_ok hticks
  exact ⟨rfl, rfl, by simp [ho], by simp [ho], by simp [ho], .inl (by simp [ho])⟩

theorem execute_keeps {q : Querier} {env : Env} {s s' : Storage} {info : MessageInfo}
    {msg : ExecuteMsg} {r : Response} (h : execute L q env s info msg = .ok (s', r)) :
    Keeps L s s' := by
  unfold execute at h
  simp only [bind_eq_ok, Storage.loadConfig_eq_ok] at h
  obtain ⟨config, hc, h⟩ := h
  cases msg with
  | receive cw20Msg =>
      dsimp only [receiveCw20] at h
      split at h
      · exact withdrawLiquidity_keeps h
      · simp at h
      · simp at h
  | provideLiquidity => exact provideLiquidity_keeps h
  | swap =>
      obtain ⟨_, h⟩ := executeSwap_eq_ok L h
      exact swap_keeps h
  | updateConfig => exact updateConfig_keeps h
  | proposeNewOwner =>
      simp only [bind_eq_ok, liftStd_eq_ok, pure_eq_ok, Except.ok.injEq, Prod.mk.injEq] at h
      obtain ⟨_, -, _, -, rfl, -⟩ := h
      exact ⟨rfl, rfl, rfl, rfl, rfl, .inl rfl⟩
  | dropOwnershipProposal =>
      simp only [bind_eq_ok, liftStd_eq_ok, pure_eq_ok, Except.ok.injEq, Prod.mk.injEq] at h
      obtain ⟨_, -, _, -, rfl, -⟩ := h
      exact ⟨rfl, rfl, rfl, rfl, rfl, .inl rfl⟩
  | claimOwnership =>
      simp only [bind_eq_ok, liftStd_eq_ok, pure_eq_ok, Except.ok.injEq, Prod.mk.injEq,
        Storage.loadConfig_eq_ok] at h
      obtain ⟨_, -, config', hc', rfl, -⟩ := h
      exact ⟨by simp [hc'], rfl, rfl, rfl, rfl, .inl rfl⟩
  | withdrawFromOrderbook => exact orderbookEmergencyWithdraw_keeps h
  | updateMarketTicks => exact updateMarketTicks_keeps h

def ownerParams (s : Storage) : Option PoolParams × Option UInt8 :=
  (s.config.map (·.poolParams), s.obState.map (·.ordersNumber))

theorem ownerParams_write {s : Storage} {config config' : Config} {ob ob' : OrderbookState}
    (hc : s.config = some config) (ho : s.obState = some ob)
    (hparams : config'.poolParams = config.poolParams) (horders : ob'.ordersNumber = ob.ordersNumber) :
    ownerParams { s with config := some config', obState := some ob' } = ownerParams s := by
  simp [ownerParams, hc, ho, hparams, horders]

theorem ownerParams_settlePending {q : Querier} {env : Env} {s s₁ : Storage}
    {ob ob' : OrderbookState} {balances : List Asset} {makerFees : List (Addr × Coin)}
    (h : settlePending L q env s ob balances = .ok (s₁, makerFees)) (ho : s.obState = some ob)
    (horders : ob'.ordersNumber = ob.ordersNumber) :
    ownerParams { s₁ with obState := some ob' } = ownerParams s := by
  rcases settlePending_eq_ok L h with rfl | ⟨config, _, hc, rfl⟩
  · simp [ownerParams, ho, horders]
  · exact ownerParams_write hc ho rfl horders

theorem execute_ownerParams {q : Querier} {env : Env} {s s' : Storage} {info : MessageInfo}
    {msg : ExecuteMsg} {r : Response} (h : execute L q env s info msg = .ok (s', r)) :
    ownerParams s' = ownerParams s ∨ ∃ params config factoryOwner, msg = .updateConfig params ∧
      s.config = some config ∧ q.factoryOwner = .ok factoryOwner ∧
      info.sender = config.owner.getD factoryOwner := by
  unfold execute at h
  simp only [bind_eq_ok, Storage.loadConfig_eq_ok] at h
  obtain ⟨_, -, h⟩ := h
  cases msg with
  | receive cw20Msg =>
      dsimp only [receiveCw20] at h
      split at h
      · obtain ⟨_, _, _, _, _, _, _, _, _, hc, -, ho, -, -, -, -, -, -, -, -, rfl, -⟩ :=
          withdrawLiquidity_eq_ok L h
        exact .inl (ownerParams_write hc ho rfl rfl)
      · simp at h
      · simp at h
  | provideLiquidity =>
      obtain ⟨_, _, _, _, _, _, _, hc, ho, -, -, -, rfl, -⟩ := provideLiquidity_eq_ok L h
      exact .inl (ownerParams_write hc ho rfl rfl)
  | swap =>
      obtain ⟨_, h⟩ := executeSwap_eq_ok L h
      obtain ⟨_, _, _, -, hc, ho, rfl, -⟩ := swap_eq_ok L h
      exact .inl (ownerParams_write hc ho rfl rfl)
  | updateConfig params =>
      obtain ⟨config, factoryOwner, _, _, _, _, hc, hfo, hauth, -⟩ := updateConfig_eq_ok L h
      exact .inr ⟨params, config, factoryOwner, rfl, hc, hfo, hauth⟩
  | proposeNewOwner | dropOwnershipProposal =>
      simp only [bind_eq_ok, liftStd_eq_ok, pure_eq_ok, Except.ok.injEq, Prod.mk.injEq] at h
      obtain ⟨_, -, _, -, rfl, -⟩ := h
      exact .inl rfl
  | claimOwnership =>
      simp only [bind_eq_ok, liftStd_eq_ok, pure_eq_ok, Except.ok.injEq, Prod.mk.injEq,
        Storage.loadConfig_eq_ok] at h
      obtain ⟨_, -, config', hc', rfl, -⟩ := h
      exact .inl (by simp [ownerParams, hc'])
  | withdrawFromOrderbook =>
      obtain ⟨_, _, _, _, _, _, _, -, ho, -, -, hsettle, -, rfl, -⟩ :=
        orderbookEmergencyWithdraw_eq_ok L h
      exact .inl (ownerParams_settlePending hsettle ho rfl)
  | updateMarketTicks =>
      obtain ⟨ob, _, ho, ⟨_, hticks⟩, rfl, -⟩ := updateMarketTicks_eq_ok h
      obtain ⟨_, _, rfl⟩ := Orderbook.setTicks_eq_ok hticks
      exact .inl (by simp [ownerParams, ho])

end GridironPcl.Frame
