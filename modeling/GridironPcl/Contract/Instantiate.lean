import GridironPcl.Utils

namespace GridironPcl.Contract.Instantiate

open GridironPcl.Decimal GridironPcl.Assets GridironPcl.State GridironPcl.Deps

def instantiateTokenReplyId : Nat := 1

def lpTokenPrecision : Nat := 6

structure ConcentratedPoolParams where
  amp : Decimal256
  gamma : Decimal256
  midFee : Decimal256
  outFee : Decimal256
  feeGamma : Decimal256
  repegProfitThreshold : Decimal256
  minPriceScaleDelta : Decimal256
  priceScale : Decimal256
  maHalfTime : Nat
  deriving DecidableEq, Repr

structure OrderbookConfig where
  marketId : String
  ordersNumber : UInt8
  minTradesToAvg : UInt32
  deriving DecidableEq, Repr

structure ConcentratedInjObParams where
  mainParams : ConcentratedPoolParams
  orderbookConfig : OrderbookConfig
  deriving DecidableEq, Repr

/-- `InstantiateMsg`; `initParams` is absent, or a binary that decodes (`some`) or does not
(`none`). -/
structure InstantiateMsg where
  assetInfos : List AssetInfo
  tokenCodeId : Nat
  factoryAddr : String
  initParams : Option (Option ConcentratedInjObParams)
  deriving DecidableEq, Repr

inductive SubMsgResult where
  | ok (data : Option String)
  | err (msg : String)
  deriving DecidableEq, Repr

structure Reply where
  id : Nat
  result : SubMsgResult
  deriving DecidableEq, Repr

/-- Modelled from the spec: `Precisions::store_precisions` (pcl_common) is not under src/. It stores
the decimals of every pool asset, under its string form. -/
def storePrecisions (q : Querier) (assetInfos : List AssetInfo) (old : Precisions) :
    Except StdError Precisions := do
  let stored ← assetInfos.mapM fun info => do pure (info.toString, ← q.decimals info)
  pure (stored ++ old)

variable (L : Lib)

def instantiate (q : Querier) (env : Env) (s : Storage) (msg : InstantiateMsg) :
    Except ContractError (Storage × Response) := do
  L.checkAssetInfos msg.assetInfos
  ensure (msg.assetInfos.length = 2) (genericErr "asset_infos must contain exactly two elements")
  let some binary := msg.initParams | throw .initParamsNotFound
  let some orderbookParams := binary | throw (.std (.parseErr "ConcentratedInjObParams"))
  let params := orderbookParams.mainParams
  ensure (params.priceScale.isZero = false) (genericErr "Initial price scale can not be zero")
  let factoryAddr ← liftStd (L.addrValidate msg.factoryAddr)
  let precisions ← liftStd (storePrecisions q msg.assetInfos s.precisions)
  let (base, _) ← liftStd (Orderbook.firstTwo msg.assetInfos)
  let basePrecision ← liftStd (q.decimals base)
  let obState ← liftStd (Orderbook.new L q env orderbookParams.orderbookConfig.marketId
    orderbookParams.orderbookConfig.ordersNumber orderbookParams.orderbookConfig.minTradesToAvg
    msg.assetInfos basePrecision)
  let (poolParams, _) ← L.updateParams PoolParams.default
    ⟨some params.midFee, some params.outFee, some params.feeGamma,
      some params.repegProfitThreshold, some params.minPriceScaleDelta, some params.maHalfTime⟩
  let future ← L.ampGammaNew params.amp params.gamma
  let poolState : PoolState :=
    { initial := ⟨.zero, .zero⟩
      future
      futureTime := env.time
      initialTime := 0
      priceState :=
        { oraclePrice := params.priceScale
          lastPrice := params.priceScale
          priceScale := params.priceScale
          lastPriceUpdate := env.time
          xcpProfit := .zero
          xcpProfitReal := .zero } }
  let config : Config :=
    { pairInfo :=
        { contractAddr := env.contract
          liquidityToken := ""
          assetInfos := msg.assetInfos
          pairType := .custom "concentrated_inj_orderbook" }
      factoryAddr
      poolParams
      poolState
      owner := none
      trackAssetBalances := false
      feeShare := none }
  let tokenName ← liftStd (q.lpTokenName msg.assetInfos)
  pure ({ s with config := some config, obState := some obState, precisions },
    ⟨[.instantiateLpToken msg.tokenCodeId tokenName env.contract],
      [("subaccount_id", obState.subaccount)]⟩)

theorem instantiate_eq_ok {q : Querier} {env : Env} {s s' : Storage} {msg : InstantiateMsg}
    {r : Response} (h : instantiate L q env s msg = .ok (s', r)) :
    ∃ config ob params basePrecision,
      s'.config = some config ∧ s'.obState = some ob ∧ s'.proposal = s.proposal ∧
      config.pairInfo.liquidityToken = "" ∧ config.pairInfo.assetInfos = msg.assetInfos ∧
      msg.initParams = some (some params) ∧
      Orderbook.new L q env params.orderbookConfig.marketId params.orderbookConfig.ordersNumber
        params.orderbookConfig.minTradesToAvg msg.assetInfos basePrecision = .ok ob ∧
      ∃ tokenName, r.messages = [.instantiateLpToken msg.tokenCodeId tokenName env.contract] := by
  unfold instantiate at h
  simp only [bind_eq_ok, liftStd_eq_ok, ensure_eq_ok] at h
  obtain ⟨⟨⟩, -, ⟨⟩, -, h⟩ := h
  rcases hp : msg.initParams with _ | _ | params <;> simp only [hp] at h
  · simp at h
  · simp at h
  simp only [bind_eq_ok, liftStd_eq_ok, ensure_eq_ok, pure_eq_ok, Except.ok.injEq,
    Prod.mk.injEq] at h
  obtain ⟨⟨⟩, -, _, -, _, -, _, -, bp, -, ob, hob, _, -, _, -, _, -, rfl, rfl⟩ := h
  exact ⟨_, ob, params, bp, rfl, rfl, rfl, rfl, rfl, rfl, hob, _, rfl⟩

theorem instantiate_precisions {q : Querier} {env : Env} {s s' : Storage} {msg : InstantiateMsg}
    {r : Response} (h : instantiate L q env s msg = .ok (s', r)) :
    storePrecisions q msg.assetInfos s.precisions = .ok s'.precisions := by
  unfold instantiate at h
  simp only [bind_eq_ok, liftStd_eq_ok, ensure_eq_ok] at h
  obtain ⟨⟨⟩, -, ⟨⟩, -, h⟩ := h
  rcases hp : msg.initParams with _ | _ | params <;> simp only [hp] at h
  · simp at h
  · simp at h
  simp only [bind_eq_ok, liftStd_eq_ok, ensure_eq_ok, pure_eq_ok, Except.ok.injEq,
    Prod.mk.injEq] at h
  obtain ⟨⟨⟩, -, _, -, _, hprec, _, -, _, -, _, -, _, -, _, -, _, -, rfl, -⟩ := h
  exact hprec

/-- `reply`: record the LP token created at instantiation, once. -/
def reply (s : Storage) (msg : Reply) : Except ContractError (Storage × Response) :=
  match msg.result with
  | .ok (some data) =>
      if msg.id = instantiateTokenReplyId then do
        let config ← s.loadConfig
        ensure (config.pairInfo.liquidityToken = "") ContractError.unauthorized
        let contractAddress ← (L.parseInstantiateResponse data).mapError genericErr
        let liquidityToken ← liftStd (L.addrValidate contractAddress)
        pure ({ s with config := some { config with
                  pairInfo := { config.pairInfo with liquidityToken } } },
          ⟨[], [("liquidity_token_addr", liquidityToken)]⟩)
      else throw .failedToParseReply
  | _ => throw .failedToParseReply

theorem reply_eq_ok {s s' : Storage} {msg : Reply} {r : Response}
    (h : reply L s msg = .ok (s', r)) :
    ∃ config data addr liquidityToken,
      msg = ⟨instantiateTokenReplyId, .ok (some data)⟩ ∧ s.config = some config ∧
      config.pairInfo.liquidityToken = "" ∧ L.parseInstantiateResponse data = .ok addr ∧
      L.addrValidate addr = .ok liquidityToken ∧
      s' = { s with config := some { config with pairInfo := { config.pairInfo with liquidityToken } } } ∧
      r.messages = [] := by
  obtain ⟨id, result⟩ := msg
  unfold reply at h
  split at h
  · split_ifs at h with hid
    · simp only [bind_eq_ok, liftStd_eq_ok, ensure_eq_ok, pure_eq_ok, Except.ok.injEq, Prod.mk.injEq,
        Storage.loadConfig_eq_ok] at h
      obtain ⟨config, hc, ⟨⟩, htok, addr, haddr, lt, hlt, rfl, rfl⟩ := h
      exact ⟨config, _, addr, lt, by simp_all, hc, htok, mapError_eq_ok.1 haddr, hlt, rfl, rfl⟩
  · simp at h
end GridironPcl.Contract.Instantiate
