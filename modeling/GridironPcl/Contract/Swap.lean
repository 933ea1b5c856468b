import GridironPcl.Contract.Withdraw

namespace GridironPcl.Contract.Swap

open GridironPcl.Decimal GridironPcl.Assets GridironPcl.State GridironPcl.Deps GridironPcl.Utils
open GridironPcl.Contract.Instantiate GridironPcl.Contract.Provide GridironPcl.Contract.Withdraw

variable (L : Lib)

structure SwapOutcome where
  poolState : PoolState
  lastBalances : List Asset
  ready : Bool
  makerFees : List (Addr × Coin)
  messages : List Msg
  attributes : List (String × String)

/-- Lines 811-821: a trade that is not too small moves the price. `traded` is
`swap_result.dy + swap_result.maker_fee`, which line 794 computed already. -/
def swapPrice (env : Env) (config : Config) (swapResult : SwapResult) (traded offerAmount : Decimal256)
    (offerInd : Nat) (totalShare : Decimal256) (xs : List Decimal256) :
    Except ContractError PoolState :=
  if L.minTradeSize ≤ traded ∧ L.minTradeSize ≤ offerAmount then do
    let lastPrice := L.calcLastPrice swapResult offerAmount offerInd
    let xs ← liftStd (modifyIndex xs 1 (·.mul config.poolState.priceState.priceScale))
    L.updatePrice config.poolState config.poolParams env totalShare xs lastPrice
  else pure config.poolState

def swapCompute (q : Querier) (env : Env) (s : Storage) (sender : Addr) (offerAsset : Asset)
    (beliefPrice maxSpread : Option Decimal256) (recipient : Option Addr) :
    Except ContractError SwapOutcome := do
  let offerAssetPrec ← getPrecision s.precisions offerAsset.info
  let offerAssetDec := offerAsset.toDecimalAsset offerAssetPrec
  let config ← s.loadConfig
  let ob ← s.loadObState
  let pools ← queryPools q config ob s.precisions
  let some offerInd := pools.findIdx? (fun asset => asset.info = offerAssetDec.info)
    | throw (.invalidAsset offerAssetDec.info.toString)
  let askInd := 1 ^^^ offerInd
  let askInfo := (← liftStd (index pools askInd)).info
  let askAssetPrec ← getPrecision s.precisions askInfo
  let offerPool ← liftStd (index pools offerInd)
  let offerLeft ← liftStd (offerPool.amount.sub offerAssetDec.amount)
  let pools := pools.set offerInd { offerPool with amount := offerLeft }
  L.beforeSwapCheck pools offerAssetDec.amount
  let makerFeeShare := if q.feeAddress.isSome then q.makerFeeRate else Decimal256.zero
  let (poolState, xs, lastBalances, makerFees) ←
    processPendingTrade L q env config ob s.precisions (pools.map (·.amount))
  let config := { config with poolState }
  let swapResult ← L.computeSwap xs offerAssetDec.amount askInd config env makerFeeShare
  let xs ← liftStd (modifyIndex xs offerInd (·.add offerAssetDec.amount))
  let askPool ← liftStd (index xs askInd)
  let traded ← liftStd (swapResult.dy.add swapResult.makerFee)
  let askLeft ← liftStd (askPool.sub traded)
  let xs := xs.set askInd askLeft
  let returnAmount ← liftConversion (swapResult.dy.toUint askAssetPrec)
  let spreadAmount ← liftConversion (swapResult.spreadFee.toUint askAssetPrec)
  L.assertMaxSpread beliefPrice maxSpread offerAsset.amount returnAmount spreadAmount
  let supply ← liftStd (q.supply config.pairInfo.liquidityToken)
  let totalShare := Decimal256.withPrecision supply lpTokenPrecision
  let poolState ← swapPrice L env config swapResult traded offerAssetDec.amount offerInd totalShare xs
  let receiver := recipient.getD sender
  let makerFee ← liftConversion
    (if q.feeAddress.isSome then swapResult.makerFee.toUint askAssetPrec else some 0)
  let feeMsgs := match q.feeAddress with
    | some feeAddress => if makerFee = 0 then [] else [Asset.intoMsg ⟨askInfo, makerFee⟩ feeAddress]
    | none => []
  let ready ← L.accumulateSwapSizes env { ob with lastBalances }
  let commission ← liftConversion (swapResult.totalFee.toUint askAssetPrec)
  pure ⟨poolState, lastBalances, ready, makerFees,
    Asset.intoMsg ⟨askInfo, returnAmount⟩ receiver :: feeMsgs,
    [("action", "swap"), ("sender", sender), ("receiver", receiver),
      ("offer_asset", offerAssetDec.info.toString), ("ask_asset", askInfo.toString),
      ("offer_amount", Nat.repr offerAsset.amount), ("return_amount", Nat.repr returnAmount),
      ("spread_amount", Nat.repr spreadAmount), ("commission_amount", Nat.repr commission),
      ("maker_fee_amount", Nat.repr makerFee)]⟩

theorem swapCompute_pays_ask {q : Querier} {env : Env} {s : Storage} {sender : Addr}
    {offerAsset : Asset} {beliefPrice maxSpread : Option Decimal256} {recipient : Option Addr}
    {out : SwapOutcome}
    (h : swapCompute L q env s sender offerAsset beliefPrice maxSpread recipient = .ok out) :
    ∃ config ob pools offerInd ask, s.config = some config ∧ s.obState = some ob ∧
      queryPools q config ob s.precisions = .ok pools ∧
      pools.findIdx? (fun asset => asset.info = offerAsset.info) = some offerInd ∧
      index pools (1 ^^^ offerInd) = .ok ask ∧
      out.lastBalances = Orderbook.getSubaccountBalances config.pairInfo.assetInfos q ob.subaccount ∧
      (∀ m ∈ out.messages, ∃ amount receiver, m = Asset.intoMsg ⟨ask.info, amount⟩ receiver) ∧
      (ob.lastBalances = Orderbook.getSubaccountBalances config.pairInfo.assetInfos q ob.subaccount →
        out.makerFees = []) := by
  unfold swapCompute at h
  simp only [bind_eq_ok, liftStd_eq_ok, pure_eq_ok, Storage.loadConfig_eq_ok,
    Storage.loadObState_eq_ok] at h
  obtain ⟨_, -, config, hc, ob, ho, pools, hp, h⟩ := h
  split at h
  · rename_i offerInd hind
    simp only [bind_eq_ok, liftStd_eq_ok, pure_eq_ok, Except.ok.injEq] at h
    obtain ⟨ask, hask, _, -, _, -, _, -, _, -, trade, htrade, _, -, _, -, _, -, _, -, _, -, _, -, _, -,
      _, -, _, -, _, -, _, -, _, -, _, -, rfl⟩ := h
    refine ⟨config, ob, pools, offerInd, ask, hc, ho, hp, hind, hask,
      processPendingTrade_lastBalances L htrade, fun m hm => ?_, processPendingTrade_quiet L htrade⟩
    rcases List.mem_cons.1 hm with rfl | hm
    · exact ⟨_, _, rfl⟩
    · split at hm
      · exact ⟨_, _, List.mem_singleton.1 (List.mem_ite_nil_left.1 hm).2⟩
      · simp at hm
  · simp at h

theorem swapCompute_spec {q : Querier} {env : Env} {s : Storage} {sender : Addr} {offerAsset : Asset}
    {beliefPrice maxSpread : Option Decimal256} {recipient : Option Addr} {out : SwapOutcome}
    (h : swapCompute L q env s sender offerAsset beliefPrice maxSpread recipient = .ok out) :
    ∃ config ob, s.config = some config ∧ s.obState = some ob ∧
      out.lastBalances = Orderbook.getSubaccountBalances config.pairInfo.assetInfos q ob.subaccount ∧
      ∃ askInfo ∈ config.pairInfo.assetInfos,
        ∀ m ∈ out.messages, ∃ amount receiver, m = Asset.intoMsg ⟨askInfo, amount⟩ receiver := by
  obtain ⟨config, ob, pools, _, ask, hc, ho, hp, -, hask, hlast, hpay, -⟩ := swapCompute_pays_ask L h
  exact ⟨config, ob, hc, ho, hlast, ask.info,
    queryPools_infos hp ▸ List.mem_map_of_mem _ (index_mem hask), hpay⟩

def swap (q : Querier) (env : Env) (s : Storage) (sender : Addr) (offerAsset : Asset)
    (beliefPrice maxSpread : Option Decimal256) (recipient : Option Addr) :
    Except ContractError (Storage × Response) := do
  let out ← swapCompute L q env s sender offerAsset beliefPrice maxSpread recipient
  let config ← s.loadConfig
  let ob ← s.loadObState
  let ob := Orderbook.reconcile { Orderbook.ready { ob with lastBalances := out.lastBalances } out.ready
    with enabled := q.allowedForBeginBlocker }
  pure ({ s with config := some { config with poolState := out.poolState }, obState := some ob },
    ⟨out.makerFees.map (fun (recipient, coin) => .bankSend recipient coin) ++ out.messages,
      out.attributes⟩)

theorem swap_eq_ok {q : Querier} {env : Env} {s s' : Storage} {sender : Addr} {offerAsset : Asset}
    {beliefPrice maxSpread : Option Decimal256} {recipient : Option Addr} {r : Response}
    (h : swap L q env s sender offerAsset beliefPrice maxSpread recipient = .ok (s', r)) :
    ∃ out config ob,
      swapCompute L q env s sender offerAsset beliefPrice maxSpread recipient = .ok out ∧
      s.config = some config ∧ s.obState = some ob ∧
      s' = { s with
        config := some { config with poolState := out.poolState }
        obState := some (Orderbook.reconcile { Orderbook.ready
          { ob with lastBalances := out.lastBalances } out.ready with
          enabled := q.allowedForBeginBlocker }) } ∧
      r.messages = out.makerFees.map (fun (recipient, coin) => .bankSend recipient coin) ++
        out.messages := by
  unfold swap at h
  simp only [bind_eq_ok, pure_eq_ok, Except.ok.injEq, Prod.mk.injEq, Storage.loadConfig_eq_ok,
    Storage.loadObState_eq_ok] at h
  obtain ⟨out, hout, config, hc, ob, ho, rfl, rfl⟩ := h
  exact ⟨out, config, ob, hout, hc, ho, rfl, rfl⟩

def executeSwap (q : Querier) (env : Env) (s : Storage) (config : Config) (info : MessageInfo)
    (offerAsset : Asset) (beliefPrice maxSpread : Option Decimal256) (recipient : Option String) :
    Except ContractError (Storage × Response) := do
  liftStd (L.checkAssetInfo offerAsset.info)
  ensure (offerAsset.info ∈ config.pairInfo.assetInfos)
    (ContractError.invalidAsset offerAsset.info.toString)
  liftStd (L.assertSentNativeTokenBalance offerAsset info.funds)
  let toAddr ← liftStd (L.addrOptValidate recipient)
  swap L q env s info.sender offerAsset beliefPrice maxSpread toAddr

theorem executeSwap_eq_ok {q : Querier} {env : Env} {s s' : Storage} {config : Config}
    {info : MessageInfo} {offerAsset : Asset} {beliefPrice maxSpread : Option Decimal256}
    {recipient : Option String} {r : Response}
    (h : executeSwap L q env s config info offerAsset beliefPrice maxSpread recipient = .ok (s', r)) :
    ∃ toAddr, swap L q env s info.sender offerAsset beliefPrice maxSpread toAddr = .ok (s', r) := by
  unfold executeSwap at h
  simp only [bind_eq_ok, liftStd_eq_ok] at h
  obtain ⟨_, -, _, -, _, -, toAddr, -, h⟩ := h
  exact ⟨toAddr, h⟩

end GridironPcl.Contract.Swap
