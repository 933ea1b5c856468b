import GridironPcl.Contract.Provide

namespace GridironPcl.Contract.Withdraw

open GridironPcl.Decimal GridironPcl.Assets GridironPcl.State GridironPcl.Deps GridironPcl.Utils
open GridironPcl.Contract.Instantiate

variable (L : Lib)

/-- Modelled from the spec: `Asset::into_msg` (`gridiron::asset`) is not under src/. A bank send, or
a CW20 transfer. -/
def Asset.intoMsg (a : Asset) (recipient : Addr) : Msg :=
  match a.info with
  | .nativeToken denom => .bankSend recipient ⟨denom, a.amount⟩
  | .token contractAddr => .cw20Transfer contractAddr recipient a.amount

def lacksLiquidity (refundAssets contractBalances : List DecimalAsset) : Except StdError Bool := do
  let r0 ← index refundAssets 0
  let r1 ← index refundAssets 1
  let c0 ← index contractBalances 0
  let c1 ← index contractBalances 1
  pure (c0.amount < r0.amount ∨ c1.amount < r1.amount)

/-- Lines 643-647: the balances left after the refund, repriced; `-=` panics on underflow. -/
def subtractRefunds (xs : List Decimal256) (refundAssets : List DecimalAsset)
    (priceScale : Decimal256) : Except StdError (List Decimal256) := do
  let r0 ← index refundAssets 0
  let r1 ← index refundAssets 1
  let x0 ← (← index xs 0).sub r0.amount
  let x1 ← (← index xs 1).sub r1.amount
  let x1 ← x1.mul priceScale
  pure ((xs.set 0 x0).set 1 x1)

/-- Line 652: `total_share - amount` on `Uint128`, which panics on underflow. -/
def lpLeft (totalShare amount : Nat) : Except StdError Nat :=
  if amount ≤ totalShare then .ok (totalShare - amount)
  else .error (.panic "attempt to subtract with overflow")

def withdrawXcpProfitReal (config : Config) (env : Env) (xs : List Decimal256)
    (totalShare amount : Nat) : Except ContractError Decimal256 := do
  let priceScale := config.poolState.priceState.priceScale
  let d ← liftStd (L.calcD xs (L.getAmpGamma config.poolState env))
  let left ← liftStd (lpLeft totalShare amount)
  liftStd ((L.getXcp d priceScale).div (Decimal256.withPrecision left lpTokenPrecision))

def refundsToUint (precisions : Precisions) (refundAssets : List DecimalAsset) :
    Except ContractError (List Asset) :=
  refundAssets.mapM fun asset =>
    match getPrecision precisions asset.info with
    | .ok prec => match asset.amount.toUint prec with
      | some amount => .ok ⟨asset.info, amount⟩
      | none => .error (.std .conversionOverflow)
    | .error _ => .error (.std (.panic "called `Result::unwrap()` on an `Err` value"))

theorem refundsToUint_infos {precisions : Precisions} {refundAssets : List DecimalAsset}
    {refunds : List Asset} (h : refundsToUint precisions refundAssets = .ok refunds) :
    refunds.map (·.info) = refundAssets.map (·.info) := by
  replace h := mapM_eq_ok h
  induction h with
  | nil => rfl
  | cons hb _ ih =>
      split at hb
      · split at hb <;> cases hb
        simp [ih]
      · cases hb

def withdrawLiquidity (q : Querier) (env : Env) (s : Storage) (info : MessageInfo) (sender : Addr)
    (amount : Nat) (assets : List Asset) : Except ContractError (Storage × Response) := do
  let config ← s.loadConfig
  ensure (info.sender = config.pairInfo.liquidityToken) ContractError.unauthorized
  let ob ← s.loadObState
  let pools ← queryPools q config ob s.precisions
  let totalShare ← liftStd (q.supply config.pairInfo.liquidityToken)
  ensure (assets.isEmpty = true) (genericErr "Imbalanced withdraw is currently disabled")
  let refundAssets := getShareInAssets pools (amount - 1) totalShare
  let contractBalances ← queryContractBalances q config s.precisions
  let response :=
    if ← liftStd (lacksLiquidity refundAssets contractBalances) then
      Orderbook.leaveOrderbook ob
        (Orderbook.getSubaccountBalances config.pairInfo.assetInfos q ob.subaccount)
    else Response.empty
  let xs ← liftStd (subtractRefunds (pools.map (·.amount)) refundAssets
    config.poolState.priceState.priceScale)
  let xcpProfitReal ← withdrawXcpProfitReal L config env xs totalShare amount
  let config := { config with poolState := { config.poolState with
    priceState := { config.poolState.priceState with xcpProfitReal } } }
  let refundAssets ← refundsToUint s.precisions refundAssets
  pure ({ s with config := some config, obState := some (Orderbook.reconcile ob) },
    (response.addMessages (refundAssets.map (Asset.intoMsg · sender) ++
      [.cw20Burn config.pairInfo.liquidityToken amount])).addAttributes
      [("action", "withdraw_liquidity"), ("sender", sender), ("withdrawn_share", Nat.repr amount),
        ("refund_assets", ", ".intercalate (refundAssets.map Asset.toString))])

theorem withdrawLiquidity_eq_ok {q : Querier} {env : Env} {s s' : Storage} {info : MessageInfo}
    {sender : Addr} {amount : Nat} {assets : List Asset} {r : Response}
    (h : withdrawLiquidity L q env s info sender amount assets = .ok (s', r)) :
    ∃ config ob pools totalShare contractBalances leave xs xcpProfitReal refunds,
      s.config = some config ∧ info.sender = config.pairInfo.liquidityToken ∧
      s.obState = some ob ∧ queryPools q config ob s.precisions = .ok pools ∧
      q.supply config.pairInfo.liquidityToken = .ok totalShare ∧ assets = [] ∧
      queryContractBalances q config s.precisions = .ok contractBalances ∧
      lacksLiquidity (getShareInAssets pools (amount - 1) totalShare) contractBalances = .ok leave ∧
      subtractRefunds (pools.map (·.amount)) (getShareInAssets pools (amount - 1) totalShare)
        config.poolState.priceState.priceScale = .ok xs ∧
      withdrawXcpProfitReal L config env xs totalShare amount = .ok xcpProfitReal ∧
      refundsToUint s.precisions (getShareInAssets pools (amount - 1) totalShare) = .ok refunds ∧
      s' = { s with
        config := some { config with poolState := { config.poolState with
          priceState := { config.poolState.priceState with xcpProfitReal } } }
        obState := some (Orderbook.reconcile ob) } ∧
      r.messages = (if leave then (Orderbook.leaveOrderbook ob (Orderbook.getSubaccountBalances
          config.pairInfo.assetInfos q ob.subaccount)).messages else []) ++
        (refunds.map (Asset.intoMsg · sender) ++ [.cw20Burn config.pairInfo.liquidityToken amount]) := by
  unfold withdrawLiquidity at h
  simp only [bind_eq_ok, liftStd_eq_ok, pure_eq_ok, ensure_eq_ok, Except.ok.injEq, Prod.mk.injEq,
    Storage.loadConfig_eq_ok, Storage.loadObState_eq_ok, List.isEmpty_iff] at h
  obtain ⟨config, hc, _, hs, ob, ho, pools, hp, ts, hts, _, ha, cb, hcb, leave, hl, xs, hxs, xpr, hxpr,
    refunds, hr, rfl, rfl⟩ := h
  refine ⟨config, ob, pools, ts, cb, leave, xs, xpr, refunds, hc, hs, ho, hp, hts, ha, hcb, hl, hxs,
    hxpr, hr, rfl, ?_⟩
  cases leave <;> simp [Response.addMessages, Response.addAttributes, Response.empty]

theorem withdrawLiquidity_imbalanced {q : Querier} {env : Env} {s : Storage} {info : MessageInfo}
    {sender : Addr} {amount : Nat} {a : Asset} {assets : List Asset} {res : Storage × Response} :
    withdrawLiquidity L q env s info sender amount (a :: assets) ≠ .ok res := fun h => by
  obtain ⟨_, _, _, _, _, _, _, _, _, -, -, -, -, -, ha, -⟩ := withdrawLiquidity_eq_ok L h
  cases ha

end GridironPcl.Contract.Withdraw
