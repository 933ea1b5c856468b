import GridironPcl.Orderbook

namespace GridironPcl.Utils

open GridironPcl.Decimal GridironPcl.Assets GridironPcl.State GridironPcl.Deps

/-- `v[i]` on a vector, which panics out of bounds. -/
def index {α : Type} (l : List α) (i : Nat) : Except StdError α :=
  match l.get? i with
  | some a => .ok a
  | none => .error (.panic "index out of bounds")

theorem index_mem {α : Type} {l : List α} {i : Nat} {a : α} (h : index l i = .ok a) : a ∈ l := by
  unfold index at h
  split at h
  · cases h
    exact List.get?_mem ‹_›
  · cases h

/-- `v[i] op= x` on a vector, which panics out of bounds and where the operator does. -/
def modifyIndex {α : Type} (l : List α) (i : Nat) (f : α → Except StdError α) :
    Except StdError (List α) := do
  let a ← index l i
  let b ← f a
  pure (l.set i b)

def contractBalance (q : Querier) : AssetInfo → Nat
  | .nativeToken denom => q.balance denom
  | .token contractAddr => q.cw20Balance contractAddr

/-- Modelled from the spec: `query_contract_balances` (the pair's utilities) is not under src/.
It reads the pair's own holding of each pool asset at the asset's precision. -/
def queryContractBalances (q : Querier) (config : Config) (precisions : Precisions) :
    Except ContractError (List DecimalAsset) :=
  config.pairInfo.assetInfos.mapM fun info => do
    let p ← getPrecision precisions info
    pure ⟨info, Decimal256.withPrecision (contractBalance q info) p⟩

/-- Modelled from the spec: `query_pools` (the pair's utilities) is not under src/. The pool
balance of an asset is what the pair holds plus what its orderbook subaccount holds, at the
asset's precision. -/
def queryPools (q : Querier) (config : Config) (ob : OrderbookState) (precisions : Precisions) :
    Except ContractError (List DecimalAsset) :=
  config.pairInfo.assetInfos.mapM fun info => do
    let p ← getPrecision precisions info
    pure ⟨info, Decimal256.withPrecision
      (contractBalance q info + q.deposit ob.subaccount info.toString) p⟩

theorem queryPools_infos {q : Querier} {config : Config} {ob : OrderbookState}
    {precisions : Precisions} {pools : List DecimalAsset}
    (h : queryPools q config ob precisions = .ok pools) :
    pools.map (·.info) = config.pairInfo.assetInfos := by
  replace h := mapM_eq_ok h
  generalize config.pairInfo.assetInfos = infos at h
  induction h with
  | nil => rfl
  | cons hb _ ih =>
      simp only [bind_eq_ok, pure_eq_ok, Except.ok.injEq] at hb
      obtain ⟨_, _, rfl⟩ := hb
      simp [ih]

theorem queryPools_ok {q : Querier} {config : Config} {ob : OrderbookState} {precisions : Precisions}
    (hp : ∀ info ∈ config.pairInfo.assetInfos, ∃ p, getPrecision precisions info = .ok p) :
    ∃ pools, queryPools q config ob precisions = .ok pools :=
  mapM_ok_of_forall fun info hi => by
    obtain ⟨p, hp⟩ := hp info hi
    exact ⟨_, by simp only [hp, ok_bind]; rfl⟩

/-- Modelled from the spec: `get_share_in_assets` (pool math crate) is not under src/. Each
refund is `pools[i].amount * amount / total_share`, rounded down (the caller passes
`lp_amount - 1` as `amount`). -/
def getShareInAssets (pools : List DecimalAsset) (amount totalShare : Nat) : List DecimalAsset :=
  pools.map fun pool => ⟨pool.info, ⟨pool.amount.atoms * amount / totalShare⟩⟩

@[simp] theorem getShareInAssets_infos (pools : List DecimalAsset) (amount totalShare : Nat) :
    (getShareInAssets pools amount totalShare).map (·.info) = pools.map (·.info) := by
  simp [getShareInAssets]

theorem getShareInAssets_le {pools : List DecimalAsset} {amount totalShare : Nat}
    (h : amount ≤ totalShare) :
    List.Forall₂ (fun r p => r.info = p.info ∧ r.amount ≤ p.amount)
      (getShareInAssets pools amount totalShare) pools := by
  induction pools with
  | nil => exact .nil
  | cons p ps ih =>
      refine .cons ⟨rfl, ?_⟩ ih
      rcases Nat.eq_zero_or_pos totalShare with h0 | hpos
      · simp [h0]
      · exact Nat.div_le_of_le_mul (by rw [Nat.mul_comm]; exact Nat.mul_le_mul_right _ h)

/-- Modelled from the spec: `mint_liquidity_token_message` (pool math crate) is not under src/.
It mints `amount` LP tokens to the recipient; with auto-stake the tokens are minted to the pair
and sent on to the generator, and without a generator it fails. -/
def mintLiquidityTokenMessage (q : Querier) (config : Config) (contract recipient : Addr)
    (amount : Nat) (autoStake : Bool) : Except ContractError (List Msg) :=
  let lpToken := config.pairInfo.liquidityToken
  if !autoStake then .ok [.cw20Mint lpToken recipient amount]
  else match q.generator with
    | some generator => .ok [.cw20Mint lpToken contract amount, .cw20Send lpToken generator amount]
    | none => .error (.pclError "Auto stake is disabled")

theorem mintLiquidityTokenMessage_eq_ok {q : Querier} {config : Config} {contract recipient : Addr}
    {amount : Nat} {autoStake : Bool} {msgs : List Msg}
    (h : mintLiquidityTokenMessage q config contract recipient amount autoStake = .ok msgs) :
    msgs = [.cw20Mint config.pairInfo.liquidityToken recipient amount] ∨
      ∃ generator, msgs = [.cw20Mint config.pairInfo.liquidityToken contract amount,
        .cw20Send config.pairInfo.liquidityToken generator amount] := by
  unfold mintLiquidityTokenMessage at h
  split_ifs at h
  · exact .inl (Except.ok.inj h).symm
  · split at h
    · exact .inr ⟨_, (Except.ok.inj h).symm⟩
    · cases h

end GridironPcl.Utils
