import GridironPcl.System

namespace GridironPcl.Contract.ProvideOrder

open GridironPcl.Decimal GridironPcl.Assets GridironPcl.State GridironPcl.Deps GridironPcl.Utils
open GridironPcl.Contract.Provide GridironPcl.System

variable {L : Lib}

/-- The order of a two-asset deposit list does not matter when exactly one entry names the pool's
first asset and the library's checks do not look at the order: the reorder of lines 416-418 brings
both lists to the pool's order before anything reads them, so both orders fail with the same error
or store the same state and send the same response. -/
theorem provideLiquidity_order_irrelevant {q : Querier} {env : Env} {s : Storage}
    {info : MessageInfo} {a b : Asset} {slippageTolerance : Option Decimal256}
    {autoStake : Option Bool} {receiver : Option String} {config : Config}
    (hc : s.config = some config) (hhead : config.pairInfo.assetInfos.head? = some a.info)
    (hb : b.info ≠ a.info) (hchecks : L.checkAssets [b, a] = L.checkAssets [a, b])
    (hcoins : L.assertCoinsProperlySent info.funds [b, a] config.pairInfo.assetInfos =
      L.assertCoinsProperlySent info.funds [a, b] config.pairInfo.assetInfos) :
    provideLiquidity L q env s info [b, a] slippageTolerance autoStake receiver =
      provideLiquidity L q env s info [a, b] slippageTolerance autoStake receiver := by
  have hload : s.loadConfig = .ok config := Storage.loadConfig_eq_ok.2 hc
  simp only [provideLiquidity, provideChecks, completeAssets, hload, ok_bind, bind_assoc, pure_bind,
    hchecks, hcoins, provideCompute_swap L hhead hb]

def bobDeposit : List Asset := [⟨.nativeToken "quote", 5000⟩, ⟨.nativeToken "base", 3000⟩]

theorem provideLiquidity_order_irrelevant_funded :
    fundedWorld.store.config.map (·.pairInfo.assetInfos) =
        some [.nativeToken "base", .nativeToken "quote"] ∧
      provideLiquidity sampleLib (fundedWorld.querier sampleLib "pair" "lp" sampleExternal)
          ⟨3, "pair"⟩ fundedWorld.store ⟨"bob", [⟨"base", 3000⟩, ⟨"quote", 5000⟩]⟩ bobDeposit
          none none none =
        provideLiquidity sampleLib (fundedWorld.querier sampleLib "pair" "lp" sampleExternal)
          ⟨3, "pair"⟩ fundedWorld.store ⟨"bob", [⟨"base", 3000⟩, ⟨"quote", 5000⟩]⟩
          bobDeposit.reverse none none none :=
  ⟨by decide, provideLiquidity_order_irrelevant
    (Option.some_get (by decide : fundedWorld.store.config.isSome = true)).symm (by decide)
    (by decide) rfl rfl⟩

end GridironPcl.Contract.ProvideOrder
