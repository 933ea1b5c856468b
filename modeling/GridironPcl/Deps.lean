import GridironPcl.State

namespace GridironPcl.Deps

open GridironPcl.Decimal GridironPcl.Assets GridironPcl.State

structure Env where
  time : Nat
  contract : Addr
  deriving DecidableEq, Repr

structure MessageInfo where
  sender : Addr
  funds : List Coin
  deriving DecidableEq, Repr

/-- The messages the pair's responses carry. Their effect on the chain is given by the system
model; exchange messages act on the pair's subaccount. -/
inductive Msg where
  | bankSend (toAddress : Addr) (coin : Coin)
  | cw20Transfer (token recipient : Addr) (amount : Nat)
  | cw20Mint (token recipient : Addr) (amount : Nat)
  | cw20Send (token contract : Addr) (amount : Nat)
  | cw20Burn (token : Addr) (amount : Nat)
  | instantiateLpToken (codeId : Nat) (name : String) (minter : Addr)
  | cancelAllOrders (subaccount : String) (marketId : String)
  | subaccountWithdraw (subaccount : String) (denom : String) (amount : Nat)
  deriving DecidableEq, Repr

structure Response where
  messages : List Msg
  attributes : List (String × String)
  deriving DecidableEq, Repr

def Response.empty : Response := ⟨[], []⟩

def Response.addMessages (r : Response) (ms : List Msg) : Response :=
  { r with messages := r.messages ++ ms }

def Response.addAttributes (r : Response) (attrs : List (String × String)) : Response :=
  { r with attributes := r.attributes ++ attrs }

structure SpotMarket where
  minPriceTickSize : Decimal256
  minQuantityTickSize : Decimal256
  deriving DecidableEq, Repr

/-- What the chain answers to the pair's queries at one moment: the pair's own bank balances
and subaccount deposits, the token contracts, the factory and the exchange module. -/
structure Querier where
  balance : String → Nat
  deposit : String → String → Nat
  supply : Addr → Except StdError Nat
  cw20Balance : Addr → Nat
  decimals : AssetInfo → Except StdError Nat
  pairRegistered : Except StdError Bool
  feeAddress : Option Addr
  makerFeeRate : Decimal256
  factoryOwner : Except StdError Addr
  generator : Option Addr
  contractActive : Bool
  allowedForBeginBlocker : Bool
  spotMarket : String → Except StdError (Option SpotMarket)
  marketValid : String → Except StdError Unit
  lpTokenName : List AssetInfo → Except StdError String

structure SwapResult where
  dy : Decimal256
  spreadFee : Decimal256
  makerFee : Decimal256
  totalFee : Decimal256
  deriving DecidableEq, Repr

/-- The code the pair calls that is not part of this development's source: the constants and
helpers of `gridiron::asset`, `gridiron::pair` and `orderbook::consts`, the pool math of
`gridiron_pcl_common`, the orderbook utilities, the ownership helpers and the chain's address
API. Every result of the development holds for all of them; the two properties below are the
only ones assumed, the positivity that the spec promises of `MINIMUM_LIQUIDITY_AMOUNT` and the
API's refusal of the empty address. -/
structure Lib where
  minimumLiquidityAmount : Nat
  minimumLiquidityAmount_pos : 0 < minimumLiquidityAmount
  minTradeSize : Decimal256
  orderSizeLimits : UInt8 × UInt8
  minTradesToAvgLimits : UInt32 × UInt32
  addrValidate : String → Except StdError Addr
  addrValidate_ne_empty : ∀ s a, addrValidate s = .ok a → a ≠ ""
  parseInstantiateResponse : String → Except String String
  marketIdNew : String → Except StdError String
  deriveMarketId : String → String → String
  getSubaccount : Addr → String
  checkAssetInfos : List AssetInfo → Except ContractError Unit
  checkAssets : List Asset → Except ContractError Unit
  assertCoinsProperlySent : List Coin → List Asset → List AssetInfo → Except StdError Unit
  checkAssetInfo : AssetInfo → Except StdError Unit
  assertSentNativeTokenBalance : Asset → List Coin → Except StdError Unit
  ampGammaNew : Decimal256 → Decimal256 → Except ContractError AmpGamma
  updateParams : PoolParams → UpdatePoolParams → Except ContractError (PoolParams × List (String × String))
  getAmpGamma : PoolState → Env → AmpGamma
  promoteParams : PoolState → Env → PromoteParams → Except ContractError PoolState
  stopPromotion : PoolState → Env → PoolState
  calcD : List Decimal256 → AmpGamma → Except StdError Decimal256
  getXcp : Decimal256 → Decimal256 → Decimal256
  calcProvideFee : List Decimal256 → List Decimal256 → PoolParams → Decimal256
  assertSlippageTolerance :
    List Decimal256 → Decimal256 → PriceState → Option Decimal256 → Except ContractError Decimal256
  updatePrice :
    PoolState → PoolParams → Env → Decimal256 → List Decimal256 → Decimal256 →
      Except ContractError PoolState
  beforeSwapCheck : List DecimalAsset → Decimal256 → Except ContractError Unit
  computeSwap :
    List Decimal256 → Decimal256 → Nat → Config → Env → Decimal256 → Except ContractError SwapResult
  calcLastPrice : SwapResult → Decimal256 → Nat → Decimal256
  assertMaxSpread :
    Option Decimal256 → Option Decimal256 → Nat → Nat → Nat → Except ContractError Unit
  processCumulativeTrade :
    Querier → Env → OrderbookState → Config → List Decimal256 → List Asset → Nat → Nat →
      Except StdError (PoolState × List Decimal256 × List (Addr × Coin))
  accumulateSwapSizes : Env → OrderbookState → Except ContractError Bool
  proposeNewOwner :
    MessageInfo → Env → String → Nat → Addr → Except StdError (OwnershipProposal × List (String × String))
  dropOwnershipProposal : MessageInfo → Addr → Except StdError (List (String × String))
  claimOwnership :
    MessageInfo → Env → Option OwnershipProposal → Except StdError (Addr × List (String × String))

def Lib.addrOptValidate (L : Lib) : Option String → Except StdError (Option Addr)
  | none => .ok none
  | some s => (L.addrValidate s).map some

end GridironPcl.Deps
