import GridironPcl.Assets

namespace GridironPcl.State

open GridironPcl.Decimal GridironPcl.Assets

/-- `ContractError` of the pair (`error.rs`). Errors of the pool math crate and of the
orderbook helpers reach it as `pclError` and `std`. -/
inductive ContractError where
  | std (err : StdError)
  | conversionOverflowError
  | overflowError
  | pclError (msg : String)
  | unauthorized
  | initParamsNotFound
  | invalidZeroAmount
  | minimumLiquidityAmountError
  | failedToParseReply
  | pairIsNotRegistered
  | invalidNumberOfAssets (n : Nat)
  | invalidAsset (asset : String)
  | notSupported
  deriving DecidableEq, Repr

instance : Coe StdError ContractError := ⟨.std⟩

def genericErr (msg : String) : ContractError := .std (.genericErr msg)

/-- Lifts a `StdResult` into the contract's result type, as `?` does. -/
def liftStd {α : Type} : Except StdError α → Except ContractError α
  | .ok a => .ok a
  | .error e => .error (.std e)

def liftConversion : Option Nat → Except ContractError Nat
  | some n => .ok n
  | none => .error .conversionOverflowError

@[simp] theorem liftConversion_eq_ok {o : Option Nat} {n : Nat} :
    liftConversion o = .ok n ↔ o = some n := by
  cases o <;> simp [liftConversion]

@[simp] theorem liftStd_eq_ok {α : Type} {x : Except StdError α} {a : α} :
    liftStd x = .ok a ↔ x = .ok a := by
  cases x <;> simp [liftStd]

theorem bind_eq_ok {ε α β : Type} {x : Except ε α} {f : α → Except ε β} {b : β} :
    x >>= f = .ok b ↔ ∃ a, x = .ok a ∧ f a = .ok b := by
  cases x <;> simp [bind, Except.bind]

@[simp] theorem throw_eq_error {ε α : Type} (e : ε) : (throw e : Except ε α) = .error e := rfl

@[simp] theorem pure_eq_ok {ε α : Type} (a : α) : (pure a : Except ε α) = .ok a := rfl

@[simp] theorem error_bind {ε α β : Type} (e : ε) (f : α → Except ε β) :
    (Except.error e : Except ε α) >>= f = .error e := rfl

@[simp] theorem ok_bind {ε α β : Type} (a : α) (f : α → Except ε β) :
    (Except.ok a : Except ε α) >>= f = f a := rfl

@[simp] theorem mapError_eq_ok {ε ε' α : Type} {x : Except ε α} {f : ε → ε'} {a : α} :
    x.mapError f = .ok a ↔ x = .ok a := by
  cases x <;> simp [Except.mapError]

@[simp] theorem toOption_eq_some {ε α : Type} {x : Except ε α} {a : α} :
    x.toOption = some a ↔ x = .ok a := by
  cases x <;> simp [Except.toOption]

theorem mapM_eq_ok {ε α β : Type} {f : α → Except ε β} :
    ∀ {l : List α} {l' : List β}, l.mapM f = .ok l' → List.Forall₂ (fun a b => f a = .ok b) l l'
  | [], l', h => by
      simp only [List.mapM_nil, pure_eq_ok, Except.ok.injEq] at h
      exact h ▸ .nil
  | a :: l, l', h => by
      simp only [List.mapM_cons, bind_eq_ok, pure_eq_ok, Except.ok.injEq] at h
      obtain ⟨b, hb, bs, hbs, rfl⟩ := h
      exact .cons hb (mapM_eq_ok hbs)

theorem mapM_ok_of_mem {ε α β : Type} {f : α → Except ε β} {l : List α} {l' : List β}
    (h : l.mapM f = .ok l') {a : α} (ha : a ∈ l) : ∃ b ∈ l', f a = .ok b := by
  replace h := mapM_eq_ok h
  induction h with
  | nil => cases ha
  | cons hb _ ih =>
      rcases List.mem_cons.1 ha with rfl | ha
      · exact ⟨_, .head _, hb⟩
      · obtain ⟨b, hb', hfb⟩ := ih ha
        exact ⟨b, .tail _ hb', hfb⟩

theorem mapM_ok_of_forall {ε α β : Type} {f : α → Except ε β} :
    ∀ {l : List α}, (∀ a ∈ l, ∃ b, f a = .ok b) → ∃ l', l.mapM f = .ok l'
  | [], _ => ⟨[], rfl⟩
  | a :: l, h => by
      obtain ⟨b, hb⟩ := h a (.head _)
      obtain ⟨l', hl'⟩ := mapM_ok_of_forall fun x hx => h x (.tail _ hx)
      exact ⟨b :: l', by rw [List.mapM_cons, hb, ok_bind, hl']; rfl⟩

theorem mapM_ne_error {ε α β : Type} {f : α → Except ε β} {e : ε} :
    ∀ {l : List α}, (∀ a ∈ l, f a ≠ .error e) → l.mapM f ≠ .error e
  | [], _ => by
      rw [List.mapM_nil]
      exact fun h => nomatch h
  | a :: l, h => by
      have ih := mapM_ne_error fun x hx => h x (.tail _ hx)
      rw [List.mapM_cons]
      rcases hfa : f a with e' | b
      · simpa [hfa] using h a (.head _)
      · rcases hl : l.mapM f with e' | bs
        · rw [hl] at ih
          simpa using ih
        · exact fun h => nomatch h

/-- The guard `if !c { return Err(e) }` of a handler, as one step of its computation. -/
def ensure {ε : Type} (c : Prop) [Decidable c] (e : ε) : Except ε Unit :=
  if c then .ok () else .error e

@[simp] theorem ensure_eq_ok {ε : Type} {c : Prop} [Decidable c] {e : ε} {u : Unit} :
    ensure c e = .ok u ↔ c := by
  unfold ensure
  split <;> simp_all

inductive PairType where
  | xyk
  | stable
  | custom (name : String)
  deriving DecidableEq, Repr

structure PairInfo where
  contractAddr : Addr
  liquidityToken : Addr
  assetInfos : List AssetInfo
  pairType : PairType
  deriving DecidableEq, Repr

structure AmpGamma where
  amp : Decimal256
  gamma : Decimal256
  deriving DecidableEq, Repr

structure PriceState where
  oraclePrice : Decimal256
  lastPrice : Decimal256
  priceScale : Decimal256
  lastPriceUpdate : Nat
  xcpProfit : Decimal256
  xcpProfitReal : Decimal256
  deriving DecidableEq, Repr

structure PoolState where
  initial : AmpGamma
  future : AmpGamma
  initialTime : Nat
  futureTime : Nat
  priceState : PriceState
  deriving DecidableEq, Repr

structure PoolParams where
  midFee : Decimal256
  outFee : Decimal256
  feeGamma : Decimal256
  repegProfitThreshold : Decimal256
  minPriceScaleDelta : Decimal256
  maHalfTime : Nat
  deriving DecidableEq, Repr

def PoolParams.default : PoolParams := ⟨.zero, .zero, .zero, .zero, .zero, 0⟩

structure UpdatePoolParams where
  midFee : Option Decimal256
  outFee : Option Decimal256
  feeGamma : Option Decimal256
  repegProfitThreshold : Option Decimal256
  minPriceScaleDelta : Option Decimal256
  maHalfTime : Option Nat
  deriving DecidableEq, Repr

structure PromoteParams where
  nextAmp : Decimal256
  nextGamma : Decimal256
  futureTime : Nat
  deriving DecidableEq, Repr

structure FeeShareConfig where
  bps : Nat
  recipient : Addr
  deriving DecidableEq, Repr

structure Config where
  pairInfo : PairInfo
  factoryAddr : Addr
  poolParams : PoolParams
  poolState : PoolState
  owner : Option Addr
  trackAssetBalances : Bool
  feeShare : Option FeeShareConfig
  deriving DecidableEq, Repr

structure OwnershipProposal where
  owner : Addr
  ttl : Nat
  deriving DecidableEq, Repr

/-- `Precisions`: the decimals of each pool asset, stored at instantiation under the asset's
string form. -/
abbrev Precisions := List (String × Nat)

/-- Modelled from the spec: `Precisions::get_precision` (pcl_common) is not under src/. It reads the
stored decimals of an asset, and so rejects an asset that is not in the pool. -/
def getPrecision (precisions : Precisions) (info : AssetInfo) : Except ContractError Nat :=
  match precisions.lookup info.toString with
  | some p => .ok p
  | none => .error (.pclError ("The asset " ++ info.toString ++ " does not belong to the pair"))

/-- `OrderbookState` (`orderbook/state.rs`), stored under `orderbook_config`. -/
structure OrderbookState where
  marketId : String
  subaccount : String
  assetInfos : List AssetInfo
  minPriceTickSize : Decimal256
  minQuantityTickSize : Decimal256
  needReconcile : Bool
  lastBalances : List Asset
  ordersNumber : UInt8
  minTradesToAvg : UInt32
  ready : Bool
  enabled : Bool
  deriving DecidableEq, Repr

/-- The contract's storage items that the modelled entry points read or write: `CONFIG`,
`orderbook_config`, the precisions and `OWNERSHIP_PROPOSAL`. -/
structure Storage where
  config : Option Config
  obState : Option OrderbookState
  precisions : Precisions
  proposal : Option OwnershipProposal
  deriving DecidableEq, Repr

def Storage.empty : Storage := ⟨none, none, [], none⟩

def Storage.loadConfig (s : Storage) : Except ContractError Config :=
  match s.config with
  | some c => .ok c
  | none => .error (.std (.notFound "Config"))

def Storage.loadObState (s : Storage) : Except ContractError OrderbookState :=
  match s.obState with
  | some ob => .ok ob
  | none => .error (.std (.notFound "OrderbookState"))

@[simp] theorem Storage.loadConfig_eq_ok {s : Storage} {c : Config} :
    s.loadConfig = .ok c ↔ s.config = some c := by
  unfold Storage.loadConfig; split <;> simp_all

@[simp] theorem Storage.loadObState_eq_ok {s : Storage} {ob : OrderbookState} :
    s.loadObState = .ok ob ↔ s.obState = some ob := by
  unfold Storage.loadObState; split <;> simp_all

end GridironPcl.State
