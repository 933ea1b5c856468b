import GridironPcl.Deps

namespace GridironPcl.Orderbook

open GridironPcl.Decimal GridironPcl.Assets GridironPcl.State GridironPcl.Deps

variable (L : Lib)

def firstTwo {α : Type} : List α → Except StdError (α × α)
  | a :: b :: _ => .ok (a, b)
  | _ => .error (.panic "index out of bounds")

def validateParam {α : Type} [LT α] [DecidableRel (α := α) (· < ·)] [ToString α]
    (name : String) (val min max : α) : Except StdError Unit :=
  if val < min ∨ max < val then
    .error (.genericErr ("Incorrect orderbook params: must be " ++ toString min ++ " <= " ++ name ++
      " <= " ++ toString max ++ ", but value is " ++ toString val))
  else .ok ()

theorem validateParam_eq_ok {α : Type} [LT α] [DecidableRel (α := α) (· < ·)] [ToString α]
    {name : String} {val min max : α} :
    validateParam name val min max = .ok () ↔ ¬ (val < min ∨ max < val) := by
  unfold validateParam
  split <;> simp_all

theorem validateParam_uint8 {name : String} {val min max : UInt8}
    (h : validateParam name val min max = .ok ()) : min ≤ val ∧ val ≤ max := by
  simpa only [validateParam_eq_ok, not_or, UInt8.not_lt] using h

theorem validateParam_uint32 {name : String} {val min max : UInt32}
    (h : validateParam name val min max = .ok ()) : min ≤ val ∧ val ≤ max := by
  simpa only [validateParam_eq_ok, not_or, UInt32.not_lt] using h

/-- Modelled from the spec: `calc_market_ids` (orderbook utilities) is not under src/. The pool
is integrated with the exchange's spot market of its two bank denoms, whose ids are derived from
the denoms in either order; a CW20 token has no such market, and the contract's
`unreachable!("CW20 tokens are prohibited")` relies on this function refusing one. -/
def calcMarketIds (assetInfos : List AssetInfo) : Except StdError (String × String) :=
  match assetInfos with
  | [.nativeToken base, .nativeToken quote] =>
      .ok (L.deriveMarketId base quote, L.deriveMarketId quote base)
  | _ => .error (.genericErr "CW20 tokens are prohibited")

theorem calcMarketIds_eq_ok {assetInfos : List AssetInfo} {ids : String × String}
    (h : calcMarketIds L assetInfos = .ok ids) :
    ∃ base quote, assetInfos = [.nativeToken base, .nativeToken quote] ∧
      ids = (L.deriveMarketId base quote, L.deriveMarketId quote base) := by
  unfold calcMarketIds at h
  split at h
  · exact ⟨_, _, rfl, (Except.ok.inj h).symm⟩
  · cases h

def validate (q : Querier) (assetInfos : List AssetInfo) (marketId : String) (ordersNumber : UInt8)
    (minTradesToAvg : UInt32) : Except StdError Unit := do
  validateParam "orders_number" ordersNumber L.orderSizeLimits.1 L.orderSizeLimits.2
  validateParam "min_trades_to_avg" minTradesToAvg L.minTradesToAvgLimits.1
    L.minTradesToAvgLimits.2
  let marketIds ← calcMarketIds L assetInfos
  if marketId = marketIds.2 then
    let (first, second) ← firstTwo assetInfos
    throw (.genericErr ("Pair asset infos have different order than market: " ++ first.toString ++
      "-" ++ second.toString ++ " while market has " ++ second.toString ++ "-" ++ first.toString))
  else if marketId ≠ marketIds.1 then
    throw (.genericErr ("Invalid market id. Must be: " ++ marketIds.1))
  q.marketValid marketId

theorem validate_eq_ok {q : Querier} {assetInfos : List AssetInfo} {marketId : String}
    {ordersNumber : UInt8} {minTradesToAvg : UInt32} {u : Unit}
    (h : validate L q assetInfos marketId ordersNumber minTradesToAvg = .ok u) :
    validateParam "orders_number" ordersNumber L.orderSizeLimits.1 L.orderSizeLimits.2 = .ok () ∧
      validateParam "min_trades_to_avg" minTradesToAvg L.minTradesToAvgLimits.1
        L.minTradesToAvgLimits.2 = .ok () ∧
      ∃ ids, calcMarketIds L assetInfos = .ok ids := by
  unfold validate at h
  simp only [bind_eq_ok] at h
  obtain ⟨⟨⟩, h1, ⟨⟩, h2, ids, h3, -⟩ := h
  exact ⟨h1, h2, ids, h3⟩

theorem validate_marketId {q : Querier} {assetInfos : List AssetInfo} {marketId : String}
    {ordersNumber : UInt8} {minTradesToAvg : UInt32} {u : Unit}
    (h : validate L q assetInfos marketId ordersNumber minTradesToAvg = .ok u) :
    ∃ base quote, assetInfos = [.nativeToken base, .nativeToken quote] ∧
      marketId = L.deriveMarketId base quote ∧ marketId ≠ L.deriveMarketId quote base := by
  unfold validate at h
  simp only [bind_eq_ok] at h
  obtain ⟨⟨⟩, -, ⟨⟩, -, ids, hids, h⟩ := h
  obtain ⟨base, quote, rfl, rfl⟩ := calcMarketIds_eq_ok L hids
  split_ifs at h with hrev hfwd
  · simp [bind_eq_ok] at h
  · simp [bind_eq_ok] at h
  · exact ⟨base, quote, rfl, not_not.1 hfwd, hrev⟩

/-- `OrderbookState::set_ticks`: cache the market's tick sizes, refusing an update that changes
nothing. -/
def setTicks (q : Querier) (ob : OrderbookState) (basePrecision : Nat) :
    Except StdError OrderbookState := do
  let some market ← q.spotMarket ob.marketId
    | throw (.genericErr ("Market " ++ ob.marketId ++ " was not found"))
  let newMinPriceTickSize := market.minPriceTickSize
  let newMinQuantityTickSize :=
    Decimal256.fromRatio (market.minQuantityTickSize.atoms / Decimal256.fractional) (Nat.pow 10 basePrecision)
  if newMinPriceTickSize = ob.minPriceTickSize ∧ newMinQuantityTickSize = ob.minQuantityTickSize then
    throw (.genericErr "Ticks are already up to date")
  pure { ob with minPriceTickSize := newMinPriceTickSize, minQuantityTickSize := newMinQuantityTickSize }

theorem setTicks_eq_ok {q : Querier} {ob ob' : OrderbookState} {basePrecision : Nat}
    (h : setTicks q ob basePrecision = .ok ob') :
    ∃ minPriceTickSize minQuantityTickSize,
      ob' = { ob with minPriceTickSize, minQuantityTickSize } := by
  unfold setTicks at h
  simp only [bind_eq_ok] at h
  obtain ⟨market, -, h⟩ := h
  split at h
  · split_ifs at h
    · simp at h
    · exact ⟨_, _, (Except.ok.inj h).symm⟩
  · simp at h

theorem setTicks_again {q q' : Querier} {ob ob' : OrderbookState} {basePrecision : Nat}
    (h : setTicks q ob basePrecision = .ok ob') (hmarket : q'.spotMarket = q.spotMarket) :
    setTicks q' ob' basePrecision = .error (.genericErr "Ticks are already up to date") := by
  unfold setTicks at h ⊢
  simp only [bind_eq_ok] at h
  obtain ⟨market, hm, h⟩ := h
  split at h
  · split_ifs at h
    · simp at h
    · cases h
      simp [hmarket, hm]
  · simp at h

def new (q : Querier) (env : Env) (marketId : String) (ordersNumber : UInt8) (minTradesToAvg : UInt32)
    (assetInfos : List AssetInfo) (basePrecision : Nat) : Except StdError OrderbookState := do
  let marketId ← L.marketIdNew marketId
  validate L q assetInfos marketId ordersNumber minTradesToAvg
  let (base, quote) ← firstTwo assetInfos
  setTicks q
    { marketId
      subaccount := L.getSubaccount env.contract
      assetInfos
      minPriceTickSize := .zero
      minQuantityTickSize := .zero
      needReconcile := true
      lastBalances := [base.withBalance 0, quote.withBalance 0]
      ordersNumber
      minTradesToAvg
      ready := false
      enabled := true } basePrecision

theorem new_eq_ok {q : Querier} {env : Env} {marketId : String} {ordersNumber : UInt8}
    {minTradesToAvg : UInt32} {assetInfos : List AssetInfo} {basePrecision : Nat}
    {ob : OrderbookState}
    (h : new L q env marketId ordersNumber minTradesToAvg assetInfos basePrecision = .ok ob) :
    ob.assetInfos = assetInfos ∧ ob.ordersNumber = ordersNumber ∧
      ob.minTradesToAvg = minTradesToAvg ∧
      ∃ marketId', validate L q assetInfos marketId' ordersNumber minTradesToAvg = .ok () := by
  unfold new at h
  simp only [bind_eq_ok] at h
  obtain ⟨marketId', -, ⟨⟩, hv, _, -, h⟩ := h
  obtain ⟨_, _, rfl⟩ := setTicks_eq_ok h
  exact ⟨rfl, rfl, rfl, marketId', hv⟩

theorem new_snapshot {q : Querier} {env : Env} {marketId : String} {ordersNumber : UInt8}
    {minTradesToAvg : UInt32} {assetInfos : List AssetInfo} {basePrecision : Nat}
    {ob : OrderbookState}
    (h : new L q env marketId ordersNumber minTradesToAvg assetInfos basePrecision = .ok ob) :
    ob.subaccount = L.getSubaccount env.contract ∧ ∃ base quote,
      firstTwo assetInfos = .ok (base, quote) ∧
      ob.lastBalances = [base.withBalance 0, quote.withBalance 0] := by
  unfold new at h
  simp only [bind_eq_ok] at h
  obtain ⟨_, -, ⟨⟩, -, ⟨base, quote⟩, hfirst, h⟩ := h
  obtain ⟨_, _, rfl⟩ := setTicks_eq_ok h
  exact ⟨rfl, base, quote, hfirst, rfl⟩

theorem new_market {q : Querier} {env : Env} {marketId : String} {ordersNumber : UInt8}
    {minTradesToAvg : UInt32} {assetInfos : List AssetInfo} {basePrecision : Nat}
    {ob : OrderbookState}
    (h : new L q env marketId ordersNumber minTradesToAvg assetInfos basePrecision = .ok ob) :
    ob.subaccount = L.getSubaccount env.contract ∧ ∃ base quote,
      ob.assetInfos = [.nativeToken base, .nativeToken quote] ∧
      ob.marketId = L.deriveMarketId base quote ∧ ob.marketId ≠ L.deriveMarketId quote base := by
  unfold new at h
  simp only [bind_eq_ok] at h
  obtain ⟨_, -, ⟨⟩, hv, _, -, h⟩ := h
  obtain ⟨_, _, rfl⟩ := setTicks_eq_ok h
  exact ⟨rfl, validate_marketId L hv⟩

def reconcile (ob : OrderbookState) : OrderbookState := { ob with needReconcile := true }

def reconciliationDone (ob : OrderbookState) (newBalances : List Asset) : OrderbookState :=
  { ob with needReconcile := false, lastBalances := newBalances }

def ready (ob : OrderbookState) (ready : Bool) : OrderbookState := { ob with ready }

def updateOrdersNumber (s : Storage) (ordersNumber : UInt8) : Except StdError Storage := do
  validateParam "orders_number" ordersNumber L.orderSizeLimits.1 L.orderSizeLimits.2
  let some ob := s.obState | throw (.notFound "OrderbookState")
  pure { s with obState := some { ob with ordersNumber } }

theorem updateOrdersNumber_eq_ok {s s' : Storage} {ordersNumber : UInt8}
    (h : updateOrdersNumber L s ordersNumber = .ok s') :
    validateParam "orders_number" ordersNumber L.orderSizeLimits.1 L.orderSizeLimits.2 = .ok () ∧
      ∃ ob, s.obState = some ob ∧ s' = { s with obState := some { ob with ordersNumber } } := by
  unfold updateOrdersNumber at h
  simp only [bind_eq_ok] at h
  obtain ⟨⟨⟩, hv, h⟩ := h
  split at h
  · exact ⟨hv, _, ‹_›, (Except.ok.inj h).symm⟩
  · simp at h

/-- Modelled from the spec: `get_subaccount_balances` (orderbook utilities) is not under src/.
It reads the subaccount's deposit of each pool asset. -/
def getSubaccountBalances (assetInfos : List AssetInfo) (q : Querier) (subaccount : String) :
    List Asset :=
  assetInfos.map fun info => info.withBalance (q.deposit subaccount info.toString)

/-- Modelled from the spec: `leave_orderbook` (orderbook utilities) is not under src/. As its
callers describe it, it cancels the pair's orders and withdraws the whole given balance of the
subaccount to the contract. -/
def leaveOrderbook (ob : OrderbookState) (balances : List Asset) : Response :=
  ⟨.cancelAllOrders ob.subaccount ob.marketId ::
      (balances.filter (fun a => a.amount ≠ 0)).map
        (fun a => .subaccountWithdraw ob.subaccount a.info.toString a.amount), []⟩

end GridironPcl.Orderbook
