import GridironPcl.Contract.Execute
import GridironPcl.Cw20

namespace GridironPcl.System

open GridironPcl.Decimal GridironPcl.Assets GridironPcl.State GridironPcl.Deps GridironPcl.Utils
open GridironPcl.Contract.Instantiate GridironPcl.Contract.Execute GridironPcl.Cw20

/-- What the rest of the chain answers to the pair's queries at one moment: the factory, the
coin registry, the exchange module and the CW20 pool assets. -/
structure External where
  cw20Balance : Addr → Nat
  decimals : AssetInfo → Except StdError Nat
  pairRegistered : Except StdError Bool
  feeAddress : Option Addr
  makerFeeRate : Decimal256
  factoryOwner : Except StdError Addr
  generator : Option Addr
  contractActive : Bool
  allowedForBeginBlocker : Bool
  spotMarket : String → Except StdError (Option SpotMarket)
  marketValid : String → Except StdError Unit
  lpTokenName : List AssetInfo → Except StdError String

/-- The pair and what it acts on: its storage, its bank balances, its subaccount's deposits and
the LP token contract. `unsettled` is a ghost: the net change of the deposits made by orderbook
fills since the contract last passed them to `process_cumulative_trade`. -/
structure World where
  store : Storage
  balances : String → Nat
  deposits : String → Nat
  lpCreated : Bool
  ledger : Ledger
  unsettled : String → Int

/-- A chain event: an entry point of the pair, or an action of another party. -/
inductive Event where
  | instantiate (x : External) (time : Nat) (msg : InstantiateMsg)
  | reply (msg : Reply)
  | execute (x : External) (time : Nat) (info : MessageInfo) (msg : ExecuteMsg)
  | lpTransfer (owner recipient : Addr) (amount : Nat)
  | lpBurn (owner : Addr) (amount : Nat)
  | lpSend (x : External) (time : Nat) (owner : Addr) (amount : Nat) (hook : Option Cw20HookMsg)
  | fill (denom : String) (delta : Int)
  | beginBlocker (x : External) (time : Nat) (moved : List Coin)
  | donate (coin : Coin)

def setAt (f : String → Nat) (denom : String) (n : Nat) : String → Nat :=
  fun d => if d = denom then n else f d

@[simp] theorem setAt_apply (f : String → Nat) (denom d : String) (n : Nat) :
    setAt f denom n d = if d = denom then n else f d := rfl

variable (L : Lib) (pair token : Addr)

def World.init : World := ⟨Storage.empty, fun _ => 0, fun _ => 0, false, [], fun _ => 0⟩

def World.querier (w : World) (x : External) : Querier where
  balance := w.balances
  deposit sub denom := if sub = L.getSubaccount pair then w.deposits denom else 0
  supply addr := if addr = token ∧ w.lpCreated = true then .ok (supply w.ledger)
    else .error (.genericErr "Querier system error: No such contract")
  cw20Balance := x.cw20Balance
  decimals := x.decimals
  pairRegistered := x.pairRegistered
  feeAddress := x.feeAddress
  makerFeeRate := x.makerFeeRate
  factoryOwner := x.factoryOwner
  generator := x.generator
  contractActive := x.contractActive
  allowedForBeginBlocker := x.allowedForBeginBlocker
  spotMarket := x.spotMarket
  marketValid := x.marketValid
  lpTokenName := x.lpTokenName

def credit (balances : String → Nat) (coin : Coin) : String → Nat :=
  setAt balances coin.denom (balances coin.denom + coin.amount)

def lpExec (w : World) (ledger : Option Ledger) : Option World :=
  if w.lpCreated then ledger.map fun ledger => { w with ledger } else none

/-- One message of a response, executed with the pair as sender. The ledgers of CW20 pool
assets are not modelled: a transfer of one succeeds and changes nothing here. -/
def execMsg (w : World) : Msg → Option World
  | .bankSend toAddress coin =>
      if coin.amount ≤ w.balances coin.denom then
        let balances := setAt w.balances coin.denom (w.balances coin.denom - coin.amount)
        some { w with balances := if toAddress = pair then credit balances coin else balances }
      else none
  | .cw20Transfer t recipient amount =>
      if t = token then lpExec w (transfer w.ledger pair recipient amount) else some w
  | .cw20Mint t recipient amount =>
      if t = token then lpExec w (mint w.ledger recipient amount) else none
  | .cw20Send t contract amount =>
      if t = token then lpExec w (transfer w.ledger pair contract amount) else none
  | .cw20Burn t amount =>
      if t = token then lpExec w (burn w.ledger pair amount) else none
  | .instantiateLpToken _ _ _ => some { w with lpCreated := true }
  | .cancelAllOrders _ _ => some w
  | .subaccountWithdraw sub denom amount =>
      if sub = L.getSubaccount pair ∧ amount ≤ w.deposits denom then
        some { w with
          deposits := setAt w.deposits denom (w.deposits denom - amount)
          balances := credit w.balances ⟨denom, amount⟩ }
      else none

def execMsgs (w : World) (msgs : List Msg) : Option World := msgs.foldlM (execMsg L pair token) w

/-- A handler's result: on success its storage is written and its messages run; a failure
anywhere reverts the whole transaction. -/
def commit (w : World) : Except ContractError (Storage × Response) → Option World
  | .ok (store, response) => execMsgs L pair token { w with store } response.messages
  | .error _ => none

def deposit (w : World) (coin : Coin) : Option World :=
  if coin.amount ≤ w.balances coin.denom then
    some { w with
      balances := setAt w.balances coin.denom (w.balances coin.denom - coin.amount)
      deposits := setAt w.deposits coin.denom (w.deposits coin.denom + coin.amount) }
  else none

/-- Modelled from the spec: the begin blocker (the chain's `sudo` entry point) is not under src/,
and the spec leaves reconciliation to a separate system. As the orderbook state's comments and
the handlers' "in case begin blocker logic wasn't executed" branches describe it, it processes a
difference of the subaccount balances from the snapshot as `orderbook_emergency_withdraw` does,
moves pair funds into the subaccount, and ends with `reconciliation_done`. -/
def beginBlocker (w : World) (x : External) (time : Nat) (moved : List Coin) : Option World := do
  let ob ← w.store.obState
  let q := w.querier L pair token x
  let balances := Orderbook.getSubaccountBalances ob.assetInfos q ob.subaccount
  let (store, makerFees) ← (settlePending L q ⟨time, pair⟩ w.store ob balances).toOption
  let w ← execMsgs L pair token
    { w with
      store
      unsettled := if ob.lastBalances ≠ balances then fun _ => 0 else w.unsettled }
    (makerFees.map fun (recipient, coin) => .bankSend recipient coin)
  let w ← moved.foldlM deposit w
  let newBalances := Orderbook.getSubaccountBalances ob.assetInfos (w.querier L pair token x)
    ob.subaccount
  pure { w with store := { w.store with
    obState := some (Orderbook.reconciliationDone ob newBalances) } }

/-- Whether an entry point passes the subaccount's unprocessed difference to
`process_cumulative_trade`: provide, swap and the emergency withdrawal do, when the snapshot
differs from the subaccount balances. -/
def passesTrade (msg : ExecuteMsg) (s : Storage) (q : Querier) : Bool :=
  match msg, s.obState with
  | .provideLiquidity .., some ob | .swap .., some ob | .withdrawFromOrderbook, some ob =>
      decide (ob.lastBalances ≠ Orderbook.getSubaccountBalances ob.assetInfos q ob.subaccount)
  | _, _ => false

/-- The chain's reaction to an event: `none` when the transaction fails, which leaves the world
as it was. Only the LP token contract calls `Receive` on the pair, and only from a `Send`; the
pair itself never moves its LP tokens but through its own messages. -/
def step (w : World) : Event → Option World
  | .instantiate x time msg =>
      if w.store.config = none then
        commit L pair token w (instantiate L (w.querier L pair token x) ⟨time, pair⟩ w.store msg)
      else none
  | .reply msg => commit L pair token w (reply L w.store msg)
  | .execute x time info msg =>
      if info.sender ≠ token ∧ info.sender ≠ "" then
        let w := { w with balances := info.funds.foldl credit w.balances }
        let q := w.querier L pair token x
        (commit L pair token w (execute L q ⟨time, pair⟩ w.store info msg)).map fun w' =>
          if passesTrade msg w.store q then { w' with unsettled := fun _ => 0 } else w'
      else none
  | .lpTransfer owner recipient amount =>
      if owner ≠ pair then lpExec w (transfer w.ledger owner recipient amount) else none
  | .lpBurn owner amount =>
      if owner ≠ pair then lpExec w (burn w.ledger owner amount) else none
  | .lpSend x time owner amount hook =>
      if owner ≠ pair then do
        let w ← lpExec w (transfer w.ledger owner pair amount)
        commit L pair token w (execute L (w.querier L pair token x) ⟨time, pair⟩ w.store
          ⟨token, []⟩ (.receive ⟨owner, amount, hook⟩))
      else none
  | .fill denom delta =>
      if 0 ≤ (w.deposits denom : Int) + delta then
        some { w with
          deposits := setAt w.deposits denom ((w.deposits denom : Int) + delta).toNat
          unsettled := fun d => if d = denom then w.unsettled d + delta else w.unsettled d }
      else none
  | .beginBlocker x time moved => beginBlocker L pair token w x time moved
  | .donate coin => some { w with balances := credit w.balances coin }

/-- The worlds a run of events reaches from before the pair's instantiation. -/
inductive Reachable : World → Prop
  | init : Reachable (World.init)
  | step {w w' : World} (e : Event) : Reachable w → step L pair token w e = some w' → Reachable w'

/-- The worlds a run of events reaches from `w`. -/
inductive Run : World → World → Prop
  | refl (w : World) : Run w w
  | step {w w' w'' : World} (e : Event) : Run w w' → step L pair token w' e = some w'' → Run w w''

variable {L pair token}

theorem reachable_of_run {w w' : World} (hw : Reachable L pair token w) (h : Run L pair token w w') :
    Reachable L pair token w' := by
  induction h with
  | refl => exact hw
  | step e _ hs ih => exact .step e ih hs

theorem reachable_induction {P : World → Prop} (h0 : P World.init)
    (hstep : ∀ w w' e, Reachable L pair token w → P w → step L pair token w e = some w' → P w')
    {w : World} (hw : Reachable L pair token w) : P w := by
  induction hw with
  | init => exact h0
  | step e hw hs ih => exact hstep _ _ e hw ih hs

theorem run_cons {w w₁ w' : World} (e : Event) (hs : step L pair token w e = some w₁)
    (h : Run L pair token w₁ w') : Run L pair token w w' := by
  induction h with
  | refl => exact .step e (.refl w) hs
  | step e' _ hs' ih => exact .step e' ih hs'

theorem run_of_foldlM : ∀ {es : List Event} {w w' : World},
    es.foldlM (step L pair token) w = some w' → Run L pair token w w'
  | [], _, _, h => by cases h; exact .refl _
  | e :: es, w, w', h => by
      simp only [List.foldlM_cons] at h
      obtain ⟨w₁, h₁, h⟩ := Option.bind_eq_some.1 h
      exact run_cons e h₁ (run_of_foldlM h)

theorem lpExec_eq_some {w w' : World} {ledger : Option Ledger} (h : lpExec w ledger = some w') :
    w.lpCreated = true ∧ ∃ l, ledger = some l ∧ w' = { w with ledger := l } := by
  unfold lpExec at h
  split_ifs at h with hc
  obtain ⟨l, hl, rfl⟩ := Option.map_eq_some'.1 h
  exact ⟨hc, l, hl, rfl⟩

theorem lpExec_frame {w w' : World} {ledger : Option Ledger} (h : lpExec w ledger = some w') :
    w'.store = w.store ∧ w'.unsettled = w.unsettled := by
  obtain ⟨-, _, -, rfl⟩ := lpExec_eq_some h
  exact ⟨rfl, rfl⟩

theorem execMsg_frame {w w' : World} {m : Msg} (h : execMsg L pair token w m = some w') :
    w'.store = w.store ∧ w'.unsettled = w.unsettled := by
  cases m <;> simp only [execMsg] at h <;> (try split_ifs at h) <;>
    first | exact lpExec_frame h | (cases h; exact ⟨rfl, rfl⟩)

theorem foldlM_keeps {α β : Type} {f : World → α → Option World} (g : World → β) :
    ∀ {l : List α} {w w' : World}, (∀ w a w', a ∈ l → f w a = some w' → g w' = g w) →
      l.foldlM f w = some w' → g w' = g w
  | [], _, _, _, h => by cases h; rfl
  | a :: l, w, w', hf, h => by
      simp only [List.foldlM_cons] at h
      obtain ⟨w₁, h₁, h⟩ := Option.bind_eq_some.1 h
      exact (foldlM_keeps g (fun v b v' hb => hf v b v' (.tail _ hb)) h).trans
        (hf _ _ _ (.head _) h₁)

theorem execMsgs_frame {msgs : List Msg} {w w' : World}
    (h : execMsgs L pair token w msgs = some w') :
    w'.store = w.store ∧ w'.unsettled = w.unsettled :=
  Prod.mk.inj (foldlM_keeps (fun w => (w.store, w.unsettled))
    (fun _ _ _ _ h => Prod.ext (execMsg_frame h).1 (execMsg_frame h).2) h)

theorem deposit_frame {w w' : World} {coin : Coin} (h : deposit w coin = some w') :
    w'.store = w.store ∧ w'.ledger = w.ledger ∧ w'.unsettled = w.unsettled := by
  unfold deposit at h
  split_ifs at h
  cases h
  exact ⟨rfl, rfl, rfl⟩

theorem commit_eq_some {w w' : World} {res : Except ContractError (Storage × Response)}
    (h : commit L pair token w res = some w') :
    ∃ r, res = .ok (w'.store, r) ∧ w'.unsettled = w.unsettled ∧
      execMsgs L pair token { w with store := w'.store } r.messages = some w' := by
  rcases res with _ | ⟨store, r⟩
  · cases h
  · obtain ⟨hs, hu⟩ := execMsgs_frame h
    exact ⟨r, by rw [hs], hu, by rw [hs]; exact h⟩

theorem step_execute_eq_some {w w' : World} {x : External} {time : Nat} {info : MessageInfo}
    {msg : ExecuteMsg} (h : step L pair token w (.execute x time info msg) = some w') :
    let w₀ := { w with balances := info.funds.foldl credit w.balances }
    info.sender ≠ token ∧ ∃ w₁ r,
      execute L (w₀.querier L pair token x) ⟨time, pair⟩ w.store info msg = .ok (w₁.store, r) ∧
      execMsgs L pair token { w₀ with store := w₁.store } r.messages = some w₁ ∧
      w₁.unsettled = w.unsettled ∧
      w' = if passesTrade msg w.store (w₀.querier L pair token x) then
        { w₁ with unsettled := fun _ => 0 } else w₁ := by
  simp only [step] at h
  by_cases hs : info.sender ≠ token ∧ info.sender ≠ ""
  · rw [if_pos hs] at h
    obtain ⟨w₁, h₁, rfl⟩ := Option.map_eq_some'.1 h
    obtain ⟨r, hr, hu, hexec⟩ := commit_eq_some h₁
    exact ⟨hs.1, w₁, r, hr, hexec, hu, rfl⟩
  · rw [if_neg hs] at h
    cases h

theorem beginBlocker_store {w w' : World} {x : External} {time : Nat} {moved : List Coin}
    (h : beginBlocker L pair token w x time moved = some w') :
    ∃ ob store makerFees newBalances, w.store.obState = some ob ∧
      settlePending L (w.querier L pair token x) ⟨time, pair⟩ w.store ob
        (Orderbook.getSubaccountBalances ob.assetInfos (w.querier L pair token x) ob.subaccount) =
        .ok (store, makerFees) ∧
      w'.store = { store with obState := some (Orderbook.reconciliationDone ob newBalances) } := by
  simp only [beginBlocker, Option.bind_eq_bind, Option.bind_eq_some, Option.pure_def,
    Option.some.injEq] at h
  obtain ⟨ob, ho, ⟨store, fees⟩, hsettle, w₁, h₁, w₂, h₂, rfl⟩ := h
  refine ⟨ob, store, fees,
    Orderbook.getSubaccountBalances ob.assetInfos (w₂.querier L pair token x) ob.subaccount, ho,
    toOption_eq_some.1 hsettle, ?_⟩
  have hs : w₂.store = store :=
    (foldlM_keeps (·.store) (fun _ _ _ _ h => (deposit_frame h).1) h₂).trans (execMsgs_frame h₁).1
  simp [hs]

/-- A library of simple functions of each type: every asset check passes, `D` is the sum of the
balances and a swap pays out its offer one for one. It runs the model on concrete inputs. -/
def sampleLib : Lib where
  minimumLiquidityAmount := 1000
  minimumLiquidityAmount_pos := by decide
  minTradeSize := ⟨Nat.pow 10 12⟩
  orderSizeLimits := (1, 30)
  minTradesToAvgLimits := (1, 1000)
  addrValidate a := if a = "" then .error (.genericErr "Invalid input: human address too short")
    else .ok a
  addrValidate_ne_empty a b h := by
    dsimp only at h
    split at h
    · cases h
    · exact Except.ok.inj h ▸ ‹a ≠ ""›
  parseInstantiateResponse data := .ok data
  marketIdNew marketId := .ok marketId
  deriveMarketId base quote := base ++ "/" ++ quote
  getSubaccount contract := contract ++ "/subaccount"
  checkAssetInfos _ := .ok ()
  checkAssets _ := .ok ()
  assertCoinsProperlySent _ _ _ := .ok ()
  checkAssetInfo _ := .ok ()
  assertSentNativeTokenBalance _ _ := .ok ()
  ampGammaNew amp gamma := .ok ⟨amp, gamma⟩
  updateParams params _ := .ok (params, [])
  getAmpGamma poolState _ := poolState.future
  promoteParams poolState _ _ := .ok poolState
  stopPromotion poolState _ := poolState
  calcD xs _ := .ok ⟨xs.foldr (fun x d => x.atoms + d) 0⟩
  getXcp d _ := d
  calcProvideFee _ _ _ := .zero
  assertSlippageTolerance _ _ _ _ := .ok .zero
  updatePrice poolState _ _ _ _ _ := .ok poolState
  beforeSwapCheck _ _ := .ok ()
  computeSwap _ offer _ _ _ _ := .ok ⟨offer, .zero, .zero, .zero⟩
  calcLastPrice _ _ _ := .one
  assertMaxSpread _ _ _ _ _ := .ok ()
  processCumulativeTrade _ _ _ config xs _ _ _ := .ok (config.poolState, xs, [])
  accumulateSwapSizes _ ob := .ok ob.ready
  proposeNewOwner _ env owner expiresIn _ := .ok (⟨owner, env.time + expiresIn⟩, [])
  dropOwnershipProposal _ _ := .ok []
  claimOwnership _ _ proposal := match proposal with
    | some p => .ok (p.owner, [])
    | none => .error (.genericErr "Ownership proposal not found")

/-- Chain answers under which the sample pair instantiates: six decimals for every asset, a spot
market with nonzero ticks, an active contract. -/
def sampleExternal : External where
  cw20Balance _ := 0
  decimals _ := .ok 6
  pairRegistered := .ok true
  feeAddress := none
  makerFeeRate := .zero
  factoryOwner := .ok "owner"
  generator := none
  contractActive := true
  allowedForBeginBlocker := true
  spotMarket _ := .ok (some ⟨⟨Nat.pow 10 15⟩, ⟨Nat.pow 10 15⟩⟩)
  marketValid _ := .ok ()
  lpTokenName _ := .ok "LP"

def sampleInstantiateMsg : InstantiateMsg :=
  ⟨[.nativeToken "base", .nativeToken "quote"], 1, "factory",
    some (some ⟨⟨⟨Nat.pow 10 19⟩, ⟨Nat.pow 10 14⟩, .zero, .zero, .zero, .zero, .zero, Decimal256.one,
      600⟩, ⟨"base/quote", 5, 10⟩⟩)⟩

/-- Instantiate, record the LP token, a first provide of 100000 of each denom, and a begin blocker
that moves all of it into the subaccount. -/
def fundedRun : List Event :=
  [.instantiate sampleExternal 0 sampleInstantiateMsg,
    .reply ⟨1, .ok (some "lp")⟩,
    .execute sampleExternal 1 ⟨"alice", [⟨"base", 100000⟩, ⟨"quote", 100000⟩]⟩
      (.provideLiquidity [⟨.nativeToken "base", 100000⟩, ⟨.nativeToken "quote", 100000⟩] none none
        none),
    .beginBlocker sampleExternal 2 [⟨"base", 100000⟩, ⟨"quote", 100000⟩]]

def fundedWorld : World :=
  (fundedRun.foldlM (step sampleLib "pair" "lp") World.init).getD World.init

theorem fundedRun_steps :
    fundedRun.foldlM (step sampleLib "pair" "lp") World.init = some fundedWorld :=
  (Option.getD_of_ne_none (Option.ne_none_iff_isSome.2 (by decide)) _).symm

end GridironPcl.System
