import GridironPcl.Run.Snapshot
import GridironPcl.Run.RoundTrip

namespace GridironPcl.Run.Lifecycle

open GridironPcl.Decimal GridironPcl.Assets GridironPcl.State GridironPcl.Deps GridironPcl.Utils
open GridironPcl.Contract.Instantiate GridironPcl.Contract.Provide GridironPcl.Contract.Withdraw
open GridironPcl.Contract.Swap GridironPcl.Contract.Execute GridironPcl.System GridironPcl.Frame
open GridironPcl.Run.Storage GridironPcl.Run.Ledger GridironPcl.Run.Snapshot GridironPcl.Run.RoundTrip

variable {L : Lib} {pair token : Addr}

theorem execMsgs_deposit_emptied {w w' : World} {msgs : List Msg} {sub denom : String}
    (h : execMsgs L pair token w msgs = some w')
    (hwd : w.deposits denom ≠ 0 → .subaccountWithdraw sub denom (w.deposits denom) ∈ msgs) :
    w'.deposits denom = 0 := by
  by_cases hd : w.deposits denom = 0
  · have := execMsgs_deposits_le h denom
    omega
  · exact execMsgs_withdraw_zero h (hwd hd) le_rfl

theorem step_execute_flow {w w' : World} {x : External} {time : Nat} {info : MessageInfo}
    {msg : ExecuteMsg} (h : step L pair token w (.execute x time info msg) = some w') :
    ∃ r, execute L (({ w with balances := info.funds.foldl credit w.balances }).querier L pair
        token x) ⟨time, pair⟩ w.store info msg = .ok (w'.store, r) ∧
      (∀ denom, holdings w' denom + total (paidOut pair denom) r.messages =
        holdings w denom + sent info.funds denom) ∧
      ∀ sub denom, (w.deposits denom ≠ 0 →
        .subaccountWithdraw sub denom (w.deposits denom) ∈ r.messages) → w'.deposits denom = 0 := by
  obtain ⟨-, w₁, r, hr, hexec, -, hw'⟩ := step_execute_eq_some h
  have hv : w'.store = w₁.store ∧ w'.balances = w₁.balances ∧ w'.deposits = w₁.deposits := by
    rw [hw']
    split <;> exact ⟨rfl, rfl, rfl⟩
  refine ⟨r, hv.1 ▸ hr, fun d => ?_, fun sub d hwd => hv.2.2 ▸ execMsgs_deposit_emptied hexec hwd⟩
  have := execMsgs_holdings d hexec
  simp only [holdings, foldl_credit_apply] at this ⊢
  rw [hv.2.1, hv.2.2]
  omega

def isOwnership : ExecuteMsg → Bool
  | .proposeNewOwner .. | .dropOwnershipProposal | .claimOwnership => true
  | _ => false

def setsEnabled : ExecuteMsg → Bool
  | .provideLiquidity .. | .swap .. => true
  | _ => false

def EnabledWrite (msg : ExecuteMsg) (allowed active enabled : Bool) : Prop :=
  setsEnabled msg = true ∧ enabled = allowed ∨
    msg = .withdrawFromOrderbook ∧ active = false ∧ enabled = false

/-- What a change of the stored state keeps beyond `Keeps`, and where it may write: never the
precisions; the owner only where `claim` holds, clearing the proposal; the proposal only where
`propose` holds; and of the orderbook state never the market nor the subaccount, and `enabled`
only to a value `enable` allows. -/
structure Writes (claim propose : Prop) (enable : Bool → Prop) (s s' : Storage) : Prop where
  precisions : s'.precisions = s.precisions
  owner : s'.config.map (·.owner) = s.config.map (·.owner) ∨ claim ∧ s'.proposal = none
  proposal : s'.proposal = s.proposal ∨ propose
  orderbook : ∀ ob, s.obState = some ob → ∃ ob', s'.obState = some ob' ∧
    ob'.marketId = ob.marketId ∧ ob'.subaccount = ob.subaccount ∧
    (ob'.enabled = ob.enabled ∨ enable ob'.enabled)

section Writes

variable {claim propose : Prop} {enable : Bool → Prop} {s s' : Storage}

theorem Writes.refl (s : Storage) : Writes claim propose enable s s :=
  ⟨rfl, .inl rfl, .inl rfl, fun ob ho => ⟨ob, ho, rfl, rfl, .inl rfl⟩⟩

theorem Writes.mono {claim' propose' : Prop} {enable' : Bool → Prop}
    (h : Writes claim propose enable s s') (hc : claim → claim') (hp : propose → propose')
    (he : ∀ b, enable b → enable' b) : Writes claim' propose' enable' s s' :=
  ⟨h.precisions, h.owner.imp_right (And.imp_left hc), h.proposal.imp_right hp,
    fun ob ho => (h.orderbook ob ho).imp fun _ ⟨h₁, h₂, h₃, h₄⟩ => ⟨h₁, h₂, h₃, h₄.imp_right (he _)⟩⟩

theorem orderbook_write {ob ob' : OrderbookState} (ho : s.obState = some ob)
    (hmarket : ob'.marketId = ob.marketId) (hsub : ob'.subaccount = ob.subaccount)
    (hen : ob'.enabled = ob.enabled ∨ enable ob'.enabled) (ob₀ : OrderbookState)
    (ho₀ : s.obState = some ob₀) :
    ∃ ob'', some ob' = some ob'' ∧ ob''.marketId = ob₀.marketId ∧ ob''.subaccount = ob₀.subaccount ∧
      (ob''.enabled = ob₀.enabled ∨ enable ob''.enabled) := by
  obtain rfl := Option.some.inj (ho.symm.trans ho₀)
  exact ⟨ob', rfl, hmarket, hsub, hen⟩

theorem Writes.obState {ob ob' : OrderbookState} (ho : s.obState = some ob)
    (hmarket : ob'.marketId = ob.marketId) (hsub : ob'.subaccount = ob.subaccount)
    (hen : ob'.enabled = ob.enabled ∨ enable ob'.enabled) :
    Writes claim propose enable s { s with obState := some ob' } :=
  ⟨rfl, .inl rfl, .inl rfl, orderbook_write ho hmarket hsub hen⟩

theorem Writes.write {config config' : Config} {ob ob' : OrderbookState}
    (hc : s.config = some config) (ho : s.obState = some ob) (howner : config'.owner = config.owner)
    (hmarket : ob'.marketId = ob.marketId) (hsub : ob'.subaccount = ob.subaccount)
    (hen : ob'.enabled = ob.enabled ∨ enable ob'.enabled) :
    Writes claim propose enable s { s with config := some config', obState := some ob' } :=
  ⟨rfl, .inl (by simp [hc, howner]), .inl rfl, orderbook_write ho hmarket hsub hen⟩

theorem Writes.settle {q : Querier} {env : Env} {s₁ : Storage} {ob ob' : OrderbookState}
    {balances : List Asset} {makerFees : List (Addr × Coin)}
    (h : settlePending L q env s ob balances = .ok (s₁, makerFees)) (ho : s.obState = some ob)
    (hmarket : ob'.marketId = ob.marketId) (hsub : ob'.subaccount = ob.subaccount)
    (hen : ob'.enabled = ob.enabled ∨ enable ob'.enabled) :
    Writes claim propose enable s { s₁ with obState := some ob' } := by
  rcases settlePending_eq_ok L h with rfl | ⟨config, _, hc, rfl⟩
  · exact .obState ho hmarket hsub hen
  · exact .write hc ho rfl hmarket hsub hen

end Writes

theorem execute_writes {q : Querier} {env : Env} {s s' : Storage} {info : MessageInfo}
    {msg : ExecuteMsg} {r : Response} (h : execute L q env s info msg = .ok (s', r)) :
    Writes (msg = .claimOwnership) (isOwnership msg = true)
      (EnabledWrite msg q.allowedForBeginBlocker q.contractActive) s s' := by
  unfold execute at h
  simp only [bind_eq_ok, Storage.loadConfig_eq_ok] at h
  obtain ⟨_, -, h⟩ := h
  cases msg with
  | receive cw20Msg =>
      dsimp only [receiveCw20] at h
      split at h
      · obtain ⟨_, _, _, _, _, _, _, _, _, hc, -, ho, -, -, -, -, -, -, -, -, rfl, -⟩ :=
          withdrawLiquidity_eq_ok L h
        exact .write hc ho rfl rfl rfl (.inl rfl)
      · simp at h
      · simp at h
  | provideLiquidity =>
      obtain ⟨_, _, _, _, _, _, _, hc, ho, -, -, -, rfl, -⟩ := provideLiquidity_eq_ok L h
      exact .write hc ho rfl rfl rfl (.inr (.inl ⟨rfl, rfl⟩))
  | swap =>
      obtain ⟨_, h⟩ := executeSwap_eq_ok L h
      obtain ⟨_, _, _, -, hc, ho, rfl, -⟩ := swap_eq_ok L h
      exact .write hc ho rfl rfl rfl (.inr (.inl ⟨rfl, rfl⟩))
  | updateConfig =>
      obtain ⟨config, _, _, _, _, _, hc, -, -, -, happly, rfl, -⟩ := updateConfig_eq_ok L h
      rcases applyUpdateParams_eq_ok L happly with ⟨rfl, hcfg⟩ | ⟨rfl, n, ob, -, ho, rfl⟩
      · obtain ⟨_, rfl⟩ | ⟨_, rfl⟩ := hcfg <;>
          exact ⟨rfl, .inl (by simp [hc]), .inl rfl, fun ob ho => ⟨ob, ho, rfl, rfl, .inl rfl⟩⟩
      · exact .write hc ho rfl rfl rfl (.inl rfl)
  | proposeNewOwner | dropOwnershipProposal =>
      simp only [bind_eq_ok, liftStd_eq_ok, pure_eq_ok, Except.ok.injEq, Prod.mk.injEq] at h
      obtain ⟨_, -, _, -, rfl, -⟩ := h
      exact ⟨rfl, .inl rfl, .inr rfl, fun ob ho => ⟨ob, ho, rfl, rfl, .inl rfl⟩⟩
  | claimOwnership =>
      simp only [bind_eq_ok, liftStd_eq_ok, pure_eq_ok, Except.ok.injEq, Prod.mk.injEq,
        Storage.loadConfig_eq_ok] at h
      obtain ⟨_, -, _, -, rfl, -⟩ := h
      exact ⟨rfl, .inr ⟨rfl, rfl⟩, .inr rfl, fun ob ho => ⟨ob, ho, rfl, rfl, .inl rfl⟩⟩
  | withdrawFromOrderbook =>
      obtain ⟨_, _, _, _, _, _, _, hact, ho, -, -, hsettle, -, rfl, -⟩ :=
        orderbookEmergencyWithdraw_eq_ok L h
      exact .settle hsettle ho rfl rfl (.inr (.inr ⟨rfl, hact, rfl⟩))
  | updateMarketTicks =>
      obtain ⟨ob, _, ho, ⟨_, hticks⟩, rfl, -⟩ := updateMarketTicks_eq_ok h
      obtain ⟨_, _, rfl⟩ := Orderbook.setTicks_eq_ok hticks
      exact .obState ho rfl rfl (.inl rfl)

/-- From any instantiated world, a step writes the stored state only as an entry point allows:
it never writes the precisions, nor the orderbook's market and subaccount; the owner only by an
`execute` of `claim_ownership`, which clears the proposal; the proposal only by an `execute` of
an ownership message; and `enabled` only as `EnabledWrite` says. A reply, a token move, a fill,
a begin blocker or a withdrawal through a `Send` writes none of them. -/
theorem step_writes {w w' : World} {e : Event} {config : Config} (hc : w.store.config = some config)
    (h : step L pair token w e = some w') :
    Writes (∃ x time info, e = .execute x time info .claimOwnership)
      (∃ x time info msg, e = .execute x time info msg ∧ isOwnership msg = true)
      (fun b => ∃ x time info msg, e = .execute x time info msg ∧
        EnabledWrite msg x.allowedForBeginBlocker x.contractActive b) w.store w'.store := by
  cases e with
  | instantiate => simp [step, hc] at h
  | reply msg =>
      obtain ⟨r, hr, -⟩ := commit_eq_some h
      obtain ⟨_, _, _, _, -, hc', -, -, -, hs, -⟩ := reply_eq_ok L hr
      rw [hs]
      exact ⟨rfl, .inl (by simp [hc']), .inl rfl, fun ob ho => ⟨ob, ho, rfl, rfl, .inl rfl⟩⟩
  | execute x time info msg =>
      obtain ⟨r, hr, -⟩ := step_execute_flow h
      exact (execute_writes hr).mono (fun h => ⟨x, time, info, h ▸ rfl⟩)
        (fun h => ⟨x, time, info, msg, rfl, h⟩) (fun _ h => ⟨x, time, info, msg, rfl, h⟩)
  | lpTransfer | lpBurn =>
      simp only [step] at h
      split_ifs at h
      rw [(lpExec_frame h).1]
      exact .refl _
  | lpSend x time owner amount hook =>
      simp only [step] at h
      split_ifs at h
      obtain ⟨w₁, h₁, h⟩ := Option.bind_eq_some.1 h
      obtain ⟨r, hr, -⟩ := commit_eq_some h
      rw [← (lpExec_frame h₁).1]
      exact (execute_writes hr).mono (fun h => nomatch h) (fun h => nomatch h)
        (fun _ h => by rcases h with ⟨h, -⟩ | ⟨h, -⟩ <;> cases h)
  | fill =>
      simp only [step] at h
      split_ifs at h
      cases h
      exact .refl _
  | beginBlocker x time moved =>
      obtain ⟨ob, _, _, _, ho, hsettle, hs⟩ := beginBlocker_store h
      rw [hs]
      exact .settle hsettle ho rfl rfl (.inl rfl)
  | donate =>
      cases h
      exact .refl _

def proposeEvent : Event :=
  .execute sampleExternal 3 ⟨"owner", []⟩ (.proposeNewOwner "bob" 100)

def claimEvent : Event := .execute sampleExternal 4 ⟨"bob", []⟩ .claimOwnership

def proposedWorld : World :=
  (step sampleLib "pair" "lp" fundedWorld proposeEvent).getD World.init

def claimedWorld : World := (step sampleLib "pair" "lp" proposedWorld claimEvent).getD World.init

theorem step_writes_claim :
    step sampleLib "pair" "lp" proposedWorld claimEvent = some claimedWorld ∧
      claimedWorld.store.config.map (·.owner) ≠ proposedWorld.store.config.map (·.owner) ∧
      Writes (∃ x time info, claimEvent = .execute x time info .claimOwnership)
        (∃ x time info msg, claimEvent = .execute x time info msg ∧ isOwnership msg = true)
        (fun b => ∃ x time info msg, claimEvent = .execute x time info msg ∧
          EnabledWrite msg x.allowedForBeginBlocker x.contractActive b)
        proposedWorld.store claimedWorld.store :=
  have h : step sampleLib "pair" "lp" proposedWorld claimEvent = some claimedWorld :=
    (Option.getD_of_ne_none (Option.ne_none_iff_isSome.2 (by decide)) _).symm
  ⟨h, by decide, step_writes (Option.some_get (by decide)).symm h⟩

variable (L pair) in
/-- The stored orderbook state belongs to an instantiated pair: it names the pair's subaccount,
two distinct bank denoms, and the market of those denoms in their order. -/
def BoundToPair (w : World) : Prop :=
  ∀ ob, w.store.obState = some ob → w.store.config ≠ none ∧ ob.subaccount = L.getSubaccount pair ∧
    ∃ base quote, ob.assetInfos = [.nativeToken base, .nativeToken quote] ∧
      ob.marketId = L.deriveMarketId base quote ∧ ob.marketId ≠ L.deriveMarketId quote base

theorem boundToPair_step {w w' : World} {e : Event} (hinv : BoundToPair L pair w)
    (h : step L pair token w e = some w') : BoundToPair L pair w' := by
  intro ob' ho'
  rcases step_store h with ⟨-, x, time, msg, r, -, hi⟩ | ⟨msg, r, -, hr⟩ | hk
  · obtain ⟨c, ob, _, _, hc, hob, -, -, -, -, hnew, -⟩ := instantiate_eq_ok L hi
    obtain rfl := Option.some.inj (hob.symm.trans ho')
    exact ⟨by simp [hc], Orderbook.new_market L hnew⟩
  · obtain ⟨_, _, _, _, -, -, -, -, -, hs, -⟩ := reply_eq_ok L hr
    rw [hs] at ho' ⊢
    exact ⟨by simp, (hinv ob' ho').2⟩
  · obtain ⟨ob, ho, -⟩ := hk.obState_of_new ho'
    obtain ⟨hc, hsub, base, quote, hinfos, hmarket, hne⟩ := hinv ob ho
    obtain ⟨ob₁, ho₁, hinfos₁, hmarket₁, hsub₁⟩ := hk.obState_of_old ho
    obtain rfl := Option.some.inj (ho₁.symm.trans ho')
    obtain ⟨config, hc⟩ := Option.ne_none_iff_exists'.1 hc
    obtain ⟨c', hc', -⟩ := hk.config_of_old hc
    exact ⟨by simp [hc'], hsub₁.trans hsub, base, quote, hinfos₁.trans hinfos,
      hmarket₁.trans hmarket, hmarket₁ ▸ hne⟩

theorem reachable_boundToPair {w : World} (hw : Reachable L pair token w) : BoundToPair L pair w :=
  reachable_induction (fun _ h => nomatch h) (fun _ _ _ _ => boundToPair_step) hw

theorem BoundToPair.distinct {w : World} (hb : BoundToPair L pair w) {ob : OrderbookState}
    (ho : w.store.obState = some ob) :
    w.store.config ≠ none ∧ ob.subaccount = L.getSubaccount pair ∧ ∃ base quote, base ≠ quote ∧
      ob.assetInfos = [.nativeToken base, .nativeToken quote] ∧
      ob.marketId = L.deriveMarketId base quote ∧ ob.marketId ≠ L.deriveMarketId quote base := by
  obtain ⟨hc, hsub, base, quote, hinfos, hmarket, hne⟩ := hb ob ho
  refine ⟨hc, hsub, base, quote, fun hbq => hne ?_, hinfos, hmarket, hne⟩
  rw [hmarket, hbq]

theorem run_obState {w w' : World} (hw : Reachable L pair token w) (hrun : Run L pair token w w')
    {ob : OrderbookState} (ho : w.store.obState = some ob) :
    ∃ ob', w'.store.obState = some ob' ∧ ob'.marketId = ob.marketId ∧
      ob'.subaccount = ob.subaccount ∧ ob'.assetInfos = ob.assetInfos := by
  induction hrun with
  | refl => exact ⟨ob, ho, rfl, rfl, rfl⟩
  | step e hrun hs ih =>
      obtain ⟨ob₁, ho₁, hm₁, hs₁, hi₁⟩ := ih
      have hc := (reachable_boundToPair (reachable_of_run hw hrun) ob₁ ho₁).1
      obtain ⟨ob₂, ho₂, hi₂, hm₂, hs₂⟩ := step_obState hc ho₁ hs
      exact ⟨ob₂, ho₂, hm₂.trans hm₁, hs₂.trans hs₁, hi₂.trans hi₁⟩

/-- In every reachable world the stored orderbook state belongs to the instantiated pair: its
subaccount is the pair's own, its assets are two bank denoms, distinct, and its market is the one
`validate` accepted at instantiation, of those denoms in their order. No later step, of any run,
rebinds it to another market, subaccount or asset list. -/
theorem reachable_orderbook_bound {w : World} (hw : Reachable L pair token w) {ob : OrderbookState}
    (ho : w.store.obState = some ob) :
    (w.store.config ≠ none ∧ ob.subaccount = L.getSubaccount pair ∧ ∃ base quote, base ≠ quote ∧
      ob.assetInfos = [.nativeToken base, .nativeToken quote] ∧
      ob.marketId = L.deriveMarketId base quote ∧ ob.marketId ≠ L.deriveMarketId quote base) ∧
    ∀ w', Run L pair token w w' → ∃ ob', w'.store.obState = some ob' ∧
      ob'.marketId = ob.marketId ∧ ob'.subaccount = ob.subaccount ∧ ob'.assetInfos = ob.assetInfos :=
  ⟨(reachable_boundToPair hw).distinct ho, fun _ hrun => run_obState hw hrun ho⟩

theorem reachable_orderbook_bound_funded :
    Reachable sampleLib "pair" "lp" fundedWorld ∧
      fundedWorld.store.obState = some (fundedWorld.store.obState.get (by decide)) ∧
      (fundedWorld.store.config ≠ none ∧
      (fundedWorld.store.obState.get (by decide)).subaccount = sampleLib.getSubaccount "pair" ∧
      ∃ base quote, base ≠ quote ∧
        (fundedWorld.store.obState.get (by decide)).assetInfos =
          [.nativeToken base, .nativeToken quote] ∧
        (fundedWorld.store.obState.get (by decide)).marketId = sampleLib.deriveMarketId base quote ∧
        (fundedWorld.store.obState.get (by decide)).marketId ≠ sampleLib.deriveMarketId quote base) ∧
      ∀ w', Run sampleLib "pair" "lp" fundedWorld w' → ∃ ob', w'.store.obState = some ob' ∧
        ob'.marketId = (fundedWorld.store.obState.get (by decide)).marketId ∧
        ob'.subaccount = (fundedWorld.store.obState.get (by decide)).subaccount ∧
        ob'.assetInfos = (fundedWorld.store.obState.get (by decide)).assetInfos :=
  have hw := reachable_of_run .init (run_of_foldlM fundedRun_steps)
  have ho := (Option.some_get (by decide : fundedWorld.store.obState.isSome = true)).symm
  ⟨hw, ho, reachable_orderbook_bound hw ho⟩

def paysNothing : ExecuteMsg → Bool
  | .receive _ | .swap .. => false
  | _ => true

theorem settlePending_quiet {q : Querier} {env : Env} {s s₁ : Storage} {ob : OrderbookState}
    {balances : List Asset} {makerFees : List (Addr × Coin)}
    (h : settlePending L q env s ob balances = .ok (s₁, makerFees))
    (hquiet : ob.lastBalances = balances) : makerFees = [] := by
  unfold settlePending at h
  rw [if_neg (not_not.2 hquiet)] at h
  exact (Prod.mk.inj (Except.ok.inj h)).2.symm

theorem execute_paidOut_zero {q : Querier} {env : Env} {s s' : Storage} {info : MessageInfo}
    {msg : ExecuteMsg} {r : Response} (hinv : AssetsNative s)
    (h : execute L q env s info msg = .ok (s', r)) (hmsg : paysNothing msg = true)
    (hquiet : passesTrade msg s q = false) (denom : String) :
    total (paidOut pair denom) r.messages = 0 := by
  unfold execute at h
  simp only [bind_eq_ok, Storage.loadConfig_eq_ok] at h
  obtain ⟨_, -, h⟩ := h
  cases msg with
  | receive | swap => cases hmsg
  | provideLiquidity =>
      obtain ⟨config, ob, _, out, _, _, _, hc, hob, hout, hlock, hmint, -, hmsgs⟩ :=
        provideLiquidity_eq_ok L h
      obtain ⟨_, _, _, hob', hinfos, -⟩ := hinv config hc
      obtain rfl := Option.some.inj (hob'.symm.trans hob)
      simp only [passesTrade, hob, decide_eq_false_iff_not, not_not] at hquiet
      rw [hmsgs, provideCompute_quiet L hout (hinfos ▸ hquiet), lockMinimumMessage_eq_ok L hlock]
      rcases mintLiquidityTokenMessage_eq_ok hmint with rfl | ⟨_, rfl⟩ <;> split <;> rfl
  | updateConfig =>
      obtain ⟨_, _, _, _, _, _, -, -, -, -, -, -, hmsgs⟩ := updateConfig_eq_ok L h
      rw [hmsgs]
      rfl
  | proposeNewOwner | dropOwnershipProposal | claimOwnership =>
      simp only [bind_eq_ok, liftStd_eq_ok, pure_eq_ok, Except.ok.injEq, Prod.mk.injEq,
        Storage.loadConfig_eq_ok] at h
      obtain ⟨_, -, _, -, -, rfl⟩ := h
      rfl
  | withdrawFromOrderbook =>
      obtain ⟨ob, _, _, _, _, _, _, -, hob, -, -, hsettle, -, -, hmsgs⟩ :=
        orderbookEmergencyWithdraw_eq_ok L h
      simp only [passesTrade, hob, decide_eq_false_iff_not, not_not] at hquiet
      rw [hmsgs, settlePending_quiet hsettle hquiet, List.map_nil, List.append_nil]
      refine total_eq_zero fun m hm => ?_
      split at hm
      · simp only [Orderbook.leaveOrderbook, List.mem_cons, List.mem_map] at hm
        rcases hm with rfl | ⟨_, -, rfl⟩ <;> rfl
      · cases hm
  | updateMarketTicks =>
      obtain ⟨_, _, -, -, -, hmsgs⟩ := updateMarketTicks_eq_ok h
      rw [hmsgs]
      rfl

/-- From a reachable world with no orderbook trade pending, every entry point but a swap and a
withdrawal (provide, update_config, the ownership messages, the emergency withdrawal and
update_market_ticks) sends no coin out of the pair: of every denom the pair then holds exactly
what it held and was sent. In particular a provide keeps all the coins sent with it. -/
theorem holdings_grow_by_funds {w w' : World} {x : External} {time : Nat} {info : MessageInfo}
    {msg : ExecuteMsg} (hw : Reachable L pair token w) (hmsg : paysNothing msg = true)
    (hquiet : passesTrade msg w.store (w.querier L pair token x) = false)
    (h : step L pair token w (.execute x time info msg) = some w') (denom : String) :
    holdings w' denom = holdings w denom + sent info.funds denom := by
  obtain ⟨r, hr, hflow, -⟩ := step_execute_flow h
  rw [← passesTrade_credit _ _ (info.funds.foldl credit w.balances)] at hquiet
  have hpaid : total (paidOut pair denom) r.messages = 0 :=
    execute_paidOut_zero (reachable_assetsNative hw) hr hmsg hquiet denom
  have := hflow denom
  omega

theorem holdings_grow_by_funds_provide :
    Reachable sampleLib "pair" "lp" repliedWorld ∧
      paysNothing (.provideLiquidity [⟨.nativeToken "base", 100000⟩, ⟨.nativeToken "quote", 100000⟩]
        none none none) = true ∧
      passesTrade (.provideLiquidity [⟨.nativeToken "base", 100000⟩, ⟨.nativeToken "quote", 100000⟩]
        none none none) repliedWorld.store
        (repliedWorld.querier sampleLib "pair" "lp" sampleExternal) = false ∧
      step sampleLib "pair" "lp" repliedWorld (fundedRun.get ⟨2, by decide⟩) = some aliceProvided ∧
      ∀ denom, holdings aliceProvided denom =
        holdings repliedWorld denom + sent [⟨"base", 100000⟩, ⟨"quote", 100000⟩] denom :=
  have hw := reachable_repliedWorld
  have hquiet : passesTrade (.provideLiquidity [⟨.nativeToken "base", 100000⟩,
      ⟨.nativeToken "quote", 100000⟩] none none none) repliedWorld.store
      (repliedWorld.querier sampleLib "pair" "lp" sampleExternal) = false := by decide
  have h : step sampleLib "pair" "lp" repliedWorld (fundedRun.get ⟨2, by decide⟩) =
      some aliceProvided :=
    (Option.getD_of_ne_none (Option.ne_none_iff_isSome.2 (by decide)) _).symm
  ⟨hw, rfl, hquiet, h, holdings_grow_by_funds hw (by rfl) hquiet h⟩

/-- From a reachable world, a successful emergency withdrawal runs only while the chain reports
the pair inactive. It empties the subaccount of both pool denoms into the pair's bank balance,
records an empty snapshot and disables the orderbook. Of each denom the pair then holds at most
what it held and was sent, the maker fees of a pending trade going out, and with no trade pending
exactly that. -/
theorem emergency_withdraw_empties_subaccount {w w' : World} {x : External} {time : Nat}
    {info : MessageInfo} (hw : Reachable L pair token w)
    (h : step L pair token w (.execute x time info .withdrawFromOrderbook) = some w') :
    x.contractActive = false ∧ ∃ base quote ob, w'.store.obState = some ob ∧ ob.enabled = false ∧
      ob.assetInfos = [.nativeToken base, .nativeToken quote] ∧
      ob.lastBalances = [(AssetInfo.nativeToken base).withBalance 0,
        (AssetInfo.nativeToken quote).withBalance 0] ∧
      w'.deposits base = 0 ∧ w'.deposits quote = 0 ∧
      ∀ denom, holdings w' denom ≤ holdings w denom + sent info.funds denom ∧
        (passesTrade .withdrawFromOrderbook w.store (w.querier L pair token x) = false →
          holdings w' denom = holdings w denom + sent info.funds denom) := by
  obtain ⟨r, hexe, hflow, hempty⟩ := step_execute_flow h
  have hr := hexe
  unfold execute at hr
  simp only [bind_eq_ok, Storage.loadConfig_eq_ok] at hr
  obtain ⟨_, -, hr⟩ := hr
  obtain ⟨ob, s₁, makerFees, b, qt, b0, b1, hact, ho, -, -, -, hbq, hs, -⟩ :=
    orderbookEmergencyWithdraw_eq_ok L hr
  obtain ⟨-, hsub, base, quote, hinfos, -, -⟩ := reachable_boundToPair hw ob ho
  obtain ⟨-, -, -, -, -, hwd⟩ := orderbookEmergencyWithdraw_snapshot hr ho hinfos
  simp only [hinfos, Orderbook.firstTwo, Except.ok.injEq, Prod.mk.injEq] at hbq
  obtain ⟨rfl, rfl⟩ := hbq
  have hq : ∀ d, (({ w with balances := info.funds.foldl credit w.balances }).querier L pair token
      x).deposit ob.subaccount d = w.deposits d := fun d => if_pos hsub
  have hemptied : ∀ d, AssetInfo.nativeToken d ∈ ob.assetInfos → w'.deposits d = 0 :=
    fun d hd => hempty ob.subaccount d fun hne => by
      rw [← hq]
      exact hwd _ hd (by rwa [hq])
  refine ⟨hact, base, quote, Orderbook.reconciliationDone { ob with enabled := false }
    [(AssetInfo.nativeToken base).withBalance 0, (AssetInfo.nativeToken quote).withBalance 0],
    by rw [hs], rfl, hinfos, rfl, hemptied _ (by simp [hinfos]), hemptied _ (by simp [hinfos]),
    fun d => ⟨by have := hflow d; omega, fun hquiet => ?_⟩⟩
  rw [← passesTrade_credit _ _ (info.funds.foldl credit w.balances)] at hquiet
  have hpaid : total (paidOut pair d) r.messages = 0 :=
    execute_paidOut_zero (reachable_assetsNative hw) hexe rfl hquiet d
  have := hflow d
  omega

def inactiveExternal : External := { sampleExternal with contractActive := false }

def emergencyEvent : Event := .execute inactiveExternal 3 ⟨"keeper", []⟩ .withdrawFromOrderbook

def emergedWorld : World := (step sampleLib "pair" "lp" fundedWorld emergencyEvent).getD World.init

theorem emergency_withdraw_empties_subaccount_funded :
    Reachable sampleLib "pair" "lp" fundedWorld ∧
      step sampleLib "pair" "lp" fundedWorld emergencyEvent = some emergedWorld ∧
      fundedWorld.deposits "base" = 100000 ∧
      (inactiveExternal.contractActive = false ∧ ∃ base quote ob,
        emergedWorld.store.obState = some ob ∧ ob.enabled = false ∧
        ob.assetInfos = [.nativeToken base, .nativeToken quote] ∧
        ob.lastBalances = [(AssetInfo.nativeToken base).withBalance 0,
          (AssetInfo.nativeToken quote).withBalance 0] ∧
        emergedWorld.deposits base = 0 ∧ emergedWorld.deposits quote = 0 ∧
        ∀ denom, holdings emergedWorld denom ≤ holdings fundedWorld denom + sent [] denom ∧
          (passesTrade .withdrawFromOrderbook fundedWorld.store
              (fundedWorld.querier sampleLib "pair" "lp" inactiveExternal) = false →
            holdings emergedWorld denom = holdings fundedWorld denom + sent [] denom)) :=
  have h : step sampleLib "pair" "lp" fundedWorld emergencyEvent = some emergedWorld :=
    (Option.getD_of_ne_none (Option.ne_none_iff_isSome.2 (by decide)) _).symm
  have hw := reachable_of_run .init (run_of_foldlM fundedRun_steps)
  ⟨hw, h, by decide, emergency_withdraw_empties_subaccount hw h⟩

theorem updateMarketTicks_again {q q' : Querier} {s s' : Storage} {r : Response}
    (h : updateMarketTicks q s = .ok (s', r)) (hmarket : q'.spotMarket = q.spotMarket)
    (hdecimals : q'.decimals = q.decimals) :
    updateMarketTicks q' s' = .error (genericErr "Ticks are already up to date") := by
  unfold updateMarketTicks at h ⊢
  simp only [bind_eq_ok, liftStd_eq_ok, pure_eq_ok, Except.ok.injEq, Prod.mk.injEq,
    Storage.loadObState_eq_ok, Storage.loadConfig_eq_ok] at h
  obtain ⟨ob, -, config, hc, ⟨base, _⟩, hbq, p, hp, ob', hticks, rfl, -⟩ := h
  have hagain := Orderbook.setTicks_again hticks hmarket
  obtain ⟨_, _, rfl⟩ := Orderbook.setTicks_eq_ok hticks
  simp [Storage.loadObState, Storage.loadConfig, hc, hbq, hdecimals, hp, hagain, liftStd, genericErr]

/-- An `update_market_ticks` that succeeded cannot be repeated while the exchange reports the
same market: a second one, from any sender at any time, fails with "Ticks are already up to date"
and the step leaves the world as it was. -/
theorem updateMarketTicks_not_repeatable {w w₁ : World} {x : External} {time : Nat}
    {info : MessageInfo} (h : step L pair token w (.execute x time info .updateMarketTicks) = some w₁) :
    (∀ q env info', q.spotMarket = x.spotMarket → q.decimals = x.decimals →
      execute L q env w₁.store info' .updateMarketTicks =
        .error (genericErr "Ticks are already up to date")) ∧
    ∀ time' info', step L pair token w₁ (.execute x time' info' .updateMarketTicks) = none := by
  obtain ⟨r, hr, -⟩ := step_execute_flow h
  unfold execute at hr
  simp only [bind_eq_ok, Storage.loadConfig_eq_ok] at hr
  obtain ⟨config, hc, hr⟩ := hr
  obtain ⟨_, _, -, -, hs, -⟩ := updateMarketTicks_eq_ok hr
  have hc₁ : w₁.store.config = some config := by rw [hs]; exact hc
  have hagain : ∀ q env info', q.spotMarket = x.spotMarket → q.decimals = x.decimals →
      execute L q env w₁.store info' .updateMarketTicks =
        .error (genericErr "Ticks are already up to date") := fun q env info' hm hd => by
    simp only [execute, Storage.loadConfig, hc₁]
    exact updateMarketTicks_again hr hm hd
  refine ⟨hagain, fun time' info' => ?_⟩
  have := hagain (({ w₁ with balances := info'.funds.foldl credit w₁.balances }).querier L pair
    token x) ⟨time', pair⟩ info' rfl rfl
  simp only [step, this]
  split_ifs <;> rfl

def retickedExternal : External :=
  { sampleExternal with spotMarket := fun _ => .ok (some ⟨⟨Nat.pow 10 16⟩, ⟨Nat.pow 10 15⟩⟩) }

def reticksEvent : Event := .execute retickedExternal 3 ⟨"keeper", []⟩ .updateMarketTicks

def retickedWorld : World := (step sampleLib "pair" "lp" fundedWorld reticksEvent).getD World.init

theorem updateMarketTicks_not_repeatable_funded :
    step sampleLib "pair" "lp" fundedWorld reticksEvent = some retickedWorld ∧
      (∀ q env info', q.spotMarket = retickedExternal.spotMarket →
        q.decimals = retickedExternal.decimals →
        execute sampleLib q env retickedWorld.store info' .updateMarketTicks =
          .error (genericErr "Ticks are already up to date")) ∧
      ∀ time' info', step sampleLib "pair" "lp" retickedWorld
        (.execute retickedExternal time' info' .updateMarketTicks) = none :=
  have h : step sampleLib "pair" "lp" fundedWorld reticksEvent = some retickedWorld :=
    (Option.getD_of_ne_none (Option.ne_none_iff_isSome.2 (by decide)) _).symm
  ⟨h, updateMarketTicks_not_repeatable h⟩

theorem ask_ne_offer {p₀ p₁ ask : DecimalAsset} {info : AssetInfo} {offerInd : Nat}
    (hne : p₀.info ≠ p₁.info)
    (hind : [p₀, p₁].findIdx? (fun asset => asset.info = info) = some offerInd)
    (hask : index [p₀, p₁] (1 ^^^ offerInd) = .ok ask) : ask.info ≠ info := by
  simp only [List.findIdx?_cons, List.findIdx?_nil, decide_eq_true_eq] at hind
  split_ifs at hind with h₀ h₁ <;> cases hind <;> simp only [index, Except.ok.injEq] at hask <;>
    cases hask
  · exact h₀ ▸ Ne.symm hne
  · exact h₁ ▸ hne

/-- From a reachable world with no orderbook trade pending, a swap keeps the pair's holding of
every denom but the ask one and adds the coins sent with it: it pays out only the ask denom, which
is a pool denom other than the offered asset. -/
theorem swap_pays_only_ask {w w' : World} {x : External} {time : Nat} {info : MessageInfo}
    {offerAsset : Asset} {beliefPrice maxSpread : Option Decimal256} {recipient : Option String}
    (hw : Reachable L pair token w)
    (hquiet : passesTrade (.swap offerAsset beliefPrice maxSpread recipient) w.store
      (w.querier L pair token x) = false)
    (h : step L pair token w
      (.execute x time info (.swap offerAsset beliefPrice maxSpread recipient)) = some w') :
    ∃ config ask, w.store.config = some config ∧ .nativeToken ask ∈ config.pairInfo.assetInfos ∧
      .nativeToken ask ≠ offerAsset.info ∧
      ∀ denom, denom ≠ ask → holdings w' denom = holdings w denom + sent info.funds denom := by
  obtain ⟨r, hr, hflow, -⟩ := step_execute_flow h
  unfold execute at hr
  simp only [bind_eq_ok, Storage.loadConfig_eq_ok] at hr
  obtain ⟨_, -, hr⟩ := hr
  obtain ⟨_, hr⟩ := executeSwap_eq_ok L hr
  obtain ⟨out, config, ob, hout, hc, ho, -, hmsgs⟩ := swap_eq_ok L hr
  obtain ⟨_, _, pools, offerInd, ask, hc', ho', hp, hind, hask, -, hpay, hfees⟩ :=
    swapCompute_pays_ask L hout
  obtain rfl := Option.some.inj (hc.symm.trans hc')
  obtain rfl := Option.some.inj (ho.symm.trans ho')
  obtain ⟨_, base, quote, ho₂, hobinfos, hinfos⟩ := reachable_assetsNative hw _ hc
  obtain rfl := Option.some.inj (ho.symm.trans ho₂)
  obtain ⟨-, -, b, q, hbq, hobinfos', -, -⟩ := (reachable_boundToPair hw).distinct ho
  rw [hobinfos, hinfos] at hobinfos'
  simp only [List.cons.injEq, AssetInfo.nativeToken.injEq, and_true] at hobinfos'
  obtain ⟨rfl, rfl⟩ := hobinfos'
  have hpinfos := queryPools_infos hp
  rw [hinfos] at hpinfos
  rcases pools with _ | ⟨p₀, _ | ⟨p₁, _ | ⟨_, _⟩⟩⟩ <;> simp only [List.map_cons, List.map_nil,
    List.cons.injEq, reduceCtorEq, and_false, false_and, and_true] at hpinfos
  obtain ⟨h₀, h₁⟩ := hpinfos
  have hne := ask_ne_offer (by rw [h₀, h₁]; simpa using hbq) hind hask
  have haskmem : ask.info ∈ config.pairInfo.assetInfos := by
    rw [hinfos, ← h₀, ← h₁]
    exact List.mem_map_of_mem _ (index_mem hask)
  obtain ⟨a, ha⟩ : ∃ a, ask.info = .nativeToken a := by
    rw [hinfos] at haskmem
    rcases List.mem_pair.1 haskmem with h | h <;> exact ⟨_, h⟩
  rw [← passesTrade_credit _ _ (info.funds.foldl credit w.balances)] at hquiet
  simp only [passesTrade, ho, decide_eq_false_iff_not, not_not] at hquiet
  rw [hobinfos] at hquiet
  refine ⟨config, a, hc, ha ▸ haskmem, ha ▸ hne, fun d hd => ?_⟩
  have hpaid : total (paidOut pair d) r.messages = 0 := by
    rw [hmsgs, hfees hquiet, List.map_nil, List.nil_append]
    refine total_eq_zero fun m hm => ?_
    obtain ⟨amount, receiver, rfl⟩ := hpay m hm
    simp [Asset.intoMsg, ha, paidOut, Ne.symm hd]
  have := hflow d
  omega

def swapEvent : Event :=
  .execute sampleExternal 2 ⟨"bob", [⟨"base", 1000⟩]⟩
    (.swap ⟨.nativeToken "base", 1000⟩ none none none)

def swappedWorld : World := (step sampleLib "pair" "lp" aliceProvided swapEvent).getD World.init

theorem swap_pays_only_ask_sample :
    Reachable sampleLib "pair" "lp" aliceProvided ∧
      passesTrade (.swap ⟨.nativeToken "base", 1000⟩ none none none) aliceProvided.store
        (aliceProvided.querier sampleLib "pair" "lp" sampleExternal) = false ∧
      step sampleLib "pair" "lp" aliceProvided swapEvent = some swappedWorld ∧
      ∃ config ask, aliceProvided.store.config = some config ∧
        .nativeToken ask ∈ config.pairInfo.assetInfos ∧
        .nativeToken ask ≠ (⟨.nativeToken "base", 1000⟩ : Asset).info ∧
        ∀ denom, denom ≠ ask →
          holdings swappedWorld denom = holdings aliceProvided denom + sent [⟨"base", 1000⟩] denom :=
  have h₂ : step sampleLib "pair" "lp" repliedWorld (fundedRun.get ⟨2, by decide⟩) =
      some aliceProvided :=
    (Option.getD_of_ne_none (Option.ne_none_iff_isSome.2 (by decide)) _).symm
  have hw : Reachable sampleLib "pair" "lp" aliceProvided :=
    .step _ reachable_repliedWorld h₂
  have hquiet : passesTrade (.swap ⟨.nativeToken "base", 1000⟩ none none none) aliceProvided.store
      (aliceProvided.querier sampleLib "pair" "lp" sampleExternal) = false := by decide
  have h : step sampleLib "pair" "lp" aliceProvided swapEvent = some swappedWorld :=
    (Option.getD_of_ne_none (Option.ne_none_iff_isSome.2 (by decide)) _).symm
  ⟨hw, hquiet, h, swap_pays_only_ask hw hquiet h⟩

end GridironPcl.Run.Lifecycle
