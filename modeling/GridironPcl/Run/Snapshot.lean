import GridironPcl.Run.Ledger

namespace GridironPcl.Run.Snapshot

open GridironPcl.Decimal GridironPcl.Assets GridironPcl.State GridironPcl.Deps GridironPcl.Utils
open GridironPcl.Contract.Instantiate GridironPcl.Contract.Provide GridironPcl.Contract.Withdraw
open GridironPcl.Contract.Swap GridironPcl.Contract.Execute GridironPcl.System GridironPcl.Frame
open GridironPcl.Run.Storage GridironPcl.Run.Ledger

variable (L : Lib) (pair token : Addr)

/-- The snapshot law of the orderbook state: the stored `last_balances`, plus the net change of the
fills not yet passed to `process_cumulative_trade`, are the subaccount's balances as the pair
queries them. -/
def Settled (w : World) : Prop :=
  ∀ ob x, w.store.obState = some ob →
    ob.lastBalances.map (fun a => (a.info, (a.amount : Int) + w.unsettled a.info.toString)) =
      (Orderbook.getSubaccountBalances ob.assetInfos (w.querier L pair token x) ob.subaccount).map
        fun a => (a.info, (a.amount : Int))

def settledAt (x : External) (w : World) : Bool :=
  match w.store.obState with
  | none => true
  | some ob =>
      ob.lastBalances.map (fun a => (a.info, (a.amount : Int) + w.unsettled a.info.toString)) ==
        (Orderbook.getSubaccountBalances ob.assetInfos (w.querier L pair token x) ob.subaccount).map
          fun a => (a.info, (a.amount : Int))

theorem settled_iff (x : External) (w : World) :
    Settled L pair token w ↔ settledAt L pair token x w = true := by
  unfold Settled settledAt
  cases w.store.obState with
  | none => simp
  | some ob =>
      simp only [Option.some.injEq, beq_iff_eq]
      refine ⟨fun h => h ob x rfl, fun h _ _ hob => ?_⟩
      subst hob
      exact h

variable {L pair token}

theorem getSubaccountBalances_pair {w : World} {x : External} {infos : List AssetInfo}
    {sub : String} (h : sub = L.getSubaccount pair) :
    Orderbook.getSubaccountBalances infos (w.querier L pair token x) sub =
      infos.map fun info => info.withBalance (w.deposits info.toString) := by
  simp [Orderbook.getSubaccountBalances, World.querier, h]

def Agrees (lastBalances : List Asset) (infos : List AssetInfo) (unsettled : String → Int)
    (deposits : String → Nat) : Prop :=
  lastBalances.map (fun a => (a.info, (a.amount : Int) + unsettled a.info.toString)) =
    infos.map fun info => (info, (deposits info.toString : Int))

theorem Agrees.shift {lb : List Asset} {infos : List AssetInfo} {u u' δ : String → Int}
    {dep dep' : String → Nat} (h : Agrees lb infos u dep) (hu : ∀ d, u' d = u d + δ d)
    (hdep : ∀ d, (dep' d : Int) = dep d + δ d) : Agrees lb infos u' dep' := by
  unfold Agrees at *
  calc lb.map (fun a => (a.info, (a.amount : Int) + u' a.info.toString))
      = (lb.map fun a => (a.info, (a.amount : Int) + u a.info.toString)).map
          (fun p => (p.1, p.2 + δ p.1.toString)) := by simp [hu, Int.add_assoc]
    _ = infos.map fun info => (info, (dep' info.toString : Int)) := by rw [h]; simp [hdep]

theorem agrees_snapshot_iff {infos : List AssetInfo} {u : String → Int} {dep : String → Nat} :
    Agrees (infos.map fun info => info.withBalance (dep info.toString)) infos u dep ↔
      ∀ info ∈ infos, u info.toString = 0 := by
  simp only [Agrees, List.map_map, Function.comp_def, AssetInfo.withBalance_info,
    AssetInfo.withBalance_amount, List.map_inj_left, Prod.mk.injEq, true_and]
  exact forall₂_congr fun _ _ => ⟨fun h => by omega, fun h => by omega⟩

variable (L pair) in
/-- The snapshot law, with what makes it inductive: the stored state reads the pair's own
subaccount, and before instantiation every change of the subaccount is an unsettled fill. -/
structure Snap (w : World) : Prop where
  fresh : w.store.obState = none → ∀ d, (w.deposits d : Int) = w.unsettled d
  instantiated : w.store.config = none → w.store.obState = none
  subaccount : ∀ ob, w.store.obState = some ob → ob.subaccount = L.getSubaccount pair
  agrees : ∀ ob, w.store.obState = some ob →
    Agrees ob.lastBalances ob.assetInfos w.unsettled w.deposits

theorem Snap.settled {w : World} (h : Snap L pair w) : Settled L pair token w := fun ob _ hob => by
  rw [getSubaccountBalances_pair (h.subaccount ob hob)]
  simpa [Agrees] using h.agrees ob hob

def keepsDeposits : Msg → Bool
  | .subaccountWithdraw .. => false
  | _ => true

theorem execMsg_deposits {w w' : World} {m : Msg} (h : execMsg L pair token w m = some w')
    (hm : keepsDeposits m = true) : w'.deposits = w.deposits := by
  cases m with
  | subaccountWithdraw => cases hm
  | _ =>
      simp only [execMsg] at h
      (try split_ifs at h) <;> first | (obtain ⟨-, _, -, rfl⟩ := lpExec_eq_some h; rfl) |
        (cases h; rfl)

theorem execMsgs_deposits {w w' : World} {msgs : List Msg}
    (h : execMsgs L pair token w msgs = some w') (hm : ∀ m ∈ msgs, keepsDeposits m = true) :
    w'.deposits = w.deposits :=
  foldlM_keeps (·.deposits) (fun _ m _ hmem h => execMsg_deposits h (hm m hmem)) h

theorem execMsg_deposits_le {w w' : World} {m : Msg} (h : execMsg L pair token w m = some w')
    (d : String) : w'.deposits d ≤ w.deposits d := by
  cases hm : keepsDeposits m
  · cases m with
    | subaccountWithdraw =>
        simp only [execMsg] at h
        split_ifs at h
        cases h
        simp only [setAt_apply]
        split_ifs with hd
        · subst hd
          omega
        · exact le_refl _
    | _ => cases hm
  · rw [execMsg_deposits h hm]

theorem execMsgs_deposits_le : ∀ {msgs : List Msg} {w w' : World},
    execMsgs L pair token w msgs = some w' → ∀ d, w'.deposits d ≤ w.deposits d
  | [], _, _, h, _ => by cases h; exact le_refl _
  | m :: msgs, w, w', h, d => by
      simp only [execMsgs, List.foldlM_cons] at h
      obtain ⟨w₁, h₁, h⟩ := Option.bind_eq_some.1 h
      exact (execMsgs_deposits_le h d).trans (execMsg_deposits_le h₁ d)

theorem execMsgs_withdraw_zero {w w' : World} {msgs : List Msg} {sub denom : String} {amount : Nat}
    (h : execMsgs L pair token w msgs = some w') (hm : .subaccountWithdraw sub denom amount ∈ msgs)
    (hle : w.deposits denom ≤ amount) : w'.deposits denom = 0 := by
  obtain ⟨pre, post, rfl⟩ := List.append_of_mem hm
  simp only [execMsgs, List.foldlM_append, List.foldlM_cons, Option.bind_eq_bind,
    Option.bind_eq_some] at h
  obtain ⟨v, hv, v', hv', h⟩ := h
  have hpre := execMsgs_deposits_le hv denom
  simp only [execMsg] at hv'
  split_ifs at hv' with hok
  cases hv'
  have := execMsgs_deposits_le h denom
  dsimp only at this
  rw [setAt_apply, if_pos rfl] at this
  omega

def view (ob : OrderbookState) : List Asset × List AssetInfo × String :=
  (ob.lastBalances, ob.assetInfos, ob.subaccount)

theorem keepsDeposits_intoMsg (a : Asset) (recipient : Addr) :
    keepsDeposits (Asset.intoMsg a recipient) = true := by
  unfold Asset.intoMsg
  split <;> rfl

theorem keepsDeposits_makerFees (makerFees : List (Addr × Coin)) :
    ∀ m ∈ makerFees.map (fun (recipient, coin) => Msg.bankSend recipient coin),
      keepsDeposits m = true := by
  simp only [List.mem_map]
  rintro m ⟨_, -, rfl⟩
  rfl

/-- What provide and swap do to the snapshot: they store a fresh one of the subaccount, and their
messages leave the subaccount alone. -/
def Resnapshots (q : Querier) (s s' : Storage) (msgs : List Msg) : Prop :=
  ∃ config ob ob', s.config = some config ∧ s.obState = some ob ∧ s'.obState = some ob' ∧
    ob'.lastBalances = Orderbook.getSubaccountBalances config.pairInfo.assetInfos q ob.subaccount ∧
    ob'.assetInfos = ob.assetInfos ∧ ob'.subaccount = ob.subaccount ∧
    ∀ m ∈ msgs, keepsDeposits m = true

theorem provideLiquidity_resnapshots {q : Querier} {env : Env} {s s' : Storage}
    {info : MessageInfo} {assets : List Asset} {slippageTolerance : Option Decimal256}
    {autoStake : Option Bool} {receiver : Option String} {r : Response}
    (h : provideLiquidity L q env s info assets slippageTolerance autoStake receiver = .ok (s', r)) :
    Resnapshots q s s' r.messages := by
  obtain ⟨config, ob, _, out, _, _, _, hc, hob, hout, hlock, hmint, rfl, hr⟩ :=
    provideLiquidity_eq_ok L h
  obtain ⟨_, -, -, hlast⟩ := provideCompute_spec L hout
  refine ⟨config, ob, _, hc, hob, rfl, hlast, rfl, rfl, fun m hm => ?_⟩
  rw [hr, lockMinimumMessage_eq_ok L hlock] at hm
  rcases List.mem_append.1 hm with hm | hm
  · rcases List.mem_append.1 hm with hm | hm
    · exact keepsDeposits_makerFees _ m hm
    · -- the lock of the minimum
      split at hm
      · rw [List.mem_singleton.1 hm]; rfl
      · cases hm
  · -- the mint, and the stake of an auto-staked share
    rcases mintLiquidityTokenMessage_eq_ok hmint with rfl | ⟨_, rfl⟩
    · rw [List.mem_singleton.1 hm]; rfl
    · rcases List.mem_pair.1 hm with rfl | rfl <;> rfl

theorem swap_resnapshots {q : Querier} {env : Env} {s s' : Storage} {sender : Addr}
    {offerAsset : Asset} {beliefPrice maxSpread : Option Decimal256} {recipient : Option Addr}
    {r : Response}
    (h : swap L q env s sender offerAsset beliefPrice maxSpread recipient = .ok (s', r)) :
    Resnapshots q s s' r.messages := by
  obtain ⟨out, config, ob, hout, hc, hob, rfl, hr⟩ := swap_eq_ok L h
  obtain ⟨_, _, hc', hob', hlast, _, -, hmsgs⟩ := swapCompute_spec L hout
  rw [hc] at hc'
  rw [hob] at hob'
  cases hc'
  cases hob'
  refine ⟨config, ob, _, hc, hob, rfl, hlast, rfl, rfl, fun m hm => ?_⟩
  rw [hr] at hm
  rcases List.mem_append.1 hm with hm | hm
  · exact keepsDeposits_makerFees _ m hm
  · obtain ⟨_, _, rfl⟩ := hmsgs m hm
    exact keepsDeposits_intoMsg _ _

theorem orderbookEmergencyWithdraw_snapshot {q : Querier} {env : Env} {s s' : Storage}
    {r : Response} {ob : OrderbookState} {i₀ i₁ : AssetInfo}
    (h : orderbookEmergencyWithdraw L q env s = .ok (s', r)) (hob : s.obState = some ob)
    (hinfos : ob.assetInfos = [i₀, i₁]) :
    ∃ ob', s'.obState = some ob' ∧ ob'.assetInfos = ob.assetInfos ∧
      ob'.subaccount = ob.subaccount ∧ ob'.lastBalances = [i₀.withBalance 0, i₁.withBalance 0] ∧
      ∀ info ∈ ob.assetInfos, q.deposit ob.subaccount info.toString ≠ 0 →
        .subaccountWithdraw ob.subaccount info.toString (q.deposit ob.subaccount info.toString) ∈
          r.messages := by
  obtain ⟨ob₀, _, _, base, quote, b0, b1, -, hob₀, h0, h1, -, hfirst, rfl, hr⟩ :=
    orderbookEmergencyWithdraw_eq_ok L h
  rw [hob] at hob₀
  cases hob₀
  simp only [hinfos, Orderbook.firstTwo, Except.ok.injEq, Prod.mk.injEq] at hfirst
  obtain ⟨rfl, rfl⟩ := hfirst
  refine ⟨_, rfl, rfl, rfl, rfl, fun info hinfo hdep => ?_⟩
  simp only [Orderbook.getSubaccountBalances, hinfos, List.map_cons, List.map_nil, index,
    List.get?, Except.ok.injEq] at h0 h1
  subst h0 h1
  rw [hinfos] at hinfo
  have hne : (i₀.withBalance (q.deposit ob.subaccount i₀.toString)).amount +
      (i₁.withBalance (q.deposit ob.subaccount i₁.toString)).amount ≠ 0 := by
    rcases List.mem_pair.1 hinfo with rfl | rfl <;> simp only [AssetInfo.withBalance_amount] <;>
      omega
  rw [hr, if_pos hne]
  simp only [Orderbook.leaveOrderbook, Orderbook.getSubaccountBalances, hinfos, List.mem_append,
    List.mem_cons, List.mem_map, List.mem_filter]
  exact .inl (.inr ⟨info.withBalance (q.deposit ob.subaccount info.toString),
    ⟨by rcases List.mem_pair.1 hinfo with rfl | rfl <;> simp, by simpa using hdep⟩, rfl⟩)

theorem execute_receive_sender {w : World} {x : External} {env : Env} {s s' : Storage}
    {info : MessageInfo} {m : Cw20ReceiveMsg} {r : Response}
    (h : execute L (w.querier L pair token x) env s info (.receive m) = .ok (s', r)) :
    info.sender = token := by
  unfold execute at h
  simp only [bind_eq_ok, Storage.loadConfig_eq_ok] at h
  obtain ⟨_, -, h⟩ := h
  dsimp only [receiveCw20] at h
  split at h
  · obtain ⟨_, _, _, _, _, _, _, _, _, -, hsender, -, -, hsup, -⟩ := withdrawLiquidity_eq_ok L h
    rw [hsender]
    exact (querier_supply hsup).1
  · simp at h
  · simp at h

theorem execute_config {q : Querier} {env : Env} {s s' : Storage} {info : MessageInfo}
    {msg : ExecuteMsg} {r : Response} (h : execute L q env s info msg = .ok (s', r)) :
    s'.config ≠ none := by
  have hk := execute_keeps h
  unfold execute at h
  simp only [bind_eq_ok, Storage.loadConfig_eq_ok] at h
  obtain ⟨_, hc, -⟩ := h
  obtain ⟨_, hc', -⟩ := hk.config_of_old hc
  simp [hc']

theorem Snap.of_view {w w' : World} (h : Snap L pair w)
    (hview : w'.store.obState.map view = w.store.obState.map view)
    (hdep : w'.deposits = w.deposits) (hu : w'.unsettled = w.unsettled)
    (hinst : w'.store.config = none → w'.store.obState = none) : Snap L pair w' := by
  refine ⟨fun hnone => ?_, hinst, fun ob' hob' => ?_, fun ob' hob' => ?_⟩
  · rw [hnone, Option.map_none', eq_comm, Option.map_eq_none'] at hview
    rw [hdep, hu]
    exact h.fresh hview
  all_goals
    rw [hob'] at hview
    obtain ⟨ob, hob, hv⟩ := Option.map_eq_some'.1 hview.symm
    simp only [view, Prod.mk.injEq] at hv
    obtain ⟨hl, hi, hs⟩ := hv
  · rw [← hs]
    exact h.subaccount ob hob
  · rw [← hl, ← hi, hdep, hu]
    exact h.agrees ob hob

theorem Snap.of_snapshot {w w' : World} (h : Snap L pair w) {ob ob' : OrderbookState}
    (hob : w.store.obState = some ob) (hob' : w'.store.obState = some ob')
    (hinfos : ob'.assetInfos = ob.assetInfos) (hsub : ob'.subaccount = ob.subaccount)
    (hlast : ob'.lastBalances =
      ob.assetInfos.map fun info => info.withBalance (w'.deposits info.toString))
    (hu : (∀ d, w'.unsettled d = 0) ∨ (w'.unsettled = w.unsettled ∧
      ob.lastBalances = ob.assetInfos.map fun info => info.withBalance (w.deposits info.toString)))
    (hinst : w'.store.config ≠ none) : Snap L pair w' := by
  refine ⟨fun hnone => ?_, fun hc => absurd hc hinst, fun ob'' hob'' => ?_, fun ob'' hob'' => ?_⟩
  all_goals rw [hob'] at *
  · cases hnone
  all_goals cases hob''
  · rw [hsub]
    exact h.subaccount ob hob
  · rw [hlast, hinfos, agrees_snapshot_iff]
    rcases hu with hu | ⟨hu, hold⟩
    · exact fun info _ => hu _
    · have := h.agrees ob hob
      rw [hold, agrees_snapshot_iff] at this
      rwa [hu]

section Execute

variable {w w₁ : World} {x : External} {funds : List Coin} {msgs : List Msg} {pt : Bool}

theorem Snap.of_resnapshots (hinv : AssetsNative w.store) (h : Snap L pair w)
    (hres : Resnapshots ({ w with balances := funds.foldl credit w.balances }.querier L pair token x)
      w.store w₁.store msgs)
    (hexec : execMsgs L pair token
      { w with balances := funds.foldl credit w.balances, store := w₁.store } msgs = some w₁)
    (hu₁ : w₁.unsettled = w.unsettled) (hinst : w₁.store.config ≠ none)
    (hpt : ∀ ob, w.store.obState = some ob → pt = decide (ob.lastBalances ≠
      Orderbook.getSubaccountBalances ob.assetInfos
        ({ w with balances := funds.foldl credit w.balances }.querier L pair token x) ob.subaccount)) :
    Snap L pair (if pt then { w₁ with unsettled := fun _ => 0 } else w₁) := by
  obtain ⟨config, ob, ob', hc, hob, hob', hlast, hinfos, hsub, hkeep⟩ := hres
  have hdep : w₁.deposits = w.deposits := (execMsgs_deposits hexec hkeep).trans rfl
  have hsubpair := h.subaccount ob hob
  obtain ⟨_, _, _, hob₂, hconfig, -⟩ := hinv config hc
  rw [hob] at hob₂
  cases hob₂
  rw [getSubaccountBalances_pair hsubpair, ← hconfig] at hlast
  have hlast' : ob'.lastBalances =
      ob.assetInfos.map fun info => info.withBalance (w₁.deposits info.toString) := by
    rw [hlast, hdep]
  have hpt' := hpt ob hob
  rw [getSubaccountBalances_pair hsubpair] at hpt'
  cases pt
  · rw [if_neg Bool.false_ne_true]
    exact h.of_snapshot hob hob' hinfos hsub hlast' (.inr ⟨hu₁, by simpa using hpt'⟩) hinst
  · rw [if_pos rfl]
    exact h.of_snapshot hob hob' hinfos hsub hlast' (.inl fun _ => rfl) hinst

theorem Snap.of_emergency {env : Env} {r : Response} (hinv : AssetsNative w.store)
    (h : Snap L pair w)
    (hr : orderbookEmergencyWithdraw L ({ w with balances := funds.foldl credit w.balances }.querier
      L pair token x) env w.store = .ok (w₁.store, r))
    (hexec : execMsgs L pair token
      { w with balances := funds.foldl credit w.balances, store := w₁.store } r.messages = some w₁)
    (hu₁ : w₁.unsettled = w.unsettled) (hinst : w₁.store.config ≠ none)
    (hpt : ∀ ob, w.store.obState = some ob → pt = decide (ob.lastBalances ≠
      Orderbook.getSubaccountBalances ob.assetInfos
        ({ w with balances := funds.foldl credit w.balances }.querier L pair token x) ob.subaccount)) :
    Snap L pair (if pt then { w₁ with unsettled := fun _ => 0 } else w₁) := by
  obtain ⟨ob, _, _, _, _, _, _, -, hob, -⟩ := orderbookEmergencyWithdraw_eq_ok L hr
  have hsubpair := h.subaccount ob hob
  obtain ⟨config, hc⟩ := Option.ne_none_iff_exists'.1 fun hc => by
    rw [h.instantiated hc] at hob
    cases hob
  obtain ⟨_, i₀, i₁, hob₂, hconfig, hnative⟩ := hinv config hc
  rw [hob] at hob₂
  cases hob₂
  rw [← hconfig] at hnative
  obtain ⟨ob', hob', hinfos, hsub, hlast, hmsgs⟩ :=
    orderbookEmergencyWithdraw_snapshot hr hob hnative
  have hzero : ∀ info ∈ ob.assetInfos, w₁.deposits info.toString = 0 := by
    intro info hinfo
    by_cases hd : w.deposits info.toString = 0
    · have := execMsgs_deposits_le hexec info.toString
      dsimp only at this
      omega
    · have hmem := hmsgs info hinfo (by simpa [World.querier, hsubpair] using hd)
      exact execMsgs_withdraw_zero hexec hmem (by simp [World.querier, hsubpair])
  have hlast' : ob'.lastBalances =
      ob.assetInfos.map fun info => info.withBalance (w₁.deposits info.toString) := by
    rw [hlast, hnative]
    rw [hnative] at hzero
    simp [hzero]
  have hpt' := hpt ob hob
  rw [getSubaccountBalances_pair hsubpair] at hpt'
  cases pt
  · rw [if_neg Bool.false_ne_true]
    exact h.of_snapshot hob hob' hinfos hsub hlast' (.inr ⟨hu₁, by simpa using hpt'⟩) hinst
  · rw [if_pos rfl]
    exact h.of_snapshot hob hob' hinfos hsub hlast' (.inl fun _ => rfl) hinst

theorem Snap.of_quiet_handler (h : Snap L pair w)
    (hview : w₁.store.obState.map view = w.store.obState.map view)
    (hexec : execMsgs L pair token
      { w with balances := funds.foldl credit w.balances, store := w₁.store } [] = some w₁)
    (hu₁ : w₁.unsettled = w.unsettled) (hinst : w₁.store.config ≠ none) (hpt : pt = false) :
    Snap L pair (if pt then { w₁ with unsettled := fun _ => 0 } else w₁) := by
  subst hpt
  exact h.of_view hview ((execMsgs_deposits hexec fun _ hm => nomatch hm).trans rfl) hu₁
    fun hc => absurd hc hinst

end Execute

theorem snap_execute {w w' : World} {x : External} {time : Nat} {info : MessageInfo}
    {msg : ExecuteMsg} (hinv : AssetsNative w.store) (h : Snap L pair w)
    (hs : step L pair token w (.execute x time info msg) = some w') : Snap L pair w' := by
  obtain ⟨hsender, w₁, r, hr, hexec, hu₁, rfl⟩ := step_execute_eq_some hs
  have hinst := execute_config hr
  cases msg with
  | receive => exact absurd (execute_receive_sender hr) hsender
  | provideLiquidity =>
      unfold execute at hr
      simp only [bind_eq_ok, Storage.loadConfig_eq_ok] at hr
      obtain ⟨_, -, hr⟩ := hr
      exact h.of_resnapshots hinv (provideLiquidity_resnapshots hr) hexec hu₁ hinst
        fun ob hob => by simp [passesTrade, hob]
  | swap =>
      unfold execute at hr
      simp only [bind_eq_ok, Storage.loadConfig_eq_ok] at hr
      obtain ⟨_, -, hr⟩ := hr
      obtain ⟨_, hr⟩ := executeSwap_eq_ok L hr
      exact h.of_resnapshots hinv (swap_resnapshots hr) hexec hu₁ hinst
        fun ob hob => by simp [passesTrade, hob]
  | withdrawFromOrderbook =>
      unfold execute at hr
      simp only [bind_eq_ok, Storage.loadConfig_eq_ok] at hr
      obtain ⟨_, -, hr⟩ := hr
      exact h.of_emergency hinv hr hexec hu₁ hinst fun ob hob => by simp [passesTrade, hob]
  | updateConfig =>
      unfold execute at hr
      simp only [bind_eq_ok, Storage.loadConfig_eq_ok] at hr
      obtain ⟨_, -, hr⟩ := hr
      obtain ⟨_, _, _, _, _, _, -, -, -, -, happly, hs', hmsgs⟩ := updateConfig_eq_ok L hr
      rw [hmsgs] at hexec
      refine h.of_quiet_handler ?_ hexec hu₁ hinst rfl
      rw [hs']
      rcases applyUpdateParams_eq_ok L happly with ⟨rfl, -⟩ | ⟨-, _, _, -, hob, rfl⟩
      · rfl
      · simp [hob, view]
  | updateMarketTicks =>
      unfold execute at hr
      simp only [bind_eq_ok, Storage.loadConfig_eq_ok] at hr
      obtain ⟨_, -, hr⟩ := hr
      obtain ⟨_, _, hob, ⟨_, hticks⟩, hs', hmsgs⟩ := updateMarketTicks_eq_ok hr
      rw [hmsgs] at hexec
      obtain ⟨_, _, rfl⟩ := Orderbook.setTicks_eq_ok hticks
      exact h.of_quiet_handler (by simp [hs', hob, view]) hexec hu₁ hinst rfl
  | proposeNewOwner | dropOwnershipProposal | claimOwnership =>
      unfold execute at hr
      simp only [bind_eq_ok, liftStd_eq_ok, pure_eq_ok, Except.ok.injEq, Prod.mk.injEq,
        Storage.loadConfig_eq_ok] at hr
      obtain ⟨_, -, _, -, _, -, hs', hr'⟩ := hr
      subst hr'
      exact h.of_quiet_handler (by rw [← hs']) hexec hu₁ hinst rfl

theorem snap_instantiate {w w' : World} {x : External} {time : Nat} {msg : InstantiateMsg}
    (hinv' : AssetsNative w'.store) (h : Snap L pair w)
    (hs : step L pair token w (.instantiate x time msg) = some w') : Snap L pair w' := by
  simp only [step] at hs
  split_ifs at hs with hnone
  obtain ⟨r, hr, hu, hexec⟩ := commit_eq_some hs
  obtain ⟨config, ob, _, _, hc, hob, -, -, hinfos, -, hnew, _, hmsgs⟩ := instantiate_eq_ok L hr
  obtain ⟨hsub, base, quote, hfirst, hlast⟩ := Orderbook.new_snapshot L hnew
  rw [hmsgs] at hexec
  have hdep : w'.deposits = w.deposits :=
    (execMsgs_deposits hexec fun m hm => by rw [List.mem_singleton.1 hm]; rfl).trans rfl
  obtain ⟨_, b, q, -, -, hnative⟩ := hinv' config hc
  rw [hinfos] at hnative
  rw [hnative] at hfirst
  cases hfirst
  refine ⟨fun hn => (by rw [hob] at hn; cases hn), fun hn => (by rw [hc] at hn; cases hn),
    fun ob' hob' => ?_, fun ob' hob' => ?_⟩
  all_goals (rw [hob] at hob'; cases hob')
  · exact hsub
  · rw [hlast, (Orderbook.new_eq_ok L hnew).1, hnative, hdep, hu]
    simp [Agrees, h.fresh (h.instantiated hnone)]

theorem execute_receive_view {q : Querier} {env : Env} {s s' : Storage} {info : MessageInfo}
    {m : Cw20ReceiveMsg} {r : Response} (h : execute L q env s info (.receive m) = .ok (s', r)) :
    s'.obState.map view = s.obState.map view := by
  unfold execute at h
  simp only [bind_eq_ok, Storage.loadConfig_eq_ok] at h
  obtain ⟨_, -, h⟩ := h
  dsimp only [receiveCw20] at h
  split at h
  · obtain ⟨_, _, _, _, _, _, _, _, _, -, -, hob, -, -, -, -, -, -, -, -, rfl, -⟩ :=
      withdrawLiquidity_eq_ok L h
    simp [hob, view, Orderbook.reconcile]
  · simp at h
  · simp at h

theorem snap_lpSend {w w' : World} {x : External} {time : Nat} {owner : Addr} {amount : Nat}
    {hook : Option Cw20HookMsg} (h : Snap L pair w)
    (hs : step L pair token w (.lpSend x time owner amount hook) = some w')
    (hdep : w'.deposits = w.deposits) : Snap L pair w' := by
  simp only [step] at hs
  split_ifs at hs
  obtain ⟨w₁, h₁, hs⟩ := Option.bind_eq_some.1 hs
  obtain ⟨-, l, -, rfl⟩ := lpExec_eq_some h₁
  obtain ⟨r, hr, hu, -⟩ := commit_eq_some hs
  exact h.of_view (execute_receive_view hr) hdep hu fun hc => absurd hc (execute_config hr)

theorem snap_fill {w w' : World} {denom : String} {delta : Int} (h : Snap L pair w)
    (hs : step L pair token w (.fill denom delta) = some w') : Snap L pair w' := by
  simp only [step] at hs
  split_ifs at hs with hnn
  cases hs
  have hu : ∀ d, (if d = denom then w.unsettled d + delta else w.unsettled d) =
      w.unsettled d + if d = denom then delta else 0 := fun d => by split <;> simp
  have hdep : ∀ d, (setAt w.deposits denom ((w.deposits denom : Int) + delta).toNat d : Int) =
      w.deposits d + if d = denom then delta else 0 := fun d => by
    simp only [setAt_apply]
    split_ifs with hd
    · subst hd
      exact Int.toNat_of_nonneg hnn
    · simp
  refine ⟨fun hn d => ?_, h.instantiated, h.subaccount, fun ob hob => (h.agrees ob hob).shift hu hdep⟩
  dsimp only
  rw [hdep d, hu d, h.fresh hn d]

theorem snap_beginBlocker {w w' : World} {x : External} {time : Nat} {moved : List Coin}
    (h : Snap L pair w) (hs : step L pair token w (.beginBlocker x time moved) = some w') :
    Snap L pair w' := by
  simp only [step, beginBlocker, Option.bind_eq_bind, Option.bind_eq_some, Option.pure_def,
    Option.some.injEq] at hs
  obtain ⟨ob, hob, ⟨store, _⟩, hsettle, w₁, h₁, w₂, h₂, rfl⟩ := hs
  have hsubpair := h.subaccount ob hob
  obtain ⟨hs₁, hu₁⟩ := execMsgs_frame h₁
  have hs₂ : w₂.store = w₁.store :=
    foldlM_keeps (·.store) (fun _ _ _ _ h => (deposit_frame h).1) h₂
  have hu₂ : w₂.unsettled = w₁.unsettled :=
    foldlM_keeps (·.unsettled) (fun _ _ _ _ h => (deposit_frame h).2.2) h₂
  have hinst : store.config ≠ none := by
    rcases settlePending_eq_ok L (toOption_eq_some.1 hsettle) with rfl | ⟨_, _, -, rfl⟩
    · intro hc
      rw [h.instantiated hc] at hob
      cases hob
    · simp
  refine h.of_snapshot hob rfl rfl rfl (getSubaccountBalances_pair hsubpair) ?_
    (by rw [hs₂, hs₁]; exact hinst)
  rw [hu₂, hu₁]
  by_cases hne : ob.lastBalances ≠
      Orderbook.getSubaccountBalances ob.assetInfos (w.querier L pair token x) ob.subaccount
  · exact .inl fun _ => by simp [hne]
  · rw [not_not, getSubaccountBalances_pair hsubpair] at hne
    exact .inr ⟨by simp [hne, getSubaccountBalances_pair hsubpair], hne⟩

def isSend : Event → Bool
  | .lpSend .. => true
  | _ => false

theorem snap_step {w w' : World} {e : Event} (hw : Reachable L pair token w) (h : Snap L pair w)
    (hs : step L pair token w e = some w') (hsend : isSend e = true → w'.deposits = w.deposits) :
    Snap L pair w' := by
  cases e with
  | instantiate => exact snap_instantiate (reachable_assetsNative (.step _ hw hs)) h hs
  | reply =>
      obtain ⟨r, hr, hu, hexec⟩ := commit_eq_some hs
      obtain ⟨_, _, _, _, -, hc, -, -, -, hs', hmsgs⟩ := reply_eq_ok L hr
      rw [hmsgs] at hexec
      exact h.of_view (by rw [hs']) ((execMsgs_deposits hexec fun _ hm => nomatch hm).trans rfl) hu
        fun hc' => by simp [hs'] at hc'
  | execute => exact snap_execute (reachable_assetsNative hw) h hs
  | lpTransfer | lpBurn =>
      simp only [step] at hs
      split_ifs at hs
      obtain ⟨-, _, -, rfl⟩ := lpExec_eq_some hs
      exact ⟨h.fresh, h.instantiated, h.subaccount, h.agrees⟩
  | lpSend => exact snap_lpSend h hs (hsend rfl)
  | fill => exact snap_fill h hs
  | beginBlocker => exact snap_beginBlocker h hs
  | donate =>
      cases hs
      exact ⟨h.fresh, h.instantiated, h.subaccount, h.agrees⟩

variable (L pair token) in
/-- The worlds a run reaches from before the pair's instantiation when none of its withdrawals
moves the subaccount's funds. -/
inductive Quiet : World → Prop
  | init : Quiet World.init
  | step {w w' : World} (e : Event) : Quiet w → step L pair token w e = some w' →
      (isSend e = true → w'.deposits = w.deposits) → Quiet w'

theorem quiet_reachable_snap {w : World} (h : Quiet L pair token w) :
    Reachable L pair token w ∧ Snap L pair w := by
  induction h with
  | init => exact ⟨.init, ⟨fun _ _ => rfl, fun _ => rfl, fun _ h => (nomatch h), fun _ h => nomatch h⟩⟩
  | step e _ hs hsend ih => exact ⟨.step e ih.1 hs, snap_step ih.1 ih.2 hs hsend⟩

theorem quiet_of_foldlM : ∀ {es : List Event} {w w' : World},
    es.foldlM (step L pair token) w = some w' → (∀ e ∈ es, isSend e = false) →
      Quiet L pair token w → Quiet L pair token w'
  | [], _, _, h, _, hw => by cases h; exact hw
  | e :: es, w, w', h, hsend, hw => by
      simp only [List.foldlM_cons] at h
      obtain ⟨w₁, h₁, h⟩ := Option.bind_eq_some.1 h
      refine quiet_of_foldlM h (fun e' he' => hsend e' (.tail _ he')) (.step e hw h₁ fun he => ?_)
      rw [hsend e (.head _)] at he
      cases he

/-- The snapshot law holds along every run in which no withdrawal moves the subaccount's funds:
fills, provides, swaps, the emergency withdrawal and the begin blocker all keep it. -/
theorem quiet_run_settled {w : World} (h : Quiet L pair token w) : Settled L pair token w :=
  (quiet_reachable_snap h).2.settled

theorem quiet_run_settled_funded :
    Quiet sampleLib "pair" "lp" fundedWorld ∧ Settled sampleLib "pair" "lp" fundedWorld :=
  have hq := quiet_of_foldlM fundedRun_steps (by decide) .init
  ⟨hq, quiet_run_settled hq⟩

def withdrawEvent : Event := .lpSend sampleExternal 3 "alice" 199000 (some (.withdrawLiquidity []))

def withdrawnWorld : World := (step sampleLib "pair" "lp" fundedWorld withdrawEvent).getD World.init

/-- A run with no fill at all, whose snapshot law holds before the withdrawal and fails after it:
the withdrawal empties the subaccount through `leave_orderbook` but keeps the old
`last_balances`, so the next provide reads the pair's own transfer as an orderbook trade. -/
theorem withdraw_leaves_snapshot_stale :
    Reachable sampleLib "pair" "lp" fundedWorld ∧
      Settled sampleLib "pair" "lp" fundedWorld ∧
      step sampleLib "pair" "lp" fundedWorld withdrawEvent = some withdrawnWorld ∧
      (∀ d, withdrawnWorld.unsettled d = 0) ∧
      ¬ Settled sampleLib "pair" "lp" withdrawnWorld ∧
      passesTrade (.provideLiquidity [] none none none) withdrawnWorld.store
        (withdrawnWorld.querier sampleLib "pair" "lp" sampleExternal) = true := by
  exact ⟨reachable_of_run .init (run_of_foldlM fundedRun_steps),
    (settled_iff _ _ _ sampleExternal _).2 (by decide),
    (Option.getD_of_ne_none (Option.ne_none_iff_isSome.2 (by decide)) _).symm, fun _ => rfl,
    fun h => absurd ((settled_iff _ _ _ sampleExternal _).1 h) (by decide), by decide⟩

end GridironPcl.Run.Snapshot
