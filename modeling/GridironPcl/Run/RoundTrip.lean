import GridironPcl.Run.Ledger

namespace GridironPcl.Run.RoundTrip

open GridironPcl.Decimal GridironPcl.Assets GridironPcl.State GridironPcl.Deps GridironPcl.Utils
open GridironPcl.Cw20 GridironPcl.Contract.Instantiate GridironPcl.Contract.Provide
open GridironPcl.Contract.Withdraw GridironPcl.Contract.Execute GridironPcl.System
open GridironPcl.Frame GridironPcl.Run.Storage GridironPcl.Run.Ledger

variable {L : Lib} {pair token : Addr}

variable (pair) in
def paidOut (denom : String) : Msg → Nat
  | .bankSend toAddress coin => if toAddress ≠ pair ∧ coin.denom = denom then coin.amount else 0
  | _ => 0

def holdings (w : World) (denom : String) : Nat := w.balances denom + w.deposits denom

theorem execMsg_holdings {w w' : World} {m : Msg} (h : execMsg L pair token w m = some w')
    (denom : String) : holdings w' denom + paidOut pair denom m = holdings w denom := by
  cases m with
  | bankSend toAddress coin =>
      simp only [execMsg] at h
      split_ifs at h with hle hto <;> cases h <;> by_cases hd : coin.denom = denom
      · -- a payment of this denom to the pair itself
        subst hd
        simp [holdings, paidOut, credit, hto]
        omega
      · simp [holdings, paidOut, credit, hd, Ne.symm hd]
      · -- a payment of this denom out of the pair
        subst hd
        simp [holdings, paidOut, hto]
        omega
      · simp [holdings, paidOut, hd, Ne.symm hd]
  | subaccountWithdraw sub d amount =>
      simp only [execMsg] at h
      split_ifs at h with hle
      cases h
      by_cases hd : d = denom
      · subst hd
        simp [holdings, paidOut, credit]
        omega
      · simp [holdings, paidOut, credit, hd, Ne.symm hd]
  | _ =>
      simp only [execMsg] at h
      (try split_ifs at h) <;> first | (obtain ⟨-, _, -, rfl⟩ := lpExec_eq_some h; rfl) |
        (cases h; rfl)

theorem execMsgs_holdings (denom : String) : ∀ {msgs : List Msg} {w w' : World},
    execMsgs L pair token w msgs = some w' →
      holdings w' denom + total (paidOut pair denom) msgs = holdings w denom
  | [], _, _, h => by cases h; rfl
  | m :: msgs, w, w', h => by
      simp only [execMsgs, List.foldlM_cons] at h
      obtain ⟨w₁, h₁, h⟩ := Option.bind_eq_some.1 h
      have := execMsgs_holdings denom h
      have := execMsg_holdings h₁ denom
      simp only [total_cons]
      omega

def sent : List Coin → String → Nat
  | [], _ => 0
  | coin :: funds, denom => (if coin.denom = denom then coin.amount else 0) + sent funds denom

theorem foldl_credit_apply (denom : String) :
    ∀ (funds : List Coin) (balances : String → Nat),
      funds.foldl credit balances denom = balances denom + sent funds denom
  | [], _ => rfl
  | coin :: funds, balances => by
      rw [List.foldl_cons, foldl_credit_apply denom funds, sent]
      by_cases hd : coin.denom = denom
      · subst hd
        simp [credit]
        omega
      · simp [credit, hd, Ne.symm hd]

theorem share_le_share {a b k n t : Nat} (h : a ≤ b) : a * k * n / t / k ≤ b * k * n / t / k :=
  Nat.div_le_div_right (Nat.div_le_div_right (Nat.mul_le_mul_right _ (Nat.mul_le_mul_right _ h)))

theorem refund_mem {q : Querier} {config : Config} {ob : OrderbookState} {precisions : Precisions}
    {pools : List DecimalAsset} {refunds : List Asset} {amount totalShare p : Nat}
    {denom : String} (hpools : queryPools q config ob precisions = .ok pools)
    (hrefunds : refundsToUint precisions (getShareInAssets pools (amount - 1) totalShare) =
      .ok refunds)
    (hden : .nativeToken denom ∈ config.pairInfo.assetInfos)
    (hp : getPrecision precisions (.nativeToken denom) = .ok p) (hp18 : p ≤ 18) :
    ∃ v, ⟨.nativeToken denom, v⟩ ∈ refunds ∧ v = (q.balance denom + q.deposit ob.subaccount denom) *
      Nat.pow 10 (18 - p) * (amount - 1) / totalShare / Nat.pow 10 (18 - p) := by
  obtain ⟨pool, hpool, hf⟩ := mapM_ok_of_mem hpools hden
  simp only [bind_eq_ok, pure_eq_ok, hp, Except.ok.injEq, exists_eq_left'] at hf
  subst hf
  obtain ⟨r, hr, hfr⟩ := mapM_ok_of_mem hrefunds
    (List.mem_map_of_mem (fun pool : DecimalAsset =>
      (⟨pool.info, ⟨pool.amount.atoms * (amount - 1) / totalShare⟩⟩ : DecimalAsset)) hpool)
  simp only [hp] at hfr
  split at hfr
  · rename_i v hv
    cases hfr
    refine ⟨v, hr, ?_⟩
    rw [Decimal256.toUint_eq_some hv hp18]
    simp [Decimal256.withPrecision, contractBalance, AssetInfo.toString, hp18]
  · cases hfr

theorem le_refund {m s bal d k : Nat} (hs : m + 2 ≤ s) (hk : 0 < k) (hbal : 2 * d ≤ bal) :
    d ≤ bal * k * (s - 1) / (m + s) / k := by
  rw [Nat.le_div_iff_mul_le hk, Nat.le_div_iff_mul_le (by omega)]
  calc d * k * (m + s) = d * (m + s) * k := Nat.mul_right_comm _ _ _
    _ ≤ 2 * d * (s - 1) * k := by
        apply Nat.mul_le_mul_right
        rw [Nat.mul_comm 2 d, Nat.mul_assoc]
        exact Nat.mul_le_mul_left d (by omega)
    _ ≤ bal * (s - 1) * k := Nat.mul_le_mul_right _ (Nat.mul_le_mul_right _ hbal)
    _ = bal * k * (s - 1) := Nat.mul_right_comm _ _ _

theorem withdraw_pays_refund {w w' : World} {x : External} {time : Nat} {owner : Addr}
    {amount : Nat} (h : step L pair token w
      (.lpSend x time owner amount (some (.withdrawLiquidity []))) = some w')
    {config : Config} (hc : w.store.config = some config) {denom : String}
    (hden : .nativeToken denom ∈ config.pairInfo.assetInfos) {p : Nat}
    (hp : getPrecision w.store.precisions (.nativeToken denom) = .ok p) (hp18 : p ≤ 18) :
    holdings w' denom + w.balances denom * Nat.pow 10 (18 - p) * (amount - 1) / supply w.ledger /
      Nat.pow 10 (18 - p) ≤ holdings w denom := by
  simp only [step] at h
  split_ifs at h with hne
  obtain ⟨w₁, h₁, h⟩ := Option.bind_eq_some.1 h
  obtain ⟨-, l, hl, rfl⟩ := lpExec_eq_some h₁
  obtain ⟨r, hr, -, hexec⟩ := commit_eq_some h
  unfold execute at hr
  simp only [bind_eq_ok, Storage.loadConfig_eq_ok] at hr
  obtain ⟨_, -, hr⟩ := hr
  obtain ⟨config', ob, pools, totalShare, _, _, _, _, refunds, hc', -, -, hpools, hts, -, -, -, -,
    -, hrefunds, -, hmsgs⟩ := withdrawLiquidity_eq_ok L hr
  obtain rfl : config' = config := Option.some.inj (hc'.symm.trans hc)
  obtain ⟨-, rfl⟩ := querier_supply hts
  obtain ⟨v, hv, hveq⟩ := refund_mem hpools hrefunds hden hp hp18
  have hmem : Msg.bankSend owner ⟨denom, v⟩ ∈ r.messages := by
    rw [hmsgs]
    exact List.mem_append_right _ (List.mem_append_left _
      (List.mem_map_of_mem (Asset.intoMsg · owner) hv))
  have hpaid := @le_total_of_mem (paidOut pair denom) _ _ hmem
  have hflow := execMsgs_holdings denom hexec
  have hle : w.balances denom * Nat.pow 10 (18 - p) * (amount - 1) / supply w.ledger /
      Nat.pow 10 (18 - p) ≤ v := by
    rw [hveq, ← (transfer_eq_some hl).2.2.1]
    exact share_le_share (Nat.le_add_right _ _)
  simp only [paidOut, ne_eq, hne, not_false_eq_true, and_self, if_true] at hpaid
  simp only [holdings] at hflow ⊢
  omega

theorem passesTrade_credit (msg : ExecuteMsg) (w : World) (balances : String → Nat)
    (x : External) : passesTrade msg w.store ({ w with balances }.querier L pair token x) =
      passesTrade msg w.store (w.querier L pair token x) := rfl

theorem execMsg_mint {w w' : World} {recipient : Addr} {amount : Nat}
    (h : execMsg L pair token w (.cw20Mint token recipient amount) = some w') :
    ∃ l, mint w.ledger recipient amount = some l ∧ w' = { w with ledger := l } := by
  simp only [execMsg, if_pos rfl] at h
  obtain ⟨-, l, hl, rfl⟩ := lpExec_eq_some h
  exact ⟨l, hl, rfl⟩

theorem first_provide_effect {w w' : World} {x : External} {time : Nat} {info : MessageInfo}
    {assets : List Asset} {slippageTolerance : Option Decimal256} (hinv : AssetsNative w.store)
    (hquiet : passesTrade (.provideLiquidity assets slippageTolerance none none) w.store
      (w.querier L pair token x) = false)
    (h0 : supply w.ledger = 0) (hne : info.sender ≠ pair)
    (h : step L pair token w
      (.execute x time info (.provideLiquidity assets slippageTolerance none none)) = some w') :
    (∀ denom, w'.balances denom = w.balances denom + sent info.funds denom) ∧
      w'.deposits = w.deposits ∧
      supply w'.ledger = L.minimumLiquidityAmount + balanceOf w'.ledger info.sender ∧
      w'.store.precisions = w.store.precisions ∧
      ∀ config, w.store.config = some config →
        ∃ config', w'.store.config = some config' ∧ config'.pairInfo = config.pairInfo := by
  obtain ⟨-, w₁, r, hr, hexec, -, rfl⟩ := step_execute_eq_some h
  rw [passesTrade_credit, hquiet, if_neg Bool.false_ne_true]
  have hk := execute_keeps hr
  unfold execute at hr
  simp only [bind_eq_ok, Storage.loadConfig_eq_ok] at hr
  obtain ⟨_, -, hr⟩ := hr
  obtain ⟨config, ob, _, out, hc, hob, hout, hprec, hmsgs⟩ := provideLiquidity_to_sender L hr
  obtain ⟨_, _, _, hob', hinfos, -⟩ := hinv config hc
  obtain rfl := Option.some.inj (hob'.symm.trans hob)
  have hfees : out.makerFees = [] := provideCompute_quiet L hout (by
    simp only [passesTrade, hob, decide_eq_false_iff_not, not_not] at hquiet
    rw [← hinfos]
    exact hquiet)
  obtain ⟨sup, hsup, hlock, -⟩ := provideCompute_spec L hout
  obtain ⟨ht, rfl⟩ := querier_supply hsup
  have hlock' : out.lockMinimum = true := by
    rw [hlock, h0]
    exact (Decimal256.isZero_withPrecision (by decide)).2 rfl
  rw [hmsgs, hfees, hlock', ht] at hexec
  simp only [execMsgs, List.map_nil, List.nil_append, if_true, List.singleton_append,
    List.foldlM_cons, List.foldlM_nil] at hexec
  obtain ⟨w₂, h₂, hexec⟩ := Option.bind_eq_some.1 hexec
  obtain ⟨w₃, h₃, hw₁⟩ := Option.bind_eq_some.1 hexec
  obtain ⟨l₁, hl₁, rfl⟩ := execMsg_mint h₂
  obtain ⟨l₂, hl₂, rfl⟩ := execMsg_mint h₃
  rw [← Option.some.inj hw₁]
  obtain ⟨-, hs₁, hb₁⟩ := mint_eq_some hl₁
  obtain ⟨-, hs₂, hb₂⟩ := mint_eq_some hl₂
  have := hb₁ info.sender
  have := hb₂ info.sender
  have := balanceOf_le_supply w.ledger info.sender
  refine ⟨fun denom => foldl_credit_apply denom _ _, rfl, ?_, hprec, fun config hc => ?_⟩
  · simp only [hne, if_false, if_true] at *
    omega
  · obtain ⟨config', hc', hpi⟩ := hk.config_of_old hc
    exact ⟨config', hc', hpi⟩

theorem lpSend_owner_ne {w w' : World} {x : External} {time : Nat} {owner : Addr} {amount : Nat}
    {hook : Option Cw20HookMsg} (h : step L pair token w (.lpSend x time owner amount hook) = some w') :
    owner ≠ pair := by
  simp only [step] at h
  split_ifs at h with hne
  exact hne

/-- A first provide into a pool whose bank balance of a denom already holds the coins sent of it,
minting the provider at least `MINIMUM_LIQUIDITY_AMOUNT + 2` LP tokens, and the withdrawal of all
of them right after: the provide keeps exactly the coins sent, and the withdrawal pays back at
least as many. What the pool held before goes to the first provider. -/
theorem first_round_trip_refunds_deposit {w w₁ w₂ : World} {x x' : External} {time time' : Nat}
    {info : MessageInfo} {assets : List Asset} {slippageTolerance : Option Decimal256}
    (hw : Reachable L pair token w) (h0 : supply w.ledger = 0)
    (hquiet : passesTrade (.provideLiquidity assets slippageTolerance none none) w.store
      (w.querier L pair token x) = false)
    (hprovide : step L pair token w
      (.execute x time info (.provideLiquidity assets slippageTolerance none none)) = some w₁)
    (hshare : L.minimumLiquidityAmount + 2 ≤ balanceOf w₁.ledger info.sender)
    (hwithdraw : step L pair token w₁ (.lpSend x' time' info.sender
      (balanceOf w₁.ledger info.sender) (some (.withdrawLiquidity []))) = some w₂)
    {config : Config} (hc : w.store.config = some config) {denom : String}
    (hden : .nativeToken denom ∈ config.pairInfo.assetInfos) {p : Nat}
    (hp : getPrecision w.store.precisions (.nativeToken denom) = .ok p) (hp18 : p ≤ 18)
    (hheld : sent info.funds denom ≤ w.balances denom) :
    holdings w₁ denom = holdings w denom + sent info.funds denom ∧
      holdings w₂ denom + sent info.funds denom ≤ holdings w₁ denom := by
  obtain ⟨hbal, hdep, hsup, hprec, hcfg⟩ := first_provide_effect (reachable_assetsNative hw) hquiet
    h0 (lpSend_owner_ne hwithdraw) hprovide
  obtain ⟨config', hc', hpi⟩ := hcfg config hc
  have hout := withdraw_pays_refund hwithdraw hc' (hpi ▸ hden) (hprec ▸ hp) hp18
  have hrefund := @le_refund _ _ (w₁.balances denom) (sent info.funds denom) (Nat.pow 10 (18 - p))
    hshare (Nat.pos_pow_of_pos _ (by decide)) (by rw [hbal]; omega)
  rw [hsup] at hout
  exact ⟨by simp only [holdings, hbal, hdep]; omega, by omega⟩

def donatedRun : List Event :=
  [.instantiate sampleExternal 0 sampleInstantiateMsg, .reply ⟨1, .ok (some "lp")⟩,
    .donate ⟨"base", 1000000⟩, .donate ⟨"quote", 1000000⟩]

def donatedWorld : World :=
  (donatedRun.foldlM (step sampleLib "pair" "lp") World.init).getD World.init

def firstProvide : Event :=
  .execute sampleExternal 1 ⟨"alice", [⟨"base", 100000⟩, ⟨"quote", 100000⟩]⟩
    (.provideLiquidity [⟨.nativeToken "base", 100000⟩, ⟨.nativeToken "quote", 100000⟩] none none
      none)

def providedWorld : World := (step sampleLib "pair" "lp" donatedWorld firstProvide).getD World.init

def fullWithdrawal : Event :=
  .lpSend sampleExternal 2 "alice" (balanceOf providedWorld.ledger "alice")
    (some (.withdrawLiquidity []))

def roundTripWorld : World :=
  (step sampleLib "pair" "lp" providedWorld fullWithdrawal).getD World.init

theorem donated_round_trip :
    Reachable sampleLib "pair" "lp" donatedWorld ∧ supply donatedWorld.ledger = 0 ∧
      step sampleLib "pair" "lp" donatedWorld firstProvide = some providedWorld ∧
      balanceOf providedWorld.ledger "alice" = 2199000 ∧
      step sampleLib "pair" "lp" providedWorld fullWithdrawal = some roundTripWorld ∧
      holdings roundTripWorld "base" + 100000 ≤ holdings providedWorld "base" ∧
      holdings roundTripWorld "quote" + 100000 ≤ holdings providedWorld "quote" := by
  have hrun : donatedRun.foldlM (step sampleLib "pair" "lp") World.init = some donatedWorld :=
    (Option.getD_of_ne_none (Option.ne_none_iff_isSome.2 (by decide)) _).symm
  have hw := reachable_of_run .init (run_of_foldlM hrun)
  have hprovide : step sampleLib "pair" "lp" donatedWorld firstProvide = some providedWorld :=
    (Option.getD_of_ne_none (Option.ne_none_iff_isSome.2 (by decide)) _).symm
  have hwithdraw : step sampleLib "pair" "lp" providedWorld fullWithdrawal = some roundTripWorld :=
    (Option.getD_of_ne_none (Option.ne_none_iff_isSome.2 (by decide)) _).symm
  have hc : donatedWorld.store.config = some (donatedWorld.store.config.get (by decide)) :=
    (Option.some_get _).symm
  have hbase : getPrecision donatedWorld.store.precisions (.nativeToken "base") = .ok 6 := by
    simp only [getPrecision, AssetInfo.toString,
      show donatedWorld.store.precisions.lookup "base" = some 6 by decide]
  have hquote : getPrecision donatedWorld.store.precisions (.nativeToken "quote") = .ok 6 := by
    simp only [getPrecision, AssetInfo.toString,
      show donatedWorld.store.precisions.lookup "quote" = some 6 by decide]
  exact ⟨hw, by decide, hprovide, by decide, hwithdraw,
    (first_round_trip_refunds_deposit hw (by decide) (by decide) hprovide (by decide) hwithdraw hc
      (by decide) hbase (by decide) (by decide)).2,
    (first_round_trip_refunds_deposit hw (by decide) (by decide) hprovide (by decide) hwithdraw hc
      (by decide) hquote (by decide) (by decide)).2⟩

end GridironPcl.Run.RoundTrip
