import GridironPcl.Frame
import GridironPcl.System

namespace GridironPcl.Run.Storage

open GridironPcl.Decimal GridironPcl.Assets GridironPcl.State GridironPcl.Deps GridironPcl.Utils
open GridironPcl.Contract.Instantiate GridironPcl.Contract.Provide GridironPcl.Contract.Withdraw
open GridironPcl.Contract.Execute GridironPcl.Frame GridironPcl.System

variable {L : Lib} {pair token : Addr}

theorem step_store {w w' : World} {e : Event} (h : step L pair token w e = some w') :
    (w.store.config = none ∧ ∃ x time msg r, e = .instantiate x time msg ∧
        instantiate L (w.querier L pair token x) ⟨time, pair⟩ w.store msg = .ok (w'.store, r)) ∨
      (∃ msg r, e = .reply msg ∧ reply L w.store msg = .ok (w'.store, r)) ∨
      Keeps L w.store w'.store := by
  cases e with
  | instantiate x time msg =>
      simp only [step] at h
      split_ifs at h with hc
      obtain ⟨r, hr, -⟩ := commit_eq_some h
      exact .inl ⟨hc, x, time, msg, r, rfl, hr⟩
  | reply msg =>
      obtain ⟨r, hr, -⟩ := commit_eq_some h
      exact .inr (.inl ⟨msg, r, rfl, hr⟩)
  | execute x time info msg =>
      simp only [step] at h
      split_ifs at h <;>
      · obtain ⟨w₁, h₁, rfl⟩ := Option.map_eq_some'.1 h
        obtain ⟨r, hr, -⟩ := commit_eq_some h₁
        exact .inr (.inr (execute_keeps hr))
  | lpTransfer | lpBurn =>
      simp only [step] at h
      split_ifs at h
      exact .inr (.inr ((lpExec_frame h).1 ▸ Keeps.refl _))
  | lpSend x time owner amount hook =>
      simp only [step] at h
      split_ifs at h
      obtain ⟨w₁, h₁, h⟩ := Option.bind_eq_some.1 h
      obtain ⟨r, hr, -⟩ := commit_eq_some h
      exact .inr (.inr ((lpExec_frame h₁).1 ▸ execute_keeps hr))
  | fill =>
      simp only [step] at h
      split_ifs at h
      cases h
      exact .inr (.inr (Keeps.refl _))
  | beginBlocker x time moved =>
      obtain ⟨_, _, _, _, ho, hsettle, hs⟩ := beginBlocker_store h
      exact .inr (.inr (hs ▸ keeps_settlePending hsettle ho rfl rfl rfl rfl rfl))
  | donate =>
      cases h
      exact .inr (.inr (Keeps.refl _))

theorem step_obState {w w' : World} {e : Event} {ob : OrderbookState} (hc : w.store.config ≠ none)
    (ho : w.store.obState = some ob) (h : step L pair token w e = some w') :
    ∃ ob', w'.store.obState = some ob' ∧ ob'.assetInfos = ob.assetInfos ∧
      ob'.marketId = ob.marketId ∧ ob'.subaccount = ob.subaccount := by
  rcases step_store h with ⟨hnone, -⟩ | ⟨msg, r, -, hr⟩ | hk
  · exact absurd hnone hc
  · obtain ⟨_, _, _, _, -, -, -, -, -, hs, -⟩ := reply_eq_ok L hr
    exact ⟨ob, by rw [hs]; exact ho, rfl, rfl, rfl⟩
  · exact hk.obState_of_old ho

variable (L) in
def ParamsInLimits (s : Storage) : Prop :=
  ∀ ob, s.obState = some ob →
    (L.orderSizeLimits.1 ≤ ob.ordersNumber ∧ ob.ordersNumber ≤ L.orderSizeLimits.2) ∧
      L.minTradesToAvgLimits.1 ≤ ob.minTradesToAvg ∧ ob.minTradesToAvg ≤ L.minTradesToAvgLimits.2

theorem paramsInLimits_step {w w' : World} {e : Event} (hinv : ParamsInLimits L w.store)
    (h : step L pair token w e = some w') : ParamsInLimits L w'.store := by
  intro ob' ho'
  rcases step_store h with ⟨-, x, time, msg, r, -, hi⟩ | ⟨msg, r, -, hr⟩ | hk
  · obtain ⟨_, ob, _, _, -, hob, -, -, -, -, hnew, -⟩ := instantiate_eq_ok L hi
    obtain rfl := Option.some.inj (hob.symm.trans ho')
    obtain ⟨-, hn, hm, _, hv⟩ := Orderbook.new_eq_ok L hnew
    obtain ⟨h1, h2, -⟩ := Orderbook.validate_eq_ok L hv
    exact ⟨hn ▸ Orderbook.validateParam_uint8 h1, hm ▸ Orderbook.validateParam_uint32 h2⟩
  · obtain ⟨_, _, _, _, -, -, -, -, -, hs, -⟩ := reply_eq_ok L hr
    rw [hs] at ho'
    exact hinv ob' ho'
  · obtain ⟨ob, ho, hmin, hord⟩ := hk.obState_of_new ho'
    refine ⟨?_, hmin ▸ (hinv ob ho).2⟩
    rcases hord with hn | hv
    · exact hn ▸ (hinv ob ho).1
    · exact Orderbook.validateParam_uint8 hv

theorem ordersNumber_minTradesToAvg_in_limits {w : World} (hw : Reachable L pair token w) :
    ParamsInLimits L w.store :=
  reachable_induction (fun _ h => nomatch h) (fun _ _ _ _ => paramsInLimits_step) hw

theorem ordersNumber_minTradesToAvg_in_limits_funded :
    Reachable sampleLib "pair" "lp" fundedWorld ∧
      fundedWorld.store.obState = some (fundedWorld.store.obState.get (by decide)) ∧
      ParamsInLimits sampleLib fundedWorld.store :=
  have hw := reachable_of_run .init (run_of_foldlM fundedRun_steps)
  ⟨hw, (Option.some_get _).symm, ordersNumber_minTradesToAvg_in_limits hw⟩

def AssetsNative (s : Storage) : Prop :=
  ∀ config, s.config = some config → ∃ ob base quote, s.obState = some ob ∧
    ob.assetInfos = config.pairInfo.assetInfos ∧
    config.pairInfo.assetInfos = [.nativeToken base, .nativeToken quote]

theorem assetsNative_step {w w' : World} {e : Event} (hinv : AssetsNative w.store)
    (h : step L pair token w e = some w') : AssetsNative w'.store := by
  intro c' hc'
  rcases step_store h with ⟨-, x, time, msg, r, -, hi⟩ | ⟨msg, r, -, hr⟩ | hk
  · obtain ⟨c, ob, _, _, hc, hob, -, -, hassets, -, hnew, -⟩ := instantiate_eq_ok L hi
    obtain rfl := Option.some.inj (hc.symm.trans hc')
    obtain ⟨hoa, -, -, _, hv⟩ := Orderbook.new_eq_ok L hnew
    obtain ⟨-, -, ids, hids⟩ := Orderbook.validate_eq_ok L hv
    obtain ⟨base, quote, hbq, -⟩ := Orderbook.calcMarketIds_eq_ok L hids
    exact ⟨ob, base, quote, hob, hoa.trans hassets.symm, hassets.trans hbq⟩
  · obtain ⟨c, _, _, _, -, hc, -, -, -, hs, -⟩ := reply_eq_ok L hr
    rw [hs] at hc' ⊢
    obtain rfl := Option.some.inj hc'
    exact hinv c hc
  · obtain ⟨c, hc, hpi⟩ := hk.config_of_new hc'
    obtain ⟨ob, base, quote, ho, h1, h2⟩ := hinv c hc
    obtain ⟨ob', ho', ha, -⟩ := hk.obState_of_old ho
    exact ⟨ob', base, quote, ho', by rw [ha, h1, hpi], by rw [hpi, h2]⟩

theorem reachable_assetsNative {w : World} (hw : Reachable L pair token w) :
    AssetsNative w.store :=
  reachable_induction (fun _ h => nomatch h) (fun _ _ _ _ => assetsNative_step) hw

theorem queryPools_native {q : Querier} {config : Config} {ob : OrderbookState}
    {precisions : Precisions} {pools : List DecimalAsset} {base quote : String}
    (hinfos : config.pairInfo.assetInfos = [.nativeToken base, .nativeToken quote])
    (h : queryPools q config ob precisions = .ok pools) :
    ∀ p ∈ pools, ∃ denom, p.info = .nativeToken denom := by
  intro p hp
  have hmem : p.info ∈ config.pairInfo.assetInfos := queryPools_infos h ▸ List.mem_map_of_mem _ hp
  rw [hinfos] at hmem
  rcases List.mem_pair.1 hmem with h | h <;> exact ⟨_, h⟩

/-- After instantiation the pair's two asset lists are equal and name two bank denoms, so the
`unreachable!` branch of a provide is never taken. -/
theorem assetInfos_native_and_equal {w : World} (hw : Reachable L pair token w) :
    ∀ config, w.store.config = some config → ∃ ob base quote, w.store.obState = some ob ∧
      ob.assetInfos = config.pairInfo.assetInfos ∧
      config.pairInfo.assetInfos = [.nativeToken base, .nativeToken quote] ∧
      ∀ q deposits pools, queryPools q config ob w.store.precisions = .ok pools →
        subtractDeposits deposits pools ≠ .error (.std cw20Prohibited) := by
  intro config hc
  obtain ⟨ob, base, quote, ho, h1, h2⟩ := reachable_assetsNative hw config hc
  exact ⟨ob, base, quote, ho, h1, h2, fun _ _ _ hp =>
    subtractDeposits_ne_cw20Prohibited (queryPools_native h2 hp)⟩

theorem assetInfos_native_and_equal_funded :
    Reachable sampleLib "pair" "lp" fundedWorld ∧
      fundedWorld.store.config = some (fundedWorld.store.config.get (by decide)) ∧
      ∃ ob base quote, fundedWorld.store.obState = some ob ∧
        ob.assetInfos = (fundedWorld.store.config.get (by decide)).pairInfo.assetInfos ∧
        (fundedWorld.store.config.get (by decide)).pairInfo.assetInfos =
          [.nativeToken base, .nativeToken quote] ∧
        ∀ q deposits pools, queryPools q (fundedWorld.store.config.get (by decide)) ob
            fundedWorld.store.precisions = .ok pools →
          subtractDeposits deposits pools ≠ .error (.std cw20Prohibited) :=
  have hw := reachable_of_run .init (run_of_foldlM fundedRun_steps)
  have hc := (Option.some_get (by decide : fundedWorld.store.config.isSome = true)).symm
  ⟨hw, hc, assetInfos_native_and_equal hw _ hc⟩

theorem storePrecisions_complete {q : Querier} {infos : List AssetInfo} {old precisions : Precisions}
    (h : storePrecisions q infos old = .ok precisions) :
    ∀ info ∈ infos, ∃ p, getPrecision precisions info = .ok p := by
  intro info hi
  simp only [storePrecisions, bind_eq_ok, pure_eq_ok, Except.ok.injEq] at h
  obtain ⟨stored, hs, rfl⟩ := h
  obtain ⟨e, he, hfe⟩ := mapM_ok_of_mem hs hi
  simp only [bind_eq_ok, pure_eq_ok, Except.ok.injEq] at hfe
  obtain ⟨_, -, rfl⟩ := hfe
  have hsome : ((stored ++ old).lookup info.toString).isSome :=
    List.lookup_isSome_iff.2 ⟨_, List.mem_append_left old he, beq_self_eq_true _⟩
  obtain ⟨p, hp⟩ := Option.isSome_iff_exists.1 hsome
  exact ⟨p, by simp [getPrecision, hp]⟩

def PrecisionsStored (w : World) : Prop :=
  ∀ config, w.store.config = some config →
    ∀ info ∈ config.pairInfo.assetInfos, ∃ p, getPrecision w.store.precisions info = .ok p

theorem precisionsStored_step {w w' : World} {e : Event} (hinv : PrecisionsStored w)
    (h : step L pair token w e = some w') : PrecisionsStored w' := by
  intro c' hc'
  rcases step_store h with ⟨-, x, time, msg, r, -, hi⟩ | ⟨msg, r, -, hr⟩ | hk
  · obtain ⟨c, _, _, _, hc, -, -, -, hassets, -⟩ := instantiate_eq_ok L hi
    obtain rfl := Option.some.inj (hc.symm.trans hc')
    rw [hassets]
    exact storePrecisions_complete (instantiate_precisions L hi)
  · obtain ⟨c, _, _, _, -, hc, -, -, -, hs, -⟩ := reply_eq_ok L hr
    rw [hs] at hc' ⊢
    obtain rfl := Option.some.inj hc'
    exact hinv c hc
  · obtain ⟨c, hc, hpi⟩ := hk.config_of_new hc'
    rw [hpi, hk.precisions]
    exact hinv c hc

theorem reachable_precisionsStored {w : World} (hw : Reachable L pair token w) : PrecisionsStored w :=
  reachable_induction (fun _ h => nomatch h) (fun _ _ _ _ => precisionsStored_step) hw

/-- In every reachable instantiated world each asset of the pair has a stored precision, so the
lookups of `query_pools` and `query_contract_balances` never miss, and every refund computed from a
pool query names an asset with a precision: the `get_precision(..).unwrap()` of line 656 never
panics. The precisions are stored at instantiation and never written again. -/
theorem reachable_precisions_stored {w : World} (hw : Reachable L pair token w) {config : Config}
    (hc : w.store.config = some config) :
    (∀ info ∈ config.pairInfo.assetInfos, ∃ p, getPrecision w.store.precisions info = .ok p) ∧
      ∀ q ob pools, queryPools q config ob w.store.precisions = .ok pools →
        ∀ amount totalShare, ∀ r ∈ getShareInAssets pools amount totalShare,
          ∃ p, getPrecision w.store.precisions r.info = .ok p := by
  have hp := reachable_precisionsStored hw config hc
  refine ⟨hp, fun q ob pools hpools amount totalShare r hr => hp r.info ?_⟩
  rw [← queryPools_infos hpools, ← getShareInAssets_infos pools amount totalShare]
  exact List.mem_map_of_mem _ hr

theorem reachable_precisions_stored_funded :
    Reachable sampleLib "pair" "lp" fundedWorld ∧
      fundedWorld.store.config = some (fundedWorld.store.config.get (by decide)) ∧
      (∀ info ∈ (fundedWorld.store.config.get (by decide)).pairInfo.assetInfos,
        ∃ p, getPrecision fundedWorld.store.precisions info = .ok p) ∧
      ∀ q ob pools, queryPools q (fundedWorld.store.config.get (by decide)) ob
          fundedWorld.store.precisions = .ok pools →
        ∀ amount totalShare, ∀ r ∈ getShareInAssets pools amount totalShare,
          ∃ p, getPrecision fundedWorld.store.precisions r.info = .ok p :=
  have hw := reachable_of_run .init (run_of_foldlM fundedRun_steps)
  have hc := (Option.some_get (by decide : fundedWorld.store.config.isSome = true)).symm
  ⟨hw, hc, reachable_precisions_stored hw hc⟩

theorem step_liquidityToken {w w' : World} {e : Event} {c' : Config}
    (h : step L pair token w e = some w') (hc' : w'.store.config = some c') :
    (w.store.config = none ∧ c'.pairInfo.liquidityToken = "") ∨
      ∃ c, w.store.config = some c ∧ (c'.pairInfo.liquidityToken = c.pairInfo.liquidityToken ∨
        c.pairInfo.liquidityToken = "" ∧ c'.pairInfo.liquidityToken ≠ "" ∧
        ∃ data addr, e = .reply ⟨instantiateTokenReplyId, .ok (some data)⟩ ∧
          L.parseInstantiateResponse data = .ok addr ∧
          L.addrValidate addr = .ok c'.pairInfo.liquidityToken) := by
  rcases step_store h with ⟨hnone, x, time, msg, r, -, hi⟩ | ⟨msg, r, rfl, hr⟩ | hk
  · obtain ⟨c, _, _, _, hc, -, -, htok, -⟩ := instantiate_eq_ok L hi
    obtain rfl := Option.some.inj (hc.symm.trans hc')
    exact .inl ⟨hnone, htok⟩
  · obtain ⟨c, data, addr, lt, rfl, hc, htok, hparse, hval, hs, -⟩ := reply_eq_ok L hr
    rw [hs] at hc'
    obtain rfl := Option.some.inj hc'
    exact .inr ⟨c, hc, .inr ⟨htok, L.addrValidate_ne_empty _ _ hval, data, addr, rfl, hparse, hval⟩⟩
  · obtain ⟨c, hc, hpi⟩ := hk.config_of_new hc'
    exact .inr ⟨c, hc, .inl (by rw [hpi])⟩

theorem step_config {w w' : World} {e : Event} {c : Config}
    (h : step L pair token w e = some w') (hc : w.store.config = some c) :
    ∃ c', w'.store.config = some c' ∧
      (c.pairInfo.liquidityToken ≠ "" → c'.pairInfo.liquidityToken = c.pairInfo.liquidityToken) := by
  rcases step_store h with ⟨hnone, -⟩ | ⟨msg, r, -, hr⟩ | hk
  · simp [hc] at hnone
  · obtain ⟨c₀, _, _, _, -, hc₀, htok, -, -, hs, -⟩ := reply_eq_ok L hr
    obtain rfl := Option.some.inj (hc.symm.trans hc₀)
    exact ⟨_, by rw [hs], fun hne => absurd htok hne⟩
  · obtain ⟨c', hc', hpi⟩ := hk.config_of_old hc
    exact ⟨c', hc', fun _ => by rw [hpi]⟩

theorem run_liquidityToken_frozen {w w' : World} (hrun : Run L pair token w w') {c : Config}
    (hc : w.store.config = some c) (hne : c.pairInfo.liquidityToken ≠ "") :
    ∃ c', w'.store.config = some c' ∧ c'.pairInfo.liquidityToken = c.pairInfo.liquidityToken := by
  induction hrun with
  | refl => exact ⟨c, hc, rfl⟩
  | step e _ hs ih =>
      obtain ⟨c₁, hc₁, h₁⟩ := ih
      obtain ⟨c₂, hc₂, h₂⟩ := step_config hs hc₁
      exact ⟨c₂, hc₂, (h₂ (h₁ ▸ hne)).trans h₁⟩

theorem run_liquidityToken {w w' : World} (hrun : Run L pair token w w') {c : Config}
    (hc : w.store.config = some c) :
    ∃ c', w'.store.config = some c' ∧
      (c'.pairInfo.liquidityToken = c.pairInfo.liquidityToken ∨ c'.pairInfo.liquidityToken ≠ "") := by
  induction hrun with
  | refl => exact ⟨c, hc, .inl rfl⟩
  | step e _ hs ih =>
      obtain ⟨c₁, hc₁, h₁⟩ := ih
      obtain ⟨c₂, hc₂, hkeep⟩ := step_config hs hc₁
      refine ⟨c₂, hc₂, ?_⟩
      by_cases hne : c₁.pairInfo.liquidityToken = ""
      · rcases step_liquidityToken hs hc₂ with ⟨hnone, -⟩ | ⟨c₁', hc₁', hch | ⟨-, hne₂, -⟩⟩
        · simp [hc₁] at hnone
        · obtain rfl := Option.some.inj (hc₁.symm.trans hc₁')
          exact h₁.imp (hch.trans ·) (fun h => absurd hne h)
        · exact .inr hne₂
      · rw [hkeep hne]
        exact h₁

/-- The LP token address is set once: `instantiate` stores it empty, the one change is to the
validated address of an instantiation reply, and a changed address never changes again. A reply
succeeds only on an empty address, and stores the validated address it parses. A withdrawal
accepts only the stored address as the sender of its `Receive`. -/
theorem liquidityToken_set_once :
    (∀ w w' e c', step L pair token w e = some w' → w'.store.config = some c' →
      (w.store.config = none ∧ c'.pairInfo.liquidityToken = "") ∨
        ∃ c, w.store.config = some c ∧ (c'.pairInfo.liquidityToken = c.pairInfo.liquidityToken ∨
          c.pairInfo.liquidityToken = "" ∧ c'.pairInfo.liquidityToken ≠ "" ∧
          ∃ data addr, e = .reply ⟨instantiateTokenReplyId, .ok (some data)⟩ ∧
            L.parseInstantiateResponse data = .ok addr ∧
            L.addrValidate addr = .ok c'.pairInfo.liquidityToken)) ∧
    (∀ w₀ w₁ w₂ c₀ c₁, Run L pair token w₀ w₁ → Run L pair token w₁ w₂ →
      w₀.store.config = some c₀ → w₁.store.config = some c₁ →
      c₁.pairInfo.liquidityToken ≠ c₀.pairInfo.liquidityToken →
      ∃ c₂, w₂.store.config = some c₂ ∧
        c₂.pairInfo.liquidityToken = c₁.pairInfo.liquidityToken) ∧
    (∀ q env s info sender amount assets s' r c, s.config = some c →
      withdrawLiquidity L q env s info sender amount assets = .ok (s', r) →
      info.sender = c.pairInfo.liquidityToken) ∧
    ∀ w w' msg, step L pair token w (.reply msg) = some w' →
      ∃ c c' data addr, msg = ⟨instantiateTokenReplyId, .ok (some data)⟩ ∧
        w.store.config = some c ∧ c.pairInfo.liquidityToken = "" ∧ w'.store.config = some c' ∧
        L.parseInstantiateResponse data = .ok addr ∧
        L.addrValidate addr = .ok c'.pairInfo.liquidityToken ∧ c'.pairInfo.liquidityToken ≠ "" := by
  refine ⟨fun _ _ _ _ => step_liquidityToken, ?_, ?_, ?_⟩
  · intro w₀ w₁ w₂ c₀ c₁ h₀₁ h₁₂ hc₀ hc₁ hch
    obtain ⟨c₁', hc₁', hstay | hne⟩ := run_liquidityToken h₀₁ hc₀ <;>
      obtain rfl := Option.some.inj (hc₁.symm.trans hc₁')
    · exact absurd hstay hch
    · exact run_liquidityToken_frozen h₁₂ hc₁ hne
  · intro q env s info sender amount assets s' r c hc h
    obtain ⟨c', _, _, _, _, _, _, _, _, hc', hsender, -⟩ := withdrawLiquidity_eq_ok L h
    rw [hsender, Option.some.inj (hc.symm.trans hc')]
  · intro w w' msg h
    obtain ⟨r, hr, -⟩ := commit_eq_some h
    obtain ⟨c, data, addr, lt, rfl, hc, htok, hparse, hval, hs, -⟩ := reply_eq_ok L hr
    exact ⟨c, _, data, addr, rfl, hc, htok, by rw [hs], hparse, hval,
      L.addrValidate_ne_empty _ _ hval⟩

def instantiatedWorld : World :=
  ((fundedRun.take 1).foldlM (step sampleLib "pair" "lp") World.init).getD World.init

def repliedWorld : World :=
  (step sampleLib "pair" "lp" instantiatedWorld (.reply ⟨1, .ok (some "lp")⟩)).getD World.init

theorem liquidityToken_set_once_replied :
    step sampleLib "pair" "lp" instantiatedWorld
        (.reply ⟨instantiateTokenReplyId, .ok (some "lp")⟩) = some repliedWorld ∧
      repliedWorld.store.config.map (·.pairInfo.liquidityToken) = some "lp" ∧
      ∃ c c' data addr,
        (⟨instantiateTokenReplyId, .ok (some "lp")⟩ : Reply) =
          ⟨instantiateTokenReplyId, .ok (some data)⟩ ∧
        instantiatedWorld.store.config = some c ∧ c.pairInfo.liquidityToken = "" ∧
        repliedWorld.store.config = some c' ∧ sampleLib.parseInstantiateResponse data = .ok addr ∧
        sampleLib.addrValidate addr = .ok c'.pairInfo.liquidityToken ∧
        c'.pairInfo.liquidityToken ≠ "" :=
  have h : step sampleLib "pair" "lp" instantiatedWorld
      (.reply ⟨instantiateTokenReplyId, .ok (some "lp")⟩) = some repliedWorld :=
    (Option.getD_of_ne_none (Option.ne_none_iff_isSome.2 (by decide)) _).symm
  ⟨h, by decide, liquidityToken_set_once.2.2.2 _ _ _ h⟩

theorem reachable_repliedWorld : Reachable sampleLib "pair" "lp" repliedWorld :=
  have h₀ : (fundedRun.take 1).foldlM (step sampleLib "pair" "lp") World.init =
      some instantiatedWorld :=
    (Option.getD_of_ne_none (Option.ne_none_iff_isSome.2 (by decide)) _).symm
  .step _ (reachable_of_run .init (run_of_foldlM h₀))
    (Option.getD_of_ne_none (Option.ne_none_iff_isSome.2 (by decide)) _).symm

/-- From any instantiated state, a step that changes the pool's fee and EMA parameters or the
orderbook's `orders_number` is an `update_config` sent by the owner, or by the factory's owner
when none is set: no other entry point, reply, token move, fill or begin blocker writes them. -/
theorem ownerParams_gated {w w' : World} {e : Event} {config : Config}
    (hc : w.store.config = some config) (h : step L pair token w e = some w') :
    ownerParams w'.store = ownerParams w.store ∨ ∃ x time info params factoryOwner,
      e = .execute x time info (.updateConfig params) ∧ x.factoryOwner = .ok factoryOwner ∧
      info.sender = config.owner.getD factoryOwner := by
  cases e with
  | instantiate => simp [step, hc] at h
  | reply msg =>
      obtain ⟨r, hr, -⟩ := commit_eq_some h
      obtain ⟨_, _, _, _, -, hc', -, -, -, hs, -⟩ := reply_eq_ok L hr
      exact .inl (by rw [hs]; simp [ownerParams, hc'])
  | execute x time info msg =>
      obtain ⟨-, w₁, r, hr, -, -, rfl⟩ := step_execute_eq_some h
      rcases execute_ownerParams hr with hk | ⟨params, c, factoryOwner, rfl, hc', hfo, hauth⟩
      · left
        split <;> exact hk
      · obtain rfl := Option.some.inj (hc.symm.trans hc')
        exact .inr ⟨x, time, info, params, factoryOwner, rfl, hfo, hauth⟩
  | lpTransfer | lpBurn =>
      simp only [step] at h
      split_ifs at h
      exact .inl (by rw [(lpExec_frame h).1])
  | lpSend x time owner amount hook =>
      simp only [step] at h
      split_ifs at h
      obtain ⟨w₁, h₁, h⟩ := Option.bind_eq_some.1 h
      obtain ⟨r, hr, -⟩ := commit_eq_some h
      rcases execute_ownerParams hr with hk | ⟨_, _, _, hmsg, -⟩
      · exact .inl (hk.trans (by rw [(lpExec_frame h₁).1]))
      · cases hmsg
  | fill =>
      simp only [step] at h
      split_ifs at h
      cases h
      exact .inl rfl
  | beginBlocker x time moved =>
      obtain ⟨_, _, _, _, ho, hsettle, hs⟩ := beginBlocker_store h
      exact .inl (hs ▸ ownerParams_settlePending hsettle ho rfl)
  | donate =>
      cases h
      exact .inl rfl

def ownerUpdate : Event :=
  .execute sampleExternal 3 ⟨"owner", []⟩ (.updateConfig (some (.updateOrderbookParams 7)))

def updatedWorld : World := (step sampleLib "pair" "lp" fundedWorld ownerUpdate).getD World.init

theorem ownerParams_gated_funded :
    step sampleLib "pair" "lp" fundedWorld ownerUpdate = some updatedWorld ∧
      ownerParams updatedWorld.store ≠ ownerParams fundedWorld.store ∧
      (ownerParams updatedWorld.store = ownerParams fundedWorld.store ∨
        ∃ x time info params factoryOwner,
          ownerUpdate = .execute x time info (.updateConfig params) ∧
          x.factoryOwner = .ok factoryOwner ∧
          info.sender = (fundedWorld.store.config.get (by decide)).owner.getD factoryOwner) :=
  have h : step sampleLib "pair" "lp" fundedWorld ownerUpdate = some updatedWorld :=
    (Option.getD_of_ne_none (Option.ne_none_iff_isSome.2 (by decide)) _).symm
  ⟨h, by decide, ownerParams_gated (Option.some_get _).symm h⟩

end GridironPcl.Run.Storage
