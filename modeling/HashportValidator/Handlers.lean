import HashportValidator.Router

/-!
# The event handlers

`handleLockLog` and `handleBurnLog` turn a router event into a `Transfer` and push it, after
the business-rule checks; `handleMintLog` and `handleUnlockLog` only touch metrics. Each
handler is written in the order of the Go function, every early `return` a `done` with the
effects performed so far.

Two places read a nil result. `handleLockLog` calls `chain.Int64()` before it checks the error
of `ChainID`, and it reads `nativeAsset.MinAmount` of `FungibleNativeAsset` without a nil
check; both are panics here. `constants.HederaNetworkId` is not in the sources and is a
parameter of every definition below.
-/
namespace HashportValidator

/-- The messages pushed by a run. -/
def pushes : List Effect → List Message
  | [] => []
  | .push m :: es => m :: pushes es
  | _ :: es => pushes es

@[simp] theorem pushes_nil : pushes [] = [] := rfl
@[simp] theorem pushes_push (m : Message) (es : List Effect) :
    pushes (.push m :: es) = m :: pushes es := rfl
@[simp] theorem pushes_metric (c : MetricCall) (es : List Effect) :
    pushes (.metric c :: es) = pushes es := rfl
@[simp] theorem pushes_reloadMembers (es : List Effect) :
    pushes (.reloadMembers :: es) = pushes es := rfl

@[simp] theorem pushes_append (es fs : List Effect) :
    pushes (es ++ fs) = pushes es ++ pushes fs := by
  induction es with
  | nil => rfl
  | cons e es ih => cases e <;> simp [ih]

theorem mem_pushes {m : Message} {es : List Effect} : m ∈ pushes es ↔ .push m ∈ es := by
  induction es with
  | nil => simp
  | cons e es ih => cases e <;> simp [ih, eq_comm]

/-- Metric calls of the handlers; none of them pushes. -/
def metricCall (kind : MetricKind) (sourceChainId targetChainId : Int64) (asset id : String) :
    Effect :=
  .metric ⟨kind, sourceChainId, targetChainId, asset, id⟩

section
variable (hederaNetworkId : Int64)

/-- The receiver as both handlers compute it: a Hedera account id, or an EVM address. -/
def recipientAccount (env : Env) (targetChainId : Int64) (receiver : List UInt8) :
    Except String String :=
  if targetChainId = hederaNetworkId then env.accountIDFromBytes receiver
  else .ok (env.bytesToAddress receiver)

/-- `properAmount`, run through `RemoveDecimals` when Hedera is the target. -/
def adjustDecimals (env : Env) (targetChainId : Int64) (amount : Int) (token : String) :
    Except String Int :=
  if targetChainId = hederaNetworkId then env.removeDecimals amount token else .ok amount

/-- The topic rule shared by both handlers: a live event in validator mode goes to a signing
topic, anything else to a read-only topic with its block's timestamp. -/
def route (w : Watcher) (env : Env) (signing readOnly : Topic) (tr : Transfer)
    (blockNumber : UInt64) : Message :=
  if w.validator = true ∧ blockNumber ≥ w.targetBlock then
    ⟨tr, if tr.targetChainId = hederaNetworkId then signing else .topicMessageSubmission⟩
  else
    let blockTimestamp := env.getBlockTimestamp (Int64.ofUInt64 blockNumber).val
    ⟨{ tr with timestamp := toString blockTimestamp },
      if tr.targetChainId = hederaNetworkId then readOnly else .readOnlyTransferSave⟩

/-- The transfer of a lock: the asset is native to the source chain. -/
def lockTransfer (e : RouterLock) (sourceChainId : Int64) (recipient wrappedAsset : String)
    (properAmount : Int) : Transfer :=
  { transactionId := transferId e.raw.txHash e.raw.index
    sourceChainId := sourceChainId
    targetChainId := Int64.ofInt e.targetChain
    nativeChainId := sourceChainId
    sourceAsset := e.token
    targetAsset := wrappedAsset
    nativeAsset := e.token
    receiver := recipient
    amount := toString properAmount }

/-- The transfer of a burn: the asset goes back to its native chain. -/
def burnTransfer (e : RouterBurn) (sourceChainId : Int64) (nativeAsset : NativeAsset)
    (recipient : String) (properAmount : Int) : Transfer :=
  { transactionId := transferId e.raw.txHash e.raw.index
    sourceChainId := sourceChainId
    targetChainId := Int64.ofInt e.targetChain
    nativeChainId := nativeAsset.chainId
    sourceAsset := e.token
    targetAsset := nativeAsset.asset
    nativeAsset := nativeAsset.asset
    receiver := recipient
    amount := toString properAmount }

/-- The metrics `handleLockLog` creates once it knows the chain id, without asking whether
monitoring is enabled. -/
def lockMetrics (chain : Int) (e : RouterLock) : List Effect :=
  (if Int64.ofInt e.targetChain ≠ hederaNetworkId then
    [metricCall .createMajorityReached (Int64.ofInt chain) (Int64.ofInt e.targetChain) e.token
      (transferId e.raw.txHash e.raw.index)] else []) ++
  [metricCall .createUserGetHisTokens (Int64.ofInt chain) (Int64.ofInt e.targetChain) e.token
    (transferId e.raw.txHash e.raw.index)]

/-- The metrics `handleBurnLog` creates when monitoring is enabled. -/
def burnMetrics (monitoring : Bool) (chain : Int) (e : RouterBurn) : List Effect :=
  if monitoring then
    [if Int64.ofInt e.targetChain ≠ hederaNetworkId then
      metricCall .createMajorityReached (Int64.ofInt chain) (Int64.ofInt e.targetChain) e.token
        (transferId e.raw.txHash e.raw.index)
    else metricCall .createFeeTransferred (Int64.ofInt chain) (Int64.ofInt e.targetChain) e.token
        (transferId e.raw.txHash e.raw.index),
    metricCall .createUserGetHisTokens (Int64.ofInt chain) (Int64.ofInt e.targetChain) e.token
      (transferId e.raw.txHash e.raw.index)]
  else []

def handleLockLog (w : Watcher) (env : Env) (e : RouterLock) : Outcome :=
  if e.raw.removed then .done [] else
  if e.receiver.length = 0 then .done [] else
  match env.chainID with
  -- `sourceChainId := chain.Int64()` runs on the nil result before `e` is checked
  | .error _ => .panic []
  | .ok chain =>
    match recipientAccount hederaNetworkId env (Int64.ofInt e.targetChain) e.receiver with
    | .error _ => .done (lockMetrics hederaNetworkId chain e)
    | .ok recipient =>
      if w.mappings.nativeToWrapped e.token (Int64.ofInt chain) (Int64.ofInt e.targetChain) = ""
      then .done (lockMetrics hederaNetworkId chain e) else
      match w.mappings.fungibleNativeAsset (Int64.ofInt chain) e.token with
      -- `nativeAsset.MinAmount` of a nil asset
      | none => .panic (lockMetrics hederaNetworkId chain e)
      | some nativeAsset =>
        if (e.amount : Int) < nativeAsset.minAmount then .done (lockMetrics hederaNetworkId chain e)
        else
        match adjustDecimals hederaNetworkId env (Int64.ofInt e.targetChain)
            ((e.amount : Int) - e.serviceFee) e.token with
        | .error _ => .done (lockMetrics hederaNetworkId chain e)
        | .ok properAmount =>
          if properAmount = 0 then .done (lockMetrics hederaNetworkId chain e) else
          .done (lockMetrics hederaNetworkId chain e ++
            [.push (route hederaNetworkId w env .hederaMintHtsTransfer
              .readOnlyHederaMintHtsTransfer
              (lockTransfer e (Int64.ofInt chain) recipient
                (w.mappings.nativeToWrapped e.token (Int64.ofInt chain) (Int64.ofInt e.targetChain))
                properAmount)
              e.raw.blockNumber)])

def handleBurnLog (w : Watcher) (env : Env) (e : RouterBurn) : Outcome :=
  if e.raw.removed then .done [] else
  if e.receiver.length = 0 then .done [] else
  match env.chainID with
  | .error _ => .done []
  | .ok chain =>
    match w.mappings.wrappedToNative e.token (Int64.ofInt chain) with
    | none => .done []
    | some nativeAsset =>
      -- wrapped to wrapped transfers are not supported
      if Int64.ofInt e.targetChain ≠ nativeAsset.chainId then
        .done (burnMetrics hederaNetworkId w.monitoringEnabled chain e) else
      match recipientAccount hederaNetworkId env (Int64.ofInt e.targetChain) e.receiver with
      | .error _ => .done (burnMetrics hederaNetworkId w.monitoringEnabled chain e)
      | .ok recipient =>
        match adjustDecimals hederaNetworkId env (Int64.ofInt e.targetChain) e.amount e.token with
        | .error _ => .done (burnMetrics hederaNetworkId w.monitoringEnabled chain e)
        | .ok properAmount =>
          if properAmount = 0 then .done (burnMetrics hederaNetworkId w.monitoringEnabled chain e)
          else
          if properAmount < nativeAsset.minAmount then
            .done (burnMetrics hederaNetworkId w.monitoringEnabled chain e) else
          .done (burnMetrics hederaNetworkId w.monitoringEnabled chain e ++
            [.push (route hederaNetworkId w env .hederaFeeTransfer .readOnlyHederaTransfer
              (burnTransfer e (Int64.ofInt chain) nativeAsset recipient properAmount)
              e.raw.blockNumber)])

/-! ## What a handler pushes -/

@[simp] theorem pushes_lockMetrics (chain : Int) (e : RouterLock) :
    pushes (lockMetrics hederaNetworkId chain e) = [] := by
  unfold lockMetrics metricCall; split <;> rfl

@[simp] theorem pushes_burnMetrics (monitoring : Bool) (chain : Int) (e : RouterBurn) :
    pushes (burnMetrics hederaNetworkId monitoring chain e) = [] := by
  unfold burnMetrics metricCall; split
  · split <;> rfl
  · rfl

/-- The topics of the signing branch of the topic rule; the others only record. -/
def Topic.forSigning : Topic → Bool
  | .hederaMintHtsTransfer | .hederaFeeTransfer | .topicMessageSubmission => true
  | .readOnlyHederaMintHtsTransfer | .readOnlyHederaTransfer | .readOnlyTransferSave => false

section route
variable (w : Watcher) (env : Env) (signing readOnly : Topic) (tr : Transfer) (n : UInt64)

/-- The topic rule: a signing topic, with the transfer as built, exactly for an event at or after
the live cutoff in validator mode; otherwise a read-only topic, with the block's timestamp. -/
theorem route_spec (hs : signing.forSigning = true) (hr : readOnly.forSigning = false)
    (htr : tr.timestamp = "") :
    ((route hederaNetworkId w env signing readOnly tr n).topic.forSigning = true ↔
      w.validator = true ∧ w.targetBlock ≤ n) ∧
    (route hederaNetworkId w env signing readOnly tr n).payload.timestamp =
      if (route hederaNetworkId w env signing readOnly tr n).topic.forSigning then ""
      else toString (env.getBlockTimestamp (Int64.ofUInt64 n).val) := by
  unfold route
  by_cases h : w.validator = true ∧ n ≥ w.targetBlock
  · have hsig : (if tr.targetChainId = hederaNetworkId then signing
        else .topicMessageSubmission).forSigning = true := by
      split
      · exact hs
      · rfl
    rw [if_pos h]
    dsimp only
    rw [hsig, if_pos rfl]
    exact ⟨⟨fun _ => h, fun _ => rfl⟩, htr⟩
  · have hro : (if tr.targetChainId = hederaNetworkId then readOnly
        else .readOnlyTransferSave).forSigning = false := by
      split
      · exact hr
      · rfl
    rw [if_neg h]
    dsimp only
    rw [hro, if_neg Bool.false_ne_true]
    exact ⟨⟨nofun, fun h' => absurd h' h⟩, rfl⟩

@[simp] theorem route_transactionId :
    (route hederaNetworkId w env signing readOnly tr n).payload.transactionId =
      tr.transactionId := by
  unfold route; split <;> rfl

@[simp] theorem route_amount :
    (route hederaNetworkId w env signing readOnly tr n).payload.amount = tr.amount := by
  unfold route; split <;> rfl

end route

/-- The checks a lock passed on its way to the queue, with the values they produced. -/
structure LockPushed (w : Watcher) (env : Env) (e : RouterLock) (chain : Int) (recipient : String)
    (nativeAsset : NativeAsset) (properAmount : Int) : Prop where
  notRemoved : e.raw.removed = false
  hasReceiver : e.receiver.length ≠ 0
  chainOk : env.chainID = .ok chain
  recipientOk :
    recipientAccount hederaNetworkId env (Int64.ofInt e.targetChain) e.receiver = .ok recipient
  wrapped : w.mappings.nativeToWrapped e.token (Int64.ofInt chain) (Int64.ofInt e.targetChain) ≠ ""
  nativeOk : w.mappings.fungibleNativeAsset (Int64.ofInt chain) e.token = some nativeAsset
  aboveMinimum : nativeAsset.minAmount ≤ e.amount
  adjusted : adjustDecimals hederaNetworkId env (Int64.ofInt e.targetChain)
    ((e.amount : Int) - e.serviceFee) e.token = .ok properAmount
  nonzero : properAmount ≠ 0

/-- The checks a burn passed on its way to the queue, with the values they produced. -/
structure BurnPushed (w : Watcher) (env : Env) (e : RouterBurn) (chain : Int)
    (nativeAsset : NativeAsset) (recipient : String) (properAmount : Int) : Prop where
  notRemoved : e.raw.removed = false
  hasReceiver : e.receiver.length ≠ 0
  chainOk : env.chainID = .ok chain
  nativeOk : w.mappings.wrappedToNative e.token (Int64.ofInt chain) = some nativeAsset
  sameChain : Int64.ofInt e.targetChain = nativeAsset.chainId
  recipientOk :
    recipientAccount hederaNetworkId env (Int64.ofInt e.targetChain) e.receiver = .ok recipient
  adjusted :
    adjustDecimals hederaNetworkId env (Int64.ofInt e.targetChain) e.amount e.token = .ok properAmount
  nonzero : properAmount ≠ 0
  aboveMinimum : nativeAsset.minAmount ≤ properAmount

/-- What `handleLockLog` can do: push nothing, panicking only on a failed `ChainID` or a token
with a wrapped asset and no fungible native asset; or pass every check and push one transfer. -/
theorem handleLockLog_cases (w : Watcher) (env : Env) (e : RouterLock) :
    (pushes (handleLockLog hederaNetworkId w env e).effects = [] ∧
      ((handleLockLog hederaNetworkId w env e).panicked = true →
        (∃ err, env.chainID = .error err) ∨ ∃ chain, env.chainID = .ok chain ∧
          w.mappings.nativeToWrapped e.token (Int64.ofInt chain) (Int64.ofInt e.targetChain) ≠ "" ∧
          w.mappings.fungibleNativeAsset (Int64.ofInt chain) e.token = none)) ∨
    ∃ chain recipient nativeAsset properAmount,
      LockPushed hederaNetworkId w env e chain recipient nativeAsset properAmount ∧
      handleLockLog hederaNetworkId w env e =
        .done (lockMetrics hederaNetworkId chain e ++
          [.push (route hederaNetworkId w env .hederaMintHtsTransfer .readOnlyHederaMintHtsTransfer
            (lockTransfer e (Int64.ofInt chain) recipient
              (w.mappings.nativeToWrapped e.token (Int64.ofInt chain) (Int64.ofInt e.targetChain))
              properAmount) e.raw.blockNumber)]) := by
  unfold handleLockLog
  by_cases hremoved : e.raw.removed
  · rw [if_pos hremoved]
    exact .inl ⟨rfl, nofun⟩
  rw [if_neg hremoved]
  by_cases hreceiver : e.receiver.length = 0
  · rw [if_pos hreceiver]
    exact .inl ⟨rfl, nofun⟩
  rw [if_neg hreceiver]
  rcases hchain : env.chainID with err | chain
  · exact .inl ⟨rfl, fun _ => .inl ⟨err, rfl⟩⟩
  dsimp only
  rcases hrecipient : recipientAccount hederaNetworkId env (Int64.ofInt e.targetChain)
    e.receiver with _ | recipient
  · exact .inl ⟨pushes_lockMetrics .., nofun⟩
  dsimp only
  by_cases hwrapped :
    w.mappings.nativeToWrapped e.token (Int64.ofInt chain) (Int64.ofInt e.targetChain) = ""
  · rw [if_pos hwrapped]
    exact .inl ⟨pushes_lockMetrics .., nofun⟩
  rw [if_neg hwrapped]
  rcases hnative : w.mappings.fungibleNativeAsset (Int64.ofInt chain) e.token with _ | nativeAsset
  · exact .inl ⟨pushes_lockMetrics .., fun _ => .inr ⟨chain, rfl, hwrapped, hnative⟩⟩
  dsimp only
  by_cases hmin : (e.amount : Int) < nativeAsset.minAmount
  · rw [if_pos hmin]
    exact .inl ⟨pushes_lockMetrics .., nofun⟩
  rw [if_neg hmin]
  rcases hproper : adjustDecimals hederaNetworkId env (Int64.ofInt e.targetChain)
    ((e.amount : Int) - e.serviceFee) e.token with _ | properAmount
  · exact .inl ⟨pushes_lockMetrics .., nofun⟩
  dsimp only
  by_cases hzero : properAmount = 0
  · rw [if_pos hzero]
    exact .inl ⟨pushes_lockMetrics .., nofun⟩
  rw [if_neg hzero]
  exact .inr ⟨chain, recipient, nativeAsset, properAmount, ⟨by simpa using hremoved, hreceiver,
    hchain, hrecipient, hwrapped, hnative, by omega, hproper, hzero⟩, rfl⟩

theorem mem_pushes_handleLockLog {w : Watcher} {env : Env} {e : RouterLock} {m : Message}
    (hm : m ∈ pushes (handleLockLog hederaNetworkId w env e).effects) :
    ∃ chain recipient nativeAsset properAmount,
      LockPushed hederaNetworkId w env e chain recipient nativeAsset properAmount ∧
      m = route hederaNetworkId w env .hederaMintHtsTransfer .readOnlyHederaMintHtsTransfer
        (lockTransfer e (Int64.ofInt chain) recipient
          (w.mappings.nativeToWrapped e.token (Int64.ofInt chain) (Int64.ofInt e.targetChain))
          properAmount) e.raw.blockNumber := by
  rcases handleLockLog_cases hederaNetworkId w env e with ⟨hp, -⟩ | ⟨_, _, _, _, hpushed, h⟩
  · exact absurd (hp ▸ hm) (List.not_mem_nil m)
  · rw [h] at hm
    simp only [Outcome.effects_done, pushes_append, pushes_lockMetrics, pushes_push, pushes_nil,
      List.nil_append, List.mem_singleton] at hm
    exact ⟨_, _, _, _, hpushed, hm⟩

/-- What `handleBurnLog` can do: push nothing without a panic, or pass every check and push one
transfer. -/
theorem handleBurnLog_cases (w : Watcher) (env : Env) (e : RouterBurn) :
    (pushes (handleBurnLog hederaNetworkId w env e).effects = [] ∧
      (handleBurnLog hederaNetworkId w env e).panicked = false) ∨
    ∃ chain nativeAsset recipient properAmount,
      BurnPushed hederaNetworkId w env e chain nativeAsset recipient properAmount ∧
      handleBurnLog hederaNetworkId w env e =
        .done (burnMetrics hederaNetworkId w.monitoringEnabled chain e ++
          [.push (route hederaNetworkId w env .hederaFeeTransfer .readOnlyHederaTransfer
            (burnTransfer e (Int64.ofInt chain) nativeAsset recipient properAmount)
            e.raw.blockNumber)]) := by
  unfold handleBurnLog
  by_cases hremoved : e.raw.removed
  · rw [if_pos hremoved]
    exact .inl ⟨rfl, rfl⟩
  rw [if_neg hremoved]
  by_cases hreceiver : e.receiver.length = 0
  · rw [if_pos hreceiver]
    exact .inl ⟨rfl, rfl⟩
  rw [if_neg hreceiver]
  rcases hchain : env.chainID with _ | chain
  · exact .inl ⟨rfl, rfl⟩
  dsimp only
  rcases hnative : w.mappings.wrappedToNative e.token (Int64.ofInt chain) with _ | nativeAsset
  · exact .inl ⟨rfl, rfl⟩
  dsimp only
  by_cases htarget : Int64.ofInt e.targetChain ≠ nativeAsset.chainId
  · rw [if_pos htarget]
    exact .inl ⟨pushes_burnMetrics .., rfl⟩
  rw [if_neg htarget]
  rcases hrecipient : recipientAccount hederaNetworkId env (Int64.ofInt e.targetChain)
    e.receiver with _ | recipient
  · exact .inl ⟨pushes_burnMetrics .., rfl⟩
  dsimp only
  rcases hproper : adjustDecimals hederaNetworkId env (Int64.ofInt e.targetChain) e.amount
    e.token with _ | properAmount
  · exact .inl ⟨pushes_burnMetrics .., rfl⟩
  dsimp only
  by_cases hzero : properAmount = 0
  · rw [if_pos hzero]
    exact .inl ⟨pushes_burnMetrics .., rfl⟩
  rw [if_neg hzero]
  by_cases hmin : properAmount < nativeAsset.minAmount
  · rw [if_pos hmin]
    exact .inl ⟨pushes_burnMetrics .., rfl⟩
  rw [if_neg hmin]
  exact .inr ⟨chain, nativeAsset, recipient, properAmount, ⟨by simpa using hremoved, hreceiver,
    hchain, hnative, not_not.mp htarget, hrecipient, hproper, hzero, by omega⟩, rfl⟩

theorem mem_pushes_handleBurnLog {w : Watcher} {env : Env} {e : RouterBurn} {m : Message}
    (hm : m ∈ pushes (handleBurnLog hederaNetworkId w env e).effects) :
    ∃ chain nativeAsset recipient properAmount,
      BurnPushed hederaNetworkId w env e chain nativeAsset recipient properAmount ∧
      m = route hederaNetworkId w env .hederaFeeTransfer .readOnlyHederaTransfer
        (burnTransfer e (Int64.ofInt chain) nativeAsset recipient properAmount)
        e.raw.blockNumber := by
  rcases handleBurnLog_cases hederaNetworkId w env e with ⟨hp, -⟩ | ⟨_, _, _, _, hpushed, h⟩
  · exact absurd (hp ▸ hm) (List.not_mem_nil m)
  · rw [h] at hm
    simp only [Outcome.effects_done, pushes_append, pushes_burnMetrics, pushes_push, pushes_nil,
      List.nil_append, List.mem_singleton] at hm
    exact ⟨_, _, _, _, hpushed, hm⟩

/-! ## Amounts and identifiers of pushed transfers -/

theorem adjustDecimals_nonneg {env : Env}
    (hdec : ∀ a t q, 0 ≤ a → env.removeDecimals a t = .ok q → 0 ≤ q)
    {targetChainId : Int64} {a q : Int} {token : String} (ha : 0 ≤ a)
    (h : adjustDecimals hederaNetworkId env targetChainId a token = .ok q) : 0 ≤ q := by
  unfold adjustDecimals at h
  split at h
  · exact hdec _ _ _ ha h
  · cases h; exact ha

/-- What the amount checks of the two handlers guarantee of a pushed transfer. A lock's minimum
is checked on the gross amount, before the service fee comes off. -/
def AmountsChecked (w : Watcher) (env : Env) : Prop :=
  (∀ e : RouterBurn, ∀ m ∈ pushes (handleBurnLog hederaNetworkId w env e).effects,
    ∃ chain nativeAsset q, env.chainID = .ok chain ∧
      w.mappings.wrappedToNative e.token (Int64.ofInt chain) = some nativeAsset ∧
      adjustDecimals hederaNetworkId env (Int64.ofInt e.targetChain) e.amount e.token = .ok q ∧
      m.payload.amount = toString q ∧ 0 < q ∧ nativeAsset.minAmount ≤ q) ∧
  (∀ e : RouterLock, ∀ m ∈ pushes (handleLockLog hederaNetworkId w env e).effects,
    ∃ chain nativeAsset q, env.chainID = .ok chain ∧
      w.mappings.fungibleNativeAsset (Int64.ofInt chain) e.token = some nativeAsset ∧
      nativeAsset.minAmount ≤ e.amount ∧
      adjustDecimals hederaNetworkId env (Int64.ofInt e.targetChain)
        ((e.amount : Int) - e.serviceFee) e.token = .ok q ∧
      m.payload.amount = toString q ∧ q ≠ 0 ∧ (e.serviceFee ≤ e.amount → 0 < q))

theorem handlers_pushed_amount (w : Watcher) (env : Env)
    (hdec : ∀ a t q, 0 ≤ a → env.removeDecimals a t = .ok q → 0 ≤ q) :
    AmountsChecked hederaNetworkId w env := by
  refine ⟨fun e m hm => ?_, fun e m hm => ?_⟩
  · obtain ⟨chain, nativeAsset, _, q, hp, rfl⟩ := mem_pushes_handleBurnLog hederaNetworkId hm
    have := adjustDecimals_nonneg hederaNetworkId hdec (Int.ofNat_nonneg _) hp.adjusted
    have := hp.nonzero
    exact ⟨chain, nativeAsset, q, hp.chainOk, hp.nativeOk, hp.adjusted, by simp [burnTransfer],
      by omega, hp.aboveMinimum⟩
  · obtain ⟨chain, _, nativeAsset, q, hp, rfl⟩ := mem_pushes_handleLockLog hederaNetworkId hm
    refine ⟨chain, nativeAsset, q, hp.chainOk, hp.nativeOk, hp.aboveMinimum, hp.adjusted,
      by simp [lockTransfer], hp.nonzero, fun hfee => ?_⟩
    have := adjustDecimals_nonneg hederaNetworkId hdec (by omega) hp.adjusted
    have := hp.nonzero
    omega

theorem handlers_pushed_amount_sample :
    (∀ a t q, 0 ≤ a → sampleEnv.removeDecimals a t = .ok q → 0 ≤ q) ∧
      AmountsChecked 296 sampleWatcher sampleEnv :=
  have hdec : ∀ a t q, 0 ≤ a → sampleEnv.removeDecimals a t = .ok q → 0 ≤ q := by
    intro a t q ha h
    cases h
    exact ha
  ⟨hdec, handlers_pushed_amount 296 sampleWatcher sampleEnv hdec⟩

/-- The spec's example lock, 1000 with a fee of 100 against a minimum of 1000, is not dropped:
its transfer goes out with 900, below the minimum. -/
theorem sampleLock_pushed_below_minimum :
    (pushes (handleLockLog 296 sampleWatcher sampleEnv sampleLock).effects).map
        (fun m => m.payload.amount) = ["900"] ∧
      (sampleLock.amount : Int) - sampleLock.serviceFee < 1000 := by
  decide

/-- `m` is a message that `handleLockLog` or `handleBurnLog` pushed for an event read from the
log `raw`. -/
def PushedFor (raw : Log) (m : Message) : Prop :=
  (∃ w env, ∃ e : RouterLock, e.raw = raw ∧
    m ∈ pushes (handleLockLog hederaNetworkId w env e).effects) ∨
  (∃ w env, ∃ e : RouterBurn, e.raw = raw ∧
    m ∈ pushes (handleBurnLog hederaNetworkId w env e).effects)

theorem transactionId_of_pushedFor {raw : Log} {m : Message} (h : PushedFor hederaNetworkId raw m) :
    m.payload.transactionId = transferId raw.txHash raw.index := by
  rcases h with ⟨w, env, e, rfl, hm⟩ | ⟨w, env, e, rfl, hm⟩
  · obtain ⟨_, _, _, _, -, rfl⟩ := mem_pushes_handleLockLog hederaNetworkId hm
    simp [lockTransfer]
  · obtain ⟨_, _, _, _, -, rfl⟩ := mem_pushes_handleBurnLog hederaNetworkId hm
    simp [burnTransfer]

/-- Two pushed transfers share an id exactly when they come from logs with the same
transaction hash and index: a re-delivered log keeps its id, and no two logs share one. -/
theorem pushed_transactionId_eq_iff {raw₁ raw₂ : Log} {m₁ m₂ : Message}
    (h₁ : PushedFor hederaNetworkId raw₁ m₁) (h₂ : PushedFor hederaNetworkId raw₂ m₂) :
    m₁.payload.transactionId = m₂.payload.transactionId ↔
      raw₁.txHash = raw₂.txHash ∧ raw₁.index = raw₂.index := by
  rw [transactionId_of_pushedFor hederaNetworkId h₁, transactionId_of_pushedFor hederaNetworkId h₂]
  exact transferId_inj

theorem pushed_transactionId_eq_iff_sample :
    ∃ m₁ m₂, PushedFor 296 sampleLock.raw m₁ ∧ PushedFor 296 sampleBurn.raw m₂ ∧
      (m₁.payload.transactionId = m₂.payload.transactionId ↔
        sampleLock.raw.txHash = sampleBurn.raw.txHash ∧
          sampleLock.raw.index = sampleBurn.raw.index) := by
  have h₁ : PushedFor 296 sampleLock.raw (route 296 sampleWatcher sampleEnv
      .hederaMintHtsTransfer .readOnlyHederaMintHtsTransfer
      (lockTransfer sampleLock 2 "0x00000000000000000000000000000000000000aa" "0xWrapped" 900)
      150) :=
    .inl ⟨sampleWatcher, sampleEnv, sampleLock, rfl, by decide⟩
  have h₂ : PushedFor 296 sampleBurn.raw (route 296 sampleWatcher sampleEnv
      .hederaFeeTransfer .readOnlyHederaTransfer
      (burnTransfer sampleBurn 2 ⟨3, "0xNative", 1000⟩ "0x00000000000000000000000000000000000000aa"
        5000) 150) :=
    .inr ⟨sampleWatcher, sampleEnv, sampleBurn, rfl, by decide⟩
  exact ⟨_, _, h₁, h₂, pushed_transactionId_eq_iff 296 h₁ h₂⟩

/-! ## Panics, and how much a handler pushes -/

theorem handleLockLog_not_panicked {w : Watcher} {env : Env} {e : RouterLock} {chain : Int}
    (hchain : env.chainID = .ok chain)
    (hnative : w.mappings.nativeToWrapped e.token (Int64.ofInt chain) (Int64.ofInt e.targetChain)
      ≠ "" → w.mappings.fungibleNativeAsset (Int64.ofInt chain) e.token ≠ none) :
    (handleLockLog hederaNetworkId w env e).panicked = false := by
  rcases handleLockLog_cases hederaNetworkId w env e with
    ⟨-, hpanic⟩ | ⟨_, _, _, _, -, h⟩
  · cases hp : (handleLockLog hederaNetworkId w env e).panicked
    · rfl
    rcases hpanic hp with ⟨err, herr⟩ | ⟨chain', hchain', hwrapped, hnone⟩
    · rw [hchain] at herr
      cases herr
    · rw [hchain] at hchain'
      cases hchain'
      exact absurd hnone (hnative hwrapped)
  · rw [h]
    rfl

theorem handleBurnLog_not_panicked (w : Watcher) (env : Env) (e : RouterBurn) :
    (handleBurnLog hederaNetworkId w env e).panicked = false := by
  rcases handleBurnLog_cases hederaNetworkId w env e with
    ⟨-, h⟩ | ⟨_, _, _, _, -, h⟩
  · exact h
  · rw [h]
    rfl

theorem pushes_handleLockLog_length (w : Watcher) (env : Env) (e : RouterLock) :
    (pushes (handleLockLog hederaNetworkId w env e).effects).length ≤ 1 := by
  rcases handleLockLog_cases hederaNetworkId w env e with
    ⟨hp, -⟩ | ⟨_, _, _, _, -, h⟩
  · simp [hp]
  · simp [h]

theorem pushes_handleBurnLog_length (w : Watcher) (env : Env) (e : RouterBurn) :
    (pushes (handleBurnLog hederaNetworkId w env e).effects).length ≤ 1 := by
  rcases handleBurnLog_cases hederaNetworkId w env e with
    ⟨hp, -⟩ | ⟨_, _, _, _, -, h⟩
  · simp [hp]
  · simp [h]

end

/-- The common body of `handleMintLog` and `handleUnlockLog`: an event confirming a transfer
from `sourceChain` to this chain sets the user's metric for the opposite asset. -/
def confirmTransfer (w : Watcher) (env : Env) (sourceChain : Nat) (transactionId token : String)
    (raw : Log) : Outcome :=
  if raw.removed then .done [] else
  match env.chainID with
  | .error _ => .done []
  | .ok chain =>
    let sourceChainId := Int64.ofInt sourceChain
    let targetChainId := Int64.ofInt chain
    let oppositeToken := w.mappings.getOppositeAsset sourceChainId.toUInt64
      targetChainId.toUInt64 token
    .done [metricCall .setUserGetHisTokens sourceChainId targetChainId oppositeToken transactionId]

theorem confirmTransfer_done (w : Watcher) (env : Env) (sourceChain : Nat)
    (transactionId token : String) (raw : Log) :
    (confirmTransfer w env sourceChain transactionId token raw).panicked = false ∧
      pushes (confirmTransfer w env sourceChain transactionId token raw).effects = [] := by
  unfold confirmTransfer
  split
  · exact ⟨rfl, rfl⟩
  cases env.chainID <;> exact ⟨rfl, rfl⟩

def handleMintLog (w : Watcher) (env : Env) (e : RouterMint) : Outcome :=
  confirmTransfer w env e.sourceChain e.transactionId e.token e.raw

def handleUnlockLog (w : Watcher) (env : Env) (e : RouterUnlock) : Outcome :=
  confirmTransfer w env e.sourceChain e.transactionId e.token e.raw

end HashportValidator
