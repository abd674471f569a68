import HashportValidator.ProcessLogs

/-!
# Construction and the range of one poll

`NewWatcher` computes the live cutoff from the chain head, builds the log filter, and creates
the watermark of a new identity; one iteration of the loop of `beginWatching` reads the
watermark and the head and chooses the block range it hands to `processLogs`.

The status repository is the progress store behind `Get`, `Create` and `Update`: `Get` reports
`ErrRecordNotFound` exactly when no watermark is stored. `helper.Max` is not in the sources and
is modelled from the spec. The polling interval only decides how long the loop sleeps and is
left out.
-/
namespace HashportValidator

/-- The errors of `repository.Get`. -/
inductive StatusError
  | recordNotFound
  | failed (e : String)
  deriving DecidableEq

/-- `repository.Get(dbIdentifier)`. -/
def repositoryGet (env : Env) (store : ProgressStore) (id : String) : Except StatusError Int64 :=
  match env.getError, store id with
  | some e, _ => .error (.failed e)
  | none, some v => .ok v
  | none, none => .error .recordNotFound

/-- Modelled from the spec: `helper.Max`, not in the sources, is `max(0, currentHead -
confirmations)` of the construction contract; Go passes it the `uint64` difference. -/
def helperMax (x y : UInt64) : UInt64 := max x y

def defaultMaxLogsBlocks : Int64 := 500

/-- What `NewWatcher` is called with besides its collaborators and start block. `routerAddress`
is `contracts.Address()` and `monitoringEnabled` is what `prometheusService` reports. -/
structure Config where
  abi : RouterABI
  routerAddress : String
  mappings : Assets
  dbIdentifier : String
  validator : Bool
  maxLogsBlocks : Int64
  monitoringEnabled : Bool

/-- The `FilterConfig` that `NewWatcher` builds; a block limit of `0` means the default. -/
def newFilterConfig (cfg : Config) : FilterConfig where
  topics := [[cfg.abi.mintHash, cfg.abi.burnHash, cfg.abi.lockHash, cfg.abi.unlockHash,
    cfg.abi.memberUpdatedHash]]
  addresses := [cfg.routerAddress]
  mintHash := cfg.abi.mintHash
  burnHash := cfg.abi.burnHash
  lockHash := cfg.abi.lockHash
  unlockHash := cfg.abi.unlockHash
  memberUpdatedHash := cfg.abi.memberUpdatedHash
  maxLogsBlocks := if cfg.maxLogsBlocks = 0 then defaultMaxLogsBlocks else cfg.maxLogsBlocks
  nodup := cfg.abi.nodup

def watcherOf (cfg : Config) (targetBlock : UInt64) : Watcher where
  dbIdentifier := cfg.dbIdentifier
  mappings := cfg.mappings
  targetBlock := targetBlock
  validator := cfg.validator
  filterConfig := newFilterConfig cfg
  monitoringEnabled := cfg.monitoringEnabled

/-- `helper.Max(0, currentBlock-evmClient.BlockConfirmations())`. -/
def initialTargetBlock (currentBlock confirmations : UInt64) : UInt64 :=
  helperMax 0 (currentBlock - confirmations)

/-- `NewWatcher`: the watcher and the store it leaves, or `none` where it calls `log.Fatalf`. -/
def newWatcher (cfg : Config) (startBlock : Int64) (env : Env) (store : ProgressStore) :
    Option (Watcher × ProgressStore) :=
  match env.retryBlockNumber with
  | .error _ => none
  | .ok currentBlock =>
    if startBlock = 0 then
      match repositoryGet env store cfg.dbIdentifier with
      | .ok _ => some (watcherOf cfg (initialTargetBlock currentBlock env.blockConfirmations), store)
      | .error .recordNotFound =>
        match env.createError with
        | some _ => none
        | none => some (watcherOf cfg (initialTargetBlock currentBlock env.blockConfirmations),
            store.set cfg.dbIdentifier
              (Int64.ofUInt64 (initialTargetBlock currentBlock env.blockConfirmations)))
      | .error (.failed _) => none
    else
      match env.updateError with
      | some _ => none
      | none => some (watcherOf cfg startBlock.toUInt64, store.set cfg.dbIdentifier startBlock)

/-- `toBlock := int64(currentBlock - ew.evmClient.BlockConfirmations())`. -/
def confirmedBlock (currentBlock confirmations : UInt64) : Int64 :=
  Int64.ofUInt64 (currentBlock - confirmations)

/-- The clamp of `beginWatching`: `toBlock = fromBlock + maxLogsBlocks` when
`toBlock-fromBlock > maxLogsBlocks`. -/
def clampToBlock (maxLogsBlocks fromBlock toBlock : Int64) : Int64 :=
  if toBlock - fromBlock > maxLogsBlocks then fromBlock + maxLogsBlocks else toBlock

/-- The range one iteration of the loop of `beginWatching` hands to `processLogs`, or `none` when
it sleeps: the store or the head could not be read, or no new block is confirmed. -/
def pollRange (w : Watcher) (env : Env) (store : ProgressStore) : Option (Int64 × Int64) :=
  match repositoryGet env store w.dbIdentifier, env.retryBlockNumber with
  | .ok fromBlock, .ok currentBlock =>
    if fromBlock > confirmedBlock currentBlock env.blockConfirmations then none
    else some (fromBlock, clampToBlock w.filterConfig.maxLogsBlocks fromBlock
      (confirmedBlock currentBlock env.blockConfirmations))
  | _, _ => none

/-! ## What construction and one poll can do -/

@[simp] theorem watcherOf_dbIdentifier (cfg : Config) (targetBlock : UInt64) :
    (watcherOf cfg targetBlock).dbIdentifier = cfg.dbIdentifier := rfl

@[simp] theorem watcherOf_maxLogsBlocks (cfg : Config) (targetBlock : UInt64) :
    (watcherOf cfg targetBlock).filterConfig.maxLogsBlocks =
      if cfg.maxLogsBlocks = 0 then defaultMaxLogsBlocks else cfg.maxLogsBlocks := rfl

/-- Without a start block, `NewWatcher` writes only the watermark of an identity that has none. -/
theorem newWatcher_spec {cfg : Config} {env : Env} {store store' : ProgressStore} {w : Watcher}
    (h : newWatcher cfg 0 env store = some (w, store')) :
    ∃ currentBlock, env.retryBlockNumber = .ok currentBlock ∧
      w = watcherOf cfg (initialTargetBlock currentBlock env.blockConfirmations) ∧
      ((store cfg.dbIdentifier ≠ none ∧ store' = store) ∨
        (store cfg.dbIdentifier = none ∧ store' = store.set cfg.dbIdentifier
          (Int64.ofUInt64 (initialTargetBlock currentBlock env.blockConfirmations)))) := by
  unfold newWatcher at h
  cases hb : env.retryBlockNumber with
  | error => simp only [hb] at h; cases h
  | ok currentBlock =>
    simp only [hb, ↓reduceIte] at h
    unfold repositoryGet at h
    cases hg : env.getError with
    | some e => simp only [hg] at h; cases h
    | none =>
      cases hs : store cfg.dbIdentifier with
      | some v =>
        simp only [hg, hs, Option.some.injEq, Prod.mk.injEq] at h
        exact ⟨currentBlock, rfl, h.1.symm, .inl ⟨by simp, h.2.symm⟩⟩
      | none =>
        cases hc : env.createError with
        | some e => simp only [hg, hs, hc] at h; cases h
        | none =>
          simp only [hg, hs, hc, Option.some.injEq, Prod.mk.injEq] at h
          exact ⟨currentBlock, rfl, h.1.symm, .inr ⟨rfl, h.2.symm⟩⟩

/-- A poll starts at the stored watermark, and only when a confirmed block lies at or after it. -/
theorem pollRange_spec {w : Watcher} {env : Env} {store : ProgressStore} {fromBlock toBlock : Int64}
    (h : pollRange w env store = some (fromBlock, toBlock)) :
    ∃ currentBlock, store w.dbIdentifier = some fromBlock ∧
      env.retryBlockNumber = .ok currentBlock ∧
      fromBlock.val ≤ (confirmedBlock currentBlock env.blockConfirmations).val ∧
      toBlock = clampToBlock w.filterConfig.maxLogsBlocks fromBlock
        (confirmedBlock currentBlock env.blockConfirmations) := by
  unfold pollRange repositoryGet at h
  cases hg : env.getError with
  | some e => simp only [hg] at h; cases h
  | none =>
    cases hs : store w.dbIdentifier with
    | none => simp only [hg, hs] at h; cases h
    | some v =>
      cases hb : env.retryBlockNumber with
      | error => simp only [hg, hs, hb] at h; cases h
      | ok currentBlock =>
        simp only [hg, hs, hb] at h
        split at h
        · cases h
        · rename_i hle
          simp only [Option.some.injEq, Prod.mk.injEq] at h
          obtain ⟨rfl, rfl⟩ := h
          exact ⟨currentBlock, rfl, rfl, Int.not_lt.mp hle, rfl⟩

theorem clampToBlock_mem {m f t : Int64} (hm : 0 ≤ m.val) (hf : f.val ≤ t.val) :
    f.val ≤ (clampToBlock m f t).val ∧ (clampToBlock m f t).val ≤ t.val := by
  have hf₁ := f.lower
  have ht₂ := t.upper
  unfold clampToBlock
  split
  · rename_i hc
    simp only [Int64.lt_iff, Int64.val_sub] at hc
    simp only [Int64.val_add]
    unfold wrap at hc ⊢
    split at hc <;> split <;> omega
  · omega

theorem clampToBlock_sub_le {m f t : Int64} (hm : 0 ≤ m.val) (hf : 0 ≤ f.val)
    (hle : f.val ≤ t.val) : (clampToBlock m f t).val - f.val ≤ m.val := by
  have ht := t.upper
  unfold clampToBlock
  split <;> rename_i hc <;> simp only [Int64.lt_iff, Int64.val_sub] at hc
  · simp only [Int64.val_add]
    unfold wrap at hc ⊢
    split at hc <;> split <;> omega
  · unfold wrap at hc
    split at hc <;> omega

theorem clampToBlock_val {m f t : Int64} (hm : 0 ≤ m.val) (hf : 0 ≤ f.val) (hle : f.val ≤ t.val) :
    (clampToBlock m f t).val = min (f.val + m.val) t.val := by
  have ht := t.upper
  unfold clampToBlock
  split <;> rename_i hc <;> simp only [Int64.lt_iff, Int64.val_sub] at hc
  · simp only [Int64.val_add]
    unfold wrap at hc ⊢
    split at hc <;> split <;> omega
  · unfold wrap at hc
    split at hc <;> omega

/-! ## The sample configuration -/

def sampleABI : RouterABI := ⟨.filled 1, .filled 2, .filled 3, .filled 4, .filled 5, by decide⟩

/-- The sample watcher's configuration, with the block limit left at `0`. -/
def sampleConfig : Config :=
  ⟨sampleABI, "0x0000000000000000000000000000000000000001", sampleAssets,
    sampleWatcher.dbIdentifier, true, 0, true⟩

/-- A chain of 5 blocks asked for 10 confirmations, as on a new development chain. -/
def youngChainEnv : Env := { sampleEnv with retryBlockNumber := .ok 5, blockConfirmations := 10 }

/-- Five blocks less ten confirmations wraps in `uint64` before `helper.Max` sees it: the live
cutoff lies far above the head, and the watermark created for the new identity is `-5`. -/
theorem newWatcher_young_chain :
    (newWatcher sampleConfig 0 youngChainEnv (fun _ => none)).map
        (fun r => (r.1.targetBlock, r.2 sampleConfig.dbIdentifier)) =
      some (18446744073709551611, some (Int64.ofInt (-5))) := by
  decide

/-! ## The span of a query -/

/-- A query starts at the stored watermark and, for a non-negative limit and watermark, covers
at least one block and at most one more than the limit. -/
theorem pollRange_span {w : Watcher} {env : Env} {store : ProgressStore}
    {fromBlock toBlock : Int64} (hmax : 0 ≤ w.filterConfig.maxLogsBlocks.val)
    (h : pollRange w env store = some (fromBlock, toBlock)) (hfrom : 0 ≤ fromBlock.val) :
    store w.dbIdentifier = some fromBlock ∧ 1 ≤ toBlock.val - fromBlock.val + 1 ∧
      toBlock.val - fromBlock.val + 1 ≤ w.filterConfig.maxLogsBlocks.val + 1 := by
  obtain ⟨_, hstore, -, hle, rfl⟩ := pollRange_spec h
  have := clampToBlock_mem hmax hle
  have := clampToBlock_sub_le hmax hfrom hle
  exact ⟨hstore, by omega, by omega⟩

/-- A backlog of 5000 blocks above a watermark of 0, with no confirmations. -/
def backlogEnv : Env := { sampleEnv with retryBlockNumber := .ok 5000, blockConfirmations := 0 }

theorem pollRange_span_sample :
    0 ≤ (watcherOf sampleConfig 5000).filterConfig.maxLogsBlocks.val ∧
      pollRange (watcherOf sampleConfig 5000) backlogEnv (fun _ => some 0) = some (0, 500) ∧
      0 ≤ (0 : Int64).val ∧
      ((fun _ => some 0 : ProgressStore) sampleConfig.dbIdentifier = some 0 ∧
        1 ≤ (500 : Int64).val - (0 : Int64).val + 1 ∧
        (500 : Int64).val - (0 : Int64).val + 1 ≤
          (watcherOf sampleConfig 5000).filterConfig.maxLogsBlocks.val + 1) :=
  have hmax : 0 ≤ (watcherOf sampleConfig 5000).filterConfig.maxLogsBlocks.val := by decide
  have hrange : pollRange (watcherOf sampleConfig 5000) backlogEnv (fun _ => some 0) =
      some (0, 500) := by decide
  ⟨hmax, hrange, by decide, pollRange_span hmax hrange (by decide)⟩

/-- With the default limit of 500 the first query of the backlog is `[0, 500]`, 501 blocks; a
limit of `-1`, which `NewWatcher` accepts, gives the empty query `[0, -1]`. -/
theorem pollRange_backlog_first_query :
    (newFilterConfig sampleConfig).maxLogsBlocks = 500 ∧
      pollRange (watcherOf sampleConfig 5000) backlogEnv (fun _ => some 0) = some (0, 500) ∧
      pollRange (watcherOf { sampleConfig with maxLogsBlocks := Int64.ofInt (-1) } 5000) backlogEnv
        (fun _ => some 0) = some (0, Int64.ofInt (-1)) := by
  decide

end HashportValidator
