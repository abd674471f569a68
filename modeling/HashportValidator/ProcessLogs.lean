import HashportValidator.Handlers

/-!
# Dispatching one range of logs

`processLogs` fetches the logs of a block range, hands each log to the handler its first topic
selects and, when the whole range went through, advances the watermark past the range.

A parser that fails returns `(nil, err)`, and the error branch of the dispatch loop formats
`lock.Raw.TxHash` of that nil result before its `continue`: the goroutine panics there, and
with it the process. A panic ends the run of `processLogs` with the effects so far and the store
as it was.
-/
namespace HashportValidator

section
variable (hederaNetworkId : Int64)

/-- One iteration of `for _, log := range logs` in `processLogs`. -/
def processLog (w : Watcher) (env : Env) (log : Log) : Outcome :=
  match log.topics with
  | [] => .done []
  | topic :: _ =>
    if topic = w.filterConfig.lockHash then
      match env.parseLockLog log with
      | .error _ => .panic []
      | .ok lock => handleLockLog hederaNetworkId w env lock
    else if topic = w.filterConfig.unlockHash then
      match env.parseUnlockLog log with
      | .error _ => .panic []
      | .ok unlock => handleUnlockLog w env unlock
    else if topic = w.filterConfig.mintHash then
      match env.parseMintLog log with
      | .error _ => .panic []
      | .ok mint => handleMintLog w env mint
    else if topic = w.filterConfig.burnHash then
      match env.parseBurnLog log with
      | .error _ => .panic []
      | .ok burn => handleBurnLog hederaNetworkId w env burn
    else if topic = w.filterConfig.memberUpdatedHash then .done [.reloadMembers]
    else .done []

/-- The dispatch loop of `processLogs`. -/
def handleLogs (w : Watcher) (env : Env) : List Log → Outcome
  | [] => .done []
  | log :: logs => (processLog hederaNetworkId w env log).andThen (handleLogs w env logs)

end

/-- The query `processLogs` sends for the inclusive range `[fromBlock, endBlock]`. -/
def filterQuery (w : Watcher) (fromBlock endBlock : Int64) : FilterQuery :=
  ⟨fromBlock, endBlock, w.filterConfig.addresses, w.filterConfig.topics⟩

/-- How a call of `processLogs` ends: `nil`, an error, or a panic. -/
inductive Exit
  | ok
  | err (e : String)
  | panic
  deriving DecidableEq

structure ProcessResult where
  effects : List Effect
  exit : Exit
  store : ProgressStore

section
variable (hederaNetworkId : Int64)

def processLogs (w : Watcher) (env : Env) (store : ProgressStore) (fromBlock endBlock : Int64) :
    ProcessResult :=
  match env.retryFilterLogs (filterQuery w fromBlock endBlock) with
  | .error e => ⟨[], .err e, store⟩
  | .ok logs =>
    match handleLogs hederaNetworkId w env logs with
    | .panic es => ⟨es, .panic, store⟩
    | .done es =>
      -- the bounds are inclusive, so the next range starts after `endBlock`
      match env.updateError with
      | some e => ⟨es, .err e, store⟩
      | none => ⟨es, .ok, store.set w.dbIdentifier (endBlock + 1)⟩

/-! ## The loop and the store -/

@[simp] theorem handleLogs_nil (w : Watcher) (env : Env) :
    handleLogs hederaNetworkId w env [] = .done [] := rfl

theorem handleLogs_cons (w : Watcher) (env : Env) (log : Log) (logs : List Log) :
    handleLogs hederaNetworkId w env (log :: logs) =
      (processLog hederaNetworkId w env log).andThen (handleLogs hederaNetworkId w env logs) := rfl

theorem handleLogs_panicked (w : Watcher) (env : Env) (logs : List Log) :
    (handleLogs hederaNetworkId w env logs).panicked =
      logs.any (fun log => (processLog hederaNetworkId w env log).panicked) := by
  induction logs with
  | nil => rfl
  | cons log logs ih =>
      rw [handleLogs_cons, List.any_cons, ← ih]
      cases processLog hederaNetworkId w env log <;>
        cases handleLogs hederaNetworkId w env logs <;> rfl

theorem processLogs_store (w : Watcher) (env : Env) (store : ProgressStore)
    (fromBlock endBlock : Int64) :
    (processLogs hederaNetworkId w env store fromBlock endBlock).store =
      if (processLogs hederaNetworkId w env store fromBlock endBlock).exit = .ok
      then store.set w.dbIdentifier (endBlock + 1) else store := by
  unfold processLogs
  cases env.retryFilterLogs (filterQuery w fromBlock endBlock) with
  | error => rfl
  | ok logs =>
    dsimp only
    cases handleLogs hederaNetworkId w env logs with
    | panic => rfl
    | done => cases env.updateError <;> rfl

theorem handleLogs_append (w : Watcher) (env : Env) (l₁ l₂ : List Log) :
    handleLogs hederaNetworkId w env (l₁ ++ l₂) =
      (handleLogs hederaNetworkId w env l₁).andThen (handleLogs hederaNetworkId w env l₂) := by
  induction l₁ with
  | nil => exact (Outcome.done_nil_andThen _).symm
  | cons log logs ih =>
    rw [List.cons_append, handleLogs_cons, handleLogs_cons, ih, Outcome.andThen_assoc]

theorem processLogs_of_processLog_panic {w : Watcher} {env : Env} {store : ProgressStore}
    {fromBlock endBlock : Int64} {pre post : List Log} {log : Log} {es : List Effect}
    (hlogs : env.retryFilterLogs (filterQuery w fromBlock endBlock) = .ok (pre ++ log :: post))
    (hlog : processLog hederaNetworkId w env log = .panic es) :
    processLogs hederaNetworkId w env store fromBlock endBlock =
      ⟨((handleLogs hederaNetworkId w env pre).andThen (.panic es)).effects, .panic, store⟩ := by
  unfold processLogs
  rw [hlogs]
  dsimp only
  rw [handleLogs_append, handleLogs_cons, hlog]
  cases handleLogs hederaNetworkId w env pre <;> rfl

theorem processLogs_of_handleLogs_done {w : Watcher} {env : Env} (store : ProgressStore)
    {fromBlock endBlock : Int64} {logs : List Log} {es : List Effect}
    (hlogs : env.retryFilterLogs (filterQuery w fromBlock endBlock) = .ok logs)
    (hdone : handleLogs hederaNetworkId w env logs = .done es) :
    (processLogs hederaNetworkId w env store fromBlock endBlock).exit ≠ .panic ∧
      (processLogs hederaNetworkId w env store fromBlock endBlock).effects = es := by
  unfold processLogs
  rw [hlogs]
  dsimp only
  rw [hdone]
  cases env.updateError <;> simp

theorem processLogs_delivered {w : Watcher} {env : Env} {store : ProgressStore}
    {fromBlock endBlock : Int64}
    (h : (processLogs hederaNetworkId w env store fromBlock endBlock).exit = .ok) :
    (env.retryFilterLogs (filterQuery w fromBlock endBlock)).isOk = true := by
  unfold processLogs at h
  cases hf : env.retryFilterLogs (filterQuery w fromBlock endBlock) with
  | error e => simp [hf] at h
  | ok logs => rfl

/-! ## Parse and chain-id failures -/

/-- The parser that the first topic of `log` selects fails on it. -/
def ParseFails (w : Watcher) (env : Env) (log : Log) : Prop :=
  ∃ topic rest, log.topics = topic :: rest ∧
    ((topic = w.filterConfig.lockHash ∧ ∃ err, env.parseLockLog log = .error err) ∨
      (topic = w.filterConfig.unlockHash ∧ ∃ err, env.parseUnlockLog log = .error err) ∨
      (topic = w.filterConfig.mintHash ∧ ∃ err, env.parseMintLog log = .error err) ∨
      (topic = w.filterConfig.burnHash ∧ ∃ err, env.parseBurnLog log = .error err))

theorem processLog_of_parseFails {w : Watcher} {env : Env} {log : Log}
    (h : ParseFails w env log) : processLog hederaNetworkId w env log = .panic [] := by
  obtain ⟨topic, rest, htopics, ⟨rfl, err, herr⟩ | ⟨rfl, err, herr⟩ | ⟨rfl, err, herr⟩ |
    ⟨rfl, err, herr⟩⟩ := h <;>
  simp [processLog, htopics, herr, w.filterConfig.dispatch_ne]

/-- An undecodable log ends the call in a panic with the effects of the logs before it and the
store as it was. -/
theorem processLogs_of_parseFails {w : Watcher} {env : Env} {store : ProgressStore}
    {fromBlock endBlock : Int64} {pre post : List Log} {log : Log}
    (hlogs : env.retryFilterLogs (filterQuery w fromBlock endBlock) = .ok (pre ++ log :: post))
    (hfail : ParseFails w env log) :
    processLogs hederaNetworkId w env store fromBlock endBlock =
      ⟨(handleLogs hederaNetworkId w env pre).effects, .panic, store⟩ := by
  rw [processLogs_of_processLog_panic hederaNetworkId hlogs
    (processLog_of_parseFails hederaNetworkId hfail)]
  cases handleLogs hederaNetworkId w env pre <;> simp [Outcome.andThen]

end

/-- The range of block 150: a lock log the binding cannot decode, then the sample burn. -/
def undecodableLockEnv : Env :=
  { sampleEnv with
    retryFilterLogs := fun _ => .ok [sampleLog (.filled 3) 9 150, sampleBurn.raw]
    parseBurnLog := fun _ => .ok sampleBurn }

/-- The sample burn, decoded, then a lock log the binding cannot decode, then the sample lock. -/
def burnThenUndecodableEnv : Env :=
  { sampleEnv with
    retryFilterLogs := fun _ => .ok [sampleBurn.raw, sampleLog (.filled 3) 9 150, sampleLock.raw]
    parseBurnLog := fun _ => .ok sampleBurn }

theorem processLogs_of_parseFails_sample :
    burnThenUndecodableEnv.retryFilterLogs (filterQuery sampleWatcher 150 150) =
        .ok ([sampleBurn.raw] ++ sampleLog (.filled 3) 9 150 :: [sampleLock.raw]) ∧
      ParseFails sampleWatcher burnThenUndecodableEnv (sampleLog (.filled 3) 9 150) ∧
      processLogs 296 sampleWatcher burnThenUndecodableEnv (fun _ => none) 150 150 =
        ⟨(handleLogs 296 sampleWatcher burnThenUndecodableEnv [sampleBurn.raw]).effects, .panic,
          fun _ => none⟩ :=
  have hlogs : burnThenUndecodableEnv.retryFilterLogs (filterQuery sampleWatcher 150 150) =
      .ok ([sampleBurn.raw] ++ sampleLog (.filled 3) 9 150 :: [sampleLock.raw]) := rfl
  have hfail : ParseFails sampleWatcher burnThenUndecodableEnv (sampleLog (.filled 3) 9 150) :=
    ⟨_, [], rfl, .inl ⟨rfl, _, rfl⟩⟩
  ⟨hlogs, hfail, processLogs_of_parseFails 296 hlogs hfail⟩

/-- An undecodable lock log panics the goroutine: the burn after it, which its handler would
push, is never handled, and the watermark stays. A failed `ChainID` panics `handleLockLog`. -/
theorem undecodable_lock_log_stops_range (store : ProgressStore) :
    processLogs 296 sampleWatcher undecodableLockEnv store 150 150 = ⟨[], .panic, store⟩ ∧
      pushes (handleBurnLog 296 sampleWatcher undecodableLockEnv sampleBurn).effects ≠ [] ∧
      handleLockLog 296 sampleWatcher { sampleEnv with chainID := .error "connection refused" }
        sampleLock = .panic [] :=
  ⟨rfl, by decide, rfl⟩

section
variable (hederaNetworkId : Int64)

theorem handleLockLog_chainID_error {w : Watcher} {env : Env} {e : RouterLock} {err : String}
    (hremoved : e.raw.removed = false) (hreceiver : e.receiver.length ≠ 0)
    (hchain : env.chainID = .error err) :
    handleLockLog hederaNetworkId w env e = .panic [] := by
  rw [handleLockLog, if_neg (by simp [hremoved]), if_neg hreceiver]
  simp only [hchain]

theorem handleLockLog_fungibleNativeAsset_none {w : Watcher} {env : Env} {e : RouterLock}
    {chain : Int} {recipient : String}
    (hremoved : e.raw.removed = false) (hreceiver : e.receiver.length ≠ 0)
    (hchain : env.chainID = .ok chain)
    (hrecipient : recipientAccount hederaNetworkId env (Int64.ofInt e.targetChain) e.receiver =
      .ok recipient)
    (hwrapped : w.mappings.nativeToWrapped e.token (Int64.ofInt chain) (Int64.ofInt e.targetChain)
      ≠ "")
    (hnative : w.mappings.fungibleNativeAsset (Int64.ofInt chain) e.token = none) :
    handleLockLog hederaNetworkId w env e = .panic (lockMetrics hederaNetworkId chain e) := by
  rw [handleLockLog, if_neg (by simp [hremoved]), if_neg hreceiver]
  simp only [hchain, hrecipient]
  rw [if_neg hwrapped]
  simp only [hnative]

/-! ## A range handled whole -/

variable {w : Watcher} {env : Env}

/-- The branch of the dispatch loop a log takes, in the order of the source. -/
theorem processLog_dispatch (log : Log) :
    (ParseFails w env log ∧ processLog hederaNetworkId w env log = .panic []) ∨
      (∃ rest e, log.topics = w.filterConfig.lockHash :: rest ∧ env.parseLockLog log = .ok e ∧
        processLog hederaNetworkId w env log = handleLockLog hederaNetworkId w env e) ∨
      (∃ rest e, log.topics = w.filterConfig.unlockHash :: rest ∧
        env.parseUnlockLog log = .ok e ∧ processLog hederaNetworkId w env log = handleUnlockLog w env e) ∨
      (∃ rest e, log.topics = w.filterConfig.mintHash :: rest ∧ env.parseMintLog log = .ok e ∧
        processLog hederaNetworkId w env log = handleMintLog w env e) ∨
      (∃ rest e, log.topics = w.filterConfig.burnHash :: rest ∧ env.parseBurnLog log = .ok e ∧
        processLog hederaNetworkId w env log = handleBurnLog hederaNetworkId w env e) ∨
      (∃ rest, log.topics = w.filterConfig.memberUpdatedHash :: rest ∧
        processLog hederaNetworkId w env log = .done [.reloadMembers]) ∨
      processLog hederaNetworkId w env log = .done [] := by
  by_cases hf : ParseFails w env log
  · exact .inl ⟨hf, processLog_of_parseFails hederaNetworkId hf⟩
  have hne := w.filterConfig.dispatch_ne
  refine .inr ?_
  cases htopics : log.topics with
  | nil => exact .inr (.inr (.inr (.inr (.inr (by simp [processLog, htopics])))))
  | cons topic rest =>
    by_cases hl : topic = w.filterConfig.lockHash
    · subst hl
      cases hp : env.parseLockLog log with
      | error err => exact absurd ⟨_, rest, htopics, .inl ⟨rfl, err, hp⟩⟩ hf
      | ok e => exact .inl ⟨rest, e, rfl, rfl, by simp [processLog, htopics, hp]⟩
    by_cases hu : topic = w.filterConfig.unlockHash
    · subst hu
      cases hp : env.parseUnlockLog log with
      | error err => exact absurd ⟨_, rest, htopics, .inr (.inl ⟨rfl, err, hp⟩)⟩ hf
      | ok e => exact .inr (.inl ⟨rest, e, rfl, rfl, by simp [processLog, htopics, hp, hne]⟩)
    by_cases hm : topic = w.filterConfig.mintHash
    · subst hm
      cases hp : env.parseMintLog log with
      | error err => exact absurd ⟨_, rest, htopics, .inr (.inr (.inl ⟨rfl, err, hp⟩))⟩ hf
      | ok e => exact .inr (.inr (.inl ⟨rest, e, rfl, rfl, by simp [processLog, htopics, hp, hne]⟩))
    by_cases hb : topic = w.filterConfig.burnHash
    · subst hb
      cases hp : env.parseBurnLog log with
      | error err => exact absurd ⟨_, rest, htopics, .inr (.inr (.inr ⟨rfl, err, hp⟩))⟩ hf
      | ok e =>
        exact .inr (.inr (.inr (.inl ⟨rest, e, rfl, rfl, by simp [processLog, htopics, hp, hne]⟩)))
    by_cases hmu : topic = w.filterConfig.memberUpdatedHash
    · subst hmu
      exact .inr (.inr (.inr (.inr (.inl ⟨rest, rfl, by simp [processLog, htopics, hne]⟩))))
    · exact .inr (.inr (.inr (.inr (.inr
        (by simp only [processLog, htopics, hl, hu, hm, hb, hmu, ↓reduceIte])))))

/-- What one iteration can do: panic on a log its parser rejects, hand a decoded lock or burn to
its handler, or else push nothing and not panic. -/
theorem processLog_cases (log : Log) :
    (ParseFails w env log ∧ processLog hederaNetworkId w env log = .panic []) ∨
      (∃ rest e, log.topics = w.filterConfig.lockHash :: rest ∧ env.parseLockLog log = .ok e ∧
        processLog hederaNetworkId w env log = handleLockLog hederaNetworkId w env e) ∨
      (∃ rest e, log.topics = w.filterConfig.burnHash :: rest ∧ env.parseBurnLog log = .ok e ∧
        processLog hederaNetworkId w env log = handleBurnLog hederaNetworkId w env e) ∨
      ((processLog hederaNetworkId w env log).panicked = false ∧
        pushes (processLog hederaNetworkId w env log).effects = []) := by
  rcases processLog_dispatch hederaNetworkId log with
    h | h | ⟨_, e, -, -, h⟩ | ⟨_, e, -, -, h⟩ | h | ⟨_, -, h⟩ | h
  · exact .inl h
  · exact .inr (.inl h)
  · exact .inr (.inr (.inr (by rw [h]; exact confirmTransfer_done ..)))
  · exact .inr (.inr (.inr (by rw [h]; exact confirmTransfer_done ..)))
  · exact .inr (.inr (.inl h))
  · exact .inr (.inr (.inr (by rw [h]; exact ⟨rfl, rfl⟩)))
  · exact .inr (.inr (.inr (by rw [h]; exact ⟨rfl, rfl⟩)))

theorem processLog_not_panicked {log : Log} {chain : Int} (hparse : ¬ParseFails w env log)
    (hchain : env.chainID = .ok chain)
    (hreg : ∀ token target, w.mappings.nativeToWrapped token (Int64.ofInt chain) target ≠ "" →
      w.mappings.fungibleNativeAsset (Int64.ofInt chain) token ≠ none) :
    (processLog hederaNetworkId w env log).panicked = false := by
  rcases processLog_cases hederaNetworkId log with
    ⟨hf, -⟩ | ⟨-, e, -, -, h⟩ | ⟨-, e, -, -, h⟩ | ⟨h, -⟩
  · exact absurd hf hparse
  · exact h ▸ handleLockLog_not_panicked hederaNetworkId hchain (hreg _ _)
  · exact h ▸ handleBurnLog_not_panicked hederaNetworkId w env e
  · exact h

theorem handleLogs_of_not_panicked {logs : List Log}
    (h : ∀ log ∈ logs, (processLog hederaNetworkId w env log).panicked = false) :
    handleLogs hederaNetworkId w env logs =
      .done (logs.flatMap fun log => (processLog hederaNetworkId w env log).effects) := by
  induction logs with
  | nil => rfl
  | cons log logs ih =>
    rw [handleLogs_cons, ih fun l hl => h l (List.mem_cons_of_mem _ hl)]
    have := h log (List.mem_cons_self _ _)
    cases hp : processLog hederaNetworkId w env log with
    | done es => simp [List.flatMap_cons, hp]
    | panic es => rw [hp] at this; cases this

theorem pushes_flatMap {α : Type} (xs : List α) (f : α → List Effect) :
    pushes (xs.flatMap f) = xs.flatMap fun x => pushes (f x) := by
  induction xs with
  | nil => rfl
  | cons x xs ih => simp [ih]

/-- With every parser and `ChainID` succeeding and a registry that knows the native asset of
every wrapped one, a range is handled whole, in log order, with one push at most per log. -/
theorem processLogs_handles_whole_range {store : ProgressStore} {fromBlock endBlock : Int64}
    {logs : List Log} {chain : Int}
    (hlogs : env.retryFilterLogs (filterQuery w fromBlock endBlock) = .ok logs)
    (hparse : ∀ log ∈ logs, ¬ParseFails w env log) (hchain : env.chainID = .ok chain)
    (hreg : ∀ token target, w.mappings.nativeToWrapped token (Int64.ofInt chain) target ≠ "" →
      w.mappings.fungibleNativeAsset (Int64.ofInt chain) token ≠ none) :
    (processLogs hederaNetworkId w env store fromBlock endBlock).exit ≠ .panic ∧
      pushes (processLogs hederaNetworkId w env store fromBlock endBlock).effects =
        logs.flatMap (fun log => pushes (processLog hederaNetworkId w env log).effects) ∧
      ∀ log ∈ logs, (pushes (processLog hederaNetworkId w env log).effects).length ≤ 1 ∧
        (pushes (processLog hederaNetworkId w env log).effects ≠ [] → ∃ rest,
          log.topics = w.filterConfig.lockHash :: rest ∨
            log.topics = w.filterConfig.burnHash :: rest) := by
  have hdone := handleLogs_of_not_panicked hederaNetworkId fun log hlog =>
    processLog_not_panicked hederaNetworkId (hparse log hlog) hchain hreg
  obtain ⟨hexit, heffects⟩ := processLogs_of_handleLogs_done hederaNetworkId store hlogs hdone
  refine ⟨hexit, by rw [heffects, pushes_flatMap], fun log hlog => ?_⟩
  rcases processLog_cases hederaNetworkId log with
    ⟨hf, -⟩ | ⟨rest, e, ht, -, h⟩ | ⟨rest, e, ht, -, h⟩ | ⟨-, h⟩
  · exact absurd hf (hparse log hlog)
  · exact ⟨h ▸ pushes_handleLockLog_length hederaNetworkId w env e, fun _ => ⟨rest, .inl ht⟩⟩
  · exact ⟨h ▸ pushes_handleBurnLog_length hederaNetworkId w env e, fun _ => ⟨rest, .inr ht⟩⟩
  · exact ⟨h ▸ Nat.zero_le 1, fun hne => absurd h hne⟩

end

/-- The sample lock and then the sample burn, each decoded. -/
def lockThenBurnEnv : Env :=
  { sampleEnv with
    retryFilterLogs := fun _ => .ok [sampleLock.raw, sampleBurn.raw]
    parseLockLog := fun _ => .ok sampleLock
    parseBurnLog := fun _ => .ok sampleBurn }

theorem processLogs_handles_whole_range_sample :
    (processLogs 296 sampleWatcher lockThenBurnEnv (fun _ => none) 150 150).exit ≠ .panic ∧
      pushes (processLogs 296 sampleWatcher lockThenBurnEnv (fun _ => none) 150 150).effects =
        [sampleLock.raw, sampleBurn.raw].flatMap
          (fun log => pushes (processLog 296 sampleWatcher lockThenBurnEnv log).effects) ∧
      ∀ log ∈ [sampleLock.raw, sampleBurn.raw],
        (pushes (processLog 296 sampleWatcher lockThenBurnEnv log).effects).length ≤ 1 ∧
        (pushes (processLog 296 sampleWatcher lockThenBurnEnv log).effects ≠ [] → ∃ rest,
          log.topics = sampleWatcher.filterConfig.lockHash :: rest ∨
            log.topics = sampleWatcher.filterConfig.burnHash :: rest) := by
  refine processLogs_handles_whole_range 296 rfl ?_ rfl fun _ _ _ => by simp [sampleWatcher,
    sampleAssets]
  simp only [List.mem_cons, List.mem_singleton, List.not_mem_nil, or_false]
  rintro log (rfl | rfl) ⟨topic, rest, htopics, hcase⟩ <;>
    obtain ⟨rfl, rfl⟩ := List.cons.inj htopics <;>
    rcases hcase with ⟨h, _, he⟩ | ⟨h, _, he⟩ | ⟨h, _, he⟩ | ⟨h, _, he⟩ <;>
    first | exact absurd h (by decide) | cases he

/-- A registry with a wrapped asset for the sample lock's token and no fungible native asset. -/
def unregisteredAssets : Assets := { sampleAssets with fungibleNativeAsset := fun _ _ => none }

def unregisteredWatcher : Watcher := { sampleWatcher with mappings := unregisteredAssets }

/-- A lock whose token has a wrapped asset but no fungible native asset panics the goroutine:
the burn after it is never pushed, and the watermark stays. -/
theorem lock_without_native_asset_stops_range (store : ProgressStore) :
    (processLogs 296 unregisteredWatcher lockThenBurnEnv store 150 150).exit = .panic ∧
      pushes (processLogs 296 unregisteredWatcher lockThenBurnEnv store 150 150).effects = [] ∧
      (processLogs 296 unregisteredWatcher lockThenBurnEnv store 150 150).store = store ∧
      pushes (handleBurnLog 296 unregisteredWatcher lockThenBurnEnv sampleBurn).effects ≠ [] :=
  ⟨rfl, rfl, rfl, by decide⟩

/-! ## Where the effects of a range come from -/

/-- The binding's parsers return the event of the log they decode: abigen sets `Raw` to it. -/
def KeepsRaw (env : Env) : Prop :=
  (∀ log e, env.parseLockLog log = .ok e → e.raw = log) ∧
  (∀ log e, env.parseUnlockLog log = .ok e → e.raw = log) ∧
  (∀ log e, env.parseMintLog log = .ok e → e.raw = log) ∧
  (∀ log e, env.parseBurnLog log = .ok e → e.raw = log)

theorem Outcome.mem_effects_andThen {a b : Outcome} {eff : Effect}
    (h : eff ∈ (a.andThen b).effects) : eff ∈ a.effects ∨ eff ∈ b.effects := by
  cases a <;> cases b <;> simp only [Outcome.andThen, Outcome.effects_done,
    Outcome.effects_panic, List.mem_append] at h ⊢ <;> tauto

section
variable (hederaNetworkId : Int64) {w : Watcher} {env : Env}

theorem exists_mem_effects_handleLogs {logs : List Log} {eff : Effect}
    (h : eff ∈ (handleLogs hederaNetworkId w env logs).effects) :
    ∃ log ∈ logs, eff ∈ (processLog hederaNetworkId w env log).effects := by
  induction logs with
  | nil => cases h
  | cons log logs ih =>
    rcases Outcome.mem_effects_andThen h with h | h
    · exact ⟨log, List.mem_cons_self _ _, h⟩
    · obtain ⟨l, hl, h⟩ := ih h
      exact ⟨l, List.mem_cons_of_mem _ hl, h⟩

theorem processLogs_effects {store : ProgressStore} {fromBlock endBlock : Int64} {logs : List Log}
    (hq : env.retryFilterLogs (filterQuery w fromBlock endBlock) = .ok logs) :
    (processLogs hederaNetworkId w env store fromBlock endBlock).effects =
      (handleLogs hederaNetworkId w env logs).effects := by
  unfold processLogs
  rw [hq]
  dsimp only
  cases handleLogs hederaNetworkId w env logs with
  | panic => rfl
  | done => cases env.updateError <;> rfl

theorem effects_processLog_of_removed (hraw : KeepsRaw env) {log : Log} {eff : Effect}
    (hremoved : log.removed = true) (h : eff ∈ (processLog hederaNetworkId w env log).effects) :
    eff = .reloadMembers ∧ ∃ rest, log.topics = w.filterConfig.memberUpdatedHash :: rest := by
  rcases processLog_dispatch hederaNetworkId log with ⟨-, h'⟩ | ⟨_, e, -, he, h'⟩ |
    ⟨_, e, -, he, h'⟩ | ⟨_, e, -, he, h'⟩ | ⟨_, e, -, he, h'⟩ | ⟨rest, ht, h'⟩ | h' <;>
    rw [h'] at h
  · cases h
  · rw [handleLockLog, if_pos (by rw [hraw.1 _ _ he]; exact hremoved)] at h
    cases h
  · rw [handleUnlockLog, confirmTransfer, if_pos (by rw [hraw.2.1 _ _ he]; exact hremoved)] at h
    cases h
  · rw [handleMintLog, confirmTransfer, if_pos (by rw [hraw.2.2.1 _ _ he]; exact hremoved)] at h
    cases h
  · rw [handleBurnLog, if_pos (by rw [hraw.2.2.2 _ _ he]; exact hremoved)] at h
    cases h
  · exact ⟨List.mem_singleton.mp h, rest, ht⟩
  · cases h

/-- Every effect of a call comes from one log of its range, and a log orphaned by a reorg has no
effect but the member reload of a `MemberUpdated` log. -/
theorem processLogs_effects_of_orphaned_logs (hraw : KeepsRaw env) {store : ProgressStore}
    {fromBlock endBlock : Int64} {logs : List Log}
    (hq : env.retryFilterLogs (filterQuery w fromBlock endBlock) = .ok logs) :
    ∀ eff ∈ (processLogs hederaNetworkId w env store fromBlock endBlock).effects,
      ∃ log ∈ logs, eff ∈ (processLog hederaNetworkId w env log).effects ∧
        (log.removed = true → eff = .reloadMembers ∧
          ∃ rest, log.topics = w.filterConfig.memberUpdatedHash :: rest) := by
  intro eff heff
  rw [processLogs_effects hederaNetworkId hq] at heff
  obtain ⟨log, hlog, h⟩ := exists_mem_effects_handleLogs hederaNetworkId heff
  exact ⟨log, hlog, h, fun hr => effects_processLog_of_removed hederaNetworkId hraw hr h⟩

/-- Every message a call pushes is the transfer of a lock or burn log of its range that was not
orphaned, under its id, routed to a signing topic exactly for a live event in validator mode. -/
theorem processLogs_pushes_routed (hraw : KeepsRaw env) {store : ProgressStore}
    {fromBlock endBlock : Int64} {logs : List Log}
    (hq : env.retryFilterLogs (filterQuery w fromBlock endBlock) = .ok logs) :
    ∀ m ∈ pushes (processLogs hederaNetworkId w env store fromBlock endBlock).effects,
      ∃ log ∈ logs, log.removed = false ∧
        (∃ rest, log.topics = w.filterConfig.lockHash :: rest ∨
          log.topics = w.filterConfig.burnHash :: rest) ∧
        m.payload.transactionId = transferId log.txHash log.index ∧
        (m.topic.forSigning = true ↔ w.validator = true ∧ w.targetBlock ≤ log.blockNumber) ∧
        m.payload.timestamp = if m.topic.forSigning then ""
          else toString (env.getBlockTimestamp (Int64.ofUInt64 log.blockNumber).val) := by
  intro m hm
  rw [processLogs_effects hederaNetworkId hq] at hm
  obtain ⟨log, hlog, h⟩ := exists_mem_effects_handleLogs hederaNetworkId (mem_pushes.mp hm)
  refine ⟨log, hlog, ?_⟩
  rcases processLog_cases hederaNetworkId log with ⟨-, h'⟩ | ⟨rest, e, ht, he, h'⟩ |
    ⟨rest, e, ht, he, h'⟩ | ⟨-, hp⟩
  · rw [h'] at h
    cases h
  · rw [h'] at h
    obtain ⟨_, _, _, _, hpushed, rfl⟩ := mem_pushes_handleLockLog hederaNetworkId (mem_pushes.mpr h)
    rw [← hraw.1 _ _ he] at ht ⊢
    exact ⟨hpushed.notRemoved, ⟨rest, .inl ht⟩, by simp [lockTransfer],
      route_spec hederaNetworkId _ _ _ _ _ _ rfl rfl rfl⟩
  · rw [h'] at h
    obtain ⟨_, _, _, _, hpushed, rfl⟩ := mem_pushes_handleBurnLog hederaNetworkId (mem_pushes.mpr h)
    rw [← hraw.2.2.2 _ _ he] at ht ⊢
    exact ⟨hpushed.notRemoved, ⟨rest, .inr ht⟩, by simp [burnTransfer],
      route_spec hederaNetworkId _ _ _ _ _ _ rfl rfl rfl⟩
  · exact absurd (hp ▸ mem_pushes.mpr h) (List.not_mem_nil m)

end

/-- The sample burn orphaned by a reorg. -/
def orphanedBurn : RouterBurn := { sampleBurn with raw := { sampleBurn.raw with removed := true } }

/-- A `MemberUpdated` log orphaned by a reorg. -/
def orphanedMemberUpdate : Log := { sampleLog (.filled 5) 9 150 with removed := true }

/-- The sample lock, then an orphaned burn and an orphaned member update, with parsers that
decode an event from its own log only, as abigen's do. -/
def reorgEnv : Env :=
  { sampleEnv with
    retryFilterLogs := fun _ => .ok [sampleLock.raw, orphanedBurn.raw, orphanedMemberUpdate]
    parseLockLog := fun log =>
      if log = sampleLock.raw then .ok sampleLock else .error "abi: cannot unmarshal"
    parseBurnLog := fun log =>
      if log = orphanedBurn.raw then .ok orphanedBurn else .error "abi: cannot unmarshal" }

theorem reorgEnv_keepsRaw : KeepsRaw reorgEnv := by
  refine ⟨?_, ?_, ?_, ?_⟩ <;> intro log e h <;> simp only [reorgEnv, sampleEnv] at h <;>
    first | cases h | (split at h <;> cases h; subst log; rfl)

theorem processLogs_effects_of_orphaned_logs_sample :
    KeepsRaw reorgEnv ∧
      reorgEnv.retryFilterLogs (filterQuery sampleWatcher 150 150) =
        .ok [sampleLock.raw, orphanedBurn.raw, orphanedMemberUpdate] ∧
      ∀ eff ∈ (processLogs 296 sampleWatcher reorgEnv (fun _ => none) 150 150).effects,
        ∃ log ∈ [sampleLock.raw, orphanedBurn.raw, orphanedMemberUpdate],
          eff ∈ (processLog 296 sampleWatcher reorgEnv log).effects ∧
          (log.removed = true → eff = .reloadMembers ∧
            ∃ rest, log.topics = sampleWatcher.filterConfig.memberUpdatedHash :: rest) :=
  ⟨reorgEnv_keepsRaw, rfl, processLogs_effects_of_orphaned_logs 296 reorgEnv_keepsRaw rfl⟩

theorem processLogs_pushes_routed_sample :
    KeepsRaw reorgEnv ∧
      reorgEnv.retryFilterLogs (filterQuery sampleWatcher 150 150) =
        .ok [sampleLock.raw, orphanedBurn.raw, orphanedMemberUpdate] ∧
      ∀ m ∈ pushes (processLogs 296 sampleWatcher reorgEnv (fun _ => none) 150 150).effects,
        ∃ log ∈ [sampleLock.raw, orphanedBurn.raw, orphanedMemberUpdate], log.removed = false ∧
          (∃ rest, log.topics = sampleWatcher.filterConfig.lockHash :: rest ∨
            log.topics = sampleWatcher.filterConfig.burnHash :: rest) ∧
          m.payload.transactionId = transferId log.txHash log.index ∧
          (m.topic.forSigning = true ↔
            sampleWatcher.validator = true ∧ sampleWatcher.targetBlock ≤ log.blockNumber) ∧
          m.payload.timestamp = if m.topic.forSigning then ""
            else toString (reorgEnv.getBlockTimestamp (Int64.ofUInt64 log.blockNumber).val) :=
  ⟨reorgEnv_keepsRaw, rfl, processLogs_pushes_routed 296 reorgEnv_keepsRaw rfl⟩

end HashportValidator
