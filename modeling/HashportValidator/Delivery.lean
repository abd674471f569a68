import HashportValidator.WatcherRun

/-!
# The logs a run fetches

A run is driven by a list of events and yields, besides its last state, the logs its polls
fetched, in order. The client is taken to keep the Chain Client contract of the spec: a filter
query is answered with the logs of the blocks of its inclusive range, block by block, as
`eth_getLogs` returns them, or fails.

When `Update` does not fail and no handler panics, a run fetches the logs of every block from
the watermark it starts at up to the one it ends at exactly once and in block order, through any
interleaving of polls, crashes and restarts: the loop of `beginWatching`, cutting the backlog into
ranges of at most `maxLogsBlocks + 1` blocks, delivers the same stream as one query over the
whole backlog. When `Update` fails or a handler panics, the range is fetched again by a later
poll: no block is skipped, and a block may be fetched more than once. Under a steady head each
poll takes `maxLogsBlocks + 1` blocks until the watermark is past the confirmed head.
-/
namespace HashportValidator

/-- The logs of the `n` blocks from `a` on, in block order, of a chain whose block `b` holds the
logs `chain b`. -/
def chainLogs (chain : Int → List Log) (a : Int) : Nat → List Log
  | 0 => []
  | n + 1 => chain a ++ chainLogs chain (a + 1) n

@[simp] theorem chainLogs_zero (chain : Int → List Log) (a : Int) : chainLogs chain a 0 = [] := rfl

theorem chainLogs_add (chain : Int → List Log) (a : Int) (n k : Nat) :
    chainLogs chain a (n + k) = chainLogs chain a n ++ chainLogs chain (a + n) k := by
  induction n generalizing a with
  | zero => simp
  | succ n ih =>
    rw [Nat.succ_add, chainLogs, chainLogs, ih, List.append_assoc, Int.add_assoc,
      Int.add_comm 1, Nat.cast_succ]

theorem mem_chainLogs {chain : Int → List Log} {a : Int} {n : Nat} {log : Log}
    (h : log ∈ chainLogs chain a n) : ∃ b, a ≤ b ∧ log ∈ chain b := by
  induction n generalizing a with
  | zero => cases h
  | succ n ih =>
    rcases List.mem_append.mp h with h | h
    · exact ⟨a, Int.le_refl a, h⟩
    · obtain ⟨b, hb, h⟩ := ih h
      exact ⟨b, by omega, h⟩

/-- The client answers every filter query with the chain's logs of its range, or fails. -/
def ServesChain (chain : Int → List Log) (env : Env) : Prop :=
  ∀ q logs, env.retryFilterLogs q = .ok logs →
    logs = chainLogs chain q.fromBlock.val (q.toBlock.val + 1 - q.fromBlock.val).toNat

/-- The logs `RetryFilterLogs` returns for the range `[fromBlock, toBlock]`; none when it fails. -/
def rangeLogs (w : Watcher) (env : Env) (fromBlock toBlock : Int64) : List Log :=
  match env.retryFilterLogs (filterQuery w fromBlock toBlock) with
  | .ok logs => logs
  | .error _ => []

/-- The logs a step fetched: those of the range of its poll. -/
def fetchedLogs (s : System) : Event → List Log
  | .poll env =>
    match s.watcher with
    | some w =>
      match pollRange w env s.store with
      | some (fromBlock, toBlock) => rangeLogs w env fromBlock toBlock
      | none => []
    | none => []
  | _ => []

/-- The running watcher, if any, is one that `NewWatcher` built from `cfg`. -/
def RunsConfig (cfg : Config) (s : System) : Prop :=
  ∀ w, s.watcher = some w → ∃ t, w = watcherOf cfg t

section
variable (hederaNetworkId : Int64)

/-- A run from `s` through the events `es`: the state it ends in and the logs its polls fetched,
in order. -/
def runEvents (cfg : Config) : System → List Event → System × List Log
  | s, [] => (s, [])
  | s, e :: es =>
    let r := runEvents cfg (step hederaNetworkId cfg s e).1 es
    (r.1, fetchedLogs s e ++ r.2)

/-- A poll whose head fits, whose client answers from `chain`, whose `Update` succeeds and whose
handlers do not panic on a log of the chain, whatever the live cutoff. -/
def Event.Healthy (cfg : Config) (chain : Int → List Log) : Event → Prop
  | .poll env => HeadFits env ∧ ServesChain chain env ∧ env.updateError = none ∧
      ∀ t b, ∀ log ∈ chain b,
        (processLog hederaNetworkId (watcherOf cfg t) env log).panicked = false
  | _ => True

/-! ## One call of `processLogs` -/

theorem processLogs_of_update {w : Watcher} {env : Env} {store : ProgressStore}
    {fromBlock toBlock : Int64} {logs : List Log} {es : List Effect}
    (hq : env.retryFilterLogs (filterQuery w fromBlock toBlock) = .ok logs)
    (hdone : handleLogs hederaNetworkId w env logs = .done es) (hupd : env.updateError = none) :
    processLogs hederaNetworkId w env store fromBlock toBlock =
      ⟨es, .ok, store.set w.dbIdentifier (toBlock + 1)⟩ := by
  unfold processLogs
  rw [hq]
  dsimp only
  rw [hdone, hupd]

theorem rangeLogs_of_serves {chain : Int → List Log} {env : Env} (hserve : ServesChain chain env)
    (w : Watcher) (fromBlock toBlock : Int64) :
    ∃ k, rangeLogs w env fromBlock toBlock = chainLogs chain fromBlock.val k ∧
      ((env.retryFilterLogs (filterQuery w fromBlock toBlock)).isOk = true →
        k = (toBlock.val + 1 - fromBlock.val).toNat) := by
  unfold rangeLogs
  cases hq : env.retryFilterLogs (filterQuery w fromBlock toBlock) with
  | error => exact ⟨0, rfl, nofun⟩
  | ok logs => exact ⟨_, hserve _ _ hq, fun _ => rfl⟩

theorem processLogs_of_serves {chain : Int → List Log} {w : Watcher} {env : Env}
    (store : ProgressStore) (fromBlock toBlock : Int64) (hserve : ServesChain chain env)
    (hupd : env.updateError = none)
    (hpanic : ∀ b, ∀ log ∈ chain b, (processLog hederaNetworkId w env log).panicked = false) :
    (processLogs hederaNetworkId w env store fromBlock toBlock).exit ≠ .panic ∧
      ((processLogs hederaNetworkId w env store fromBlock toBlock).store = store ∧
          rangeLogs w env fromBlock toBlock = [] ∨
        (processLogs hederaNetworkId w env store fromBlock toBlock).store =
            store.set w.dbIdentifier (toBlock + 1) ∧
          rangeLogs w env fromBlock toBlock =
            chainLogs chain fromBlock.val (toBlock.val + 1 - fromBlock.val).toNat) := by
  cases hq : env.retryFilterLogs (filterQuery w fromBlock toBlock) with
  | error e =>
    have hcall : processLogs hederaNetworkId w env store fromBlock toBlock =
        ⟨[], .err e, store⟩ := by
      unfold processLogs
      rw [hq]
    have hnil : rangeLogs w env fromBlock toBlock = [] := by simp only [rangeLogs, hq]
    rw [hcall, hnil]
    exact ⟨nofun, .inl ⟨rfl, rfl⟩⟩
  | ok logs =>
    have hlogs := hserve _ _ hq
    have hnp : ∀ log ∈ logs, (processLog hederaNetworkId w env log).panicked = false := by
      intro log hlog
      rw [hlogs] at hlog
      obtain ⟨b, -, hb⟩ := mem_chainLogs hlog
      exact hpanic b log hb
    have hdone := handleLogs_of_not_panicked hederaNetworkId hnp
    have hfetched : rangeLogs w env fromBlock toBlock = logs := by simp only [rangeLogs, hq]
    rw [processLogs_of_update hederaNetworkId hq hdone hupd, hfetched]
    exact ⟨nofun, .inr ⟨rfl, hlogs⟩⟩

/-! ## One poll -/

theorem pollStep_serves {chain : Int → List Log} {w : Watcher} {env : Env} {s : System}
    {W : Int64} (hm : 0 ≤ w.filterConfig.maxLogsBlocks.val) (hfits : HeadFits env)
    (hserve : ServesChain chain env) (hupd : env.updateError = none)
    (hpanic : ∀ b, ∀ log ∈ chain b, (processLog hederaNetworkId w env log).panicked = false)
    (hw : s.watcher = some w) (hW : s.store w.dbIdentifier = some W) :
    (pollStep hederaNetworkId w env s).1.watcher = some w ∧
    ∃ W', (pollStep hederaNetworkId w env s).1.store w.dbIdentifier = some W' ∧
      W.val ≤ W'.val ∧ fetchedLogs s (.poll env) = chainLogs chain W.val (W'.val - W.val).toNat := by
  simp only [fetchedLogs, hw]
  unfold pollStep
  cases hr : pollRange w env s.store with
  | none => exact ⟨hw, W, hW, Int.le_refl _, by simp⟩
  | some r =>
    obtain ⟨fromBlock, toBlock⟩ := r
    obtain ⟨currentBlock, hstore, hb, hle, htoBlock⟩ := pollRange_spec hr
    rw [hW] at hstore
    cases hstore
    have hconf := confirmedBlock_val hb hfits
    have hclamp := htoBlock ▸ clampToBlock_mem hm hle
    obtain ⟨hexit, hcall⟩ :=
      processLogs_of_serves hederaNetworkId s.store W toBlock hserve hupd hpanic
    dsimp only
    refine ⟨by rw [if_neg hexit], ?_⟩
    rcases hcall with ⟨hst, hnil⟩ | ⟨hst, hlogs⟩
    · exact ⟨W, by rw [hst]; exact hW, Int.le_refl _, by simp [hnil]⟩
    · have hval := val_add_one (t := toBlock) (by have := hfits.2; omega)
      refine ⟨toBlock + 1, by simp [hst], by omega, ?_⟩
      rw [hlogs, hval]

/-- Whatever `Update` and the handlers do, a poll fetches the chain's logs of `k` blocks from
the watermark, and leaves the watermark where it was or moves it past those `k` blocks. -/
theorem pollStep_fetches_range {chain : Int → List Log} {w : Watcher} {env : Env} {s : System}
    {W : Int64} (hm : 0 ≤ w.filterConfig.maxLogsBlocks.val) (hfits : HeadFits env)
    (hserve : ServesChain chain env) (hw : s.watcher = some w)
    (hW : s.store w.dbIdentifier = some W) :
    ((pollStep hederaNetworkId w env s).1.watcher = some w ∨
      (pollStep hederaNetworkId w env s).1.watcher = none) ∧
    ∃ W' k, (pollStep hederaNetworkId w env s).1.store w.dbIdentifier = some W' ∧
      fetchedLogs s (.poll env) = chainLogs chain W.val k ∧ (W' = W ∨ W'.val = W.val + k) := by
  simp only [fetchedLogs, hw]
  unfold pollStep
  cases hr : pollRange w env s.store with
  | none => exact ⟨.inl hw, W, 0, hW, rfl, .inl rfl⟩
  | some r =>
    obtain ⟨fromBlock, toBlock⟩ := r
    obtain ⟨currentBlock, hstore, hb, hle, htoBlock⟩ := pollRange_spec hr
    rw [hW] at hstore
    cases hstore
    have hconf := confirmedBlock_val hb hfits
    have hclamp := htoBlock ▸ clampToBlock_mem hm hle
    obtain ⟨k, hfetch, hk⟩ := rangeLogs_of_serves hserve w W toBlock
    dsimp only
    refine ⟨by split <;> simp, ?_⟩
    rw [processLogs_store]
    by_cases hok : (processLogs hederaNetworkId w env s.store W toBlock).exit = .ok
    · have hval := val_add_one (t := toBlock) (by have := hfits.2; omega)
      have := hk (processLogs_delivered hederaNetworkId hok)
      rw [if_pos hok]
      exact ⟨toBlock + 1, k, by simp, hfetch, .inr (by omega)⟩
    · rw [if_neg hok]
      exact ⟨W, k, hW, hfetch, .inl rfl⟩

theorem pollStep_advance {w : Watcher} {env : Env} {s : System} {W : Int64} {currentBlock : UInt64}
    (hm : 0 ≤ w.filterConfig.maxLogsBlocks.val) (hfits : HeadFits env)
    (hg : env.getError = none) (hb : env.retryBlockNumber = .ok currentBlock)
    (hanswers : ∀ q, ∃ logs, env.retryFilterLogs q = .ok logs) (hupd : env.updateError = none)
    (hpanic : ∀ q logs, env.retryFilterLogs q = .ok logs → ∀ log ∈ logs,
      (processLog hederaNetworkId w env log).panicked = false)
    (hw : s.watcher = some w) (hW : s.store w.dbIdentifier = some W) (hW0 : 0 ≤ W.val) :
    (pollStep hederaNetworkId w env s).1.watcher = some w ∧
    ∃ W', (pollStep hederaNetworkId w env s).1.store w.dbIdentifier = some W' ∧
      W'.val = if W.val ≤ confirmedHead env then
        min (W.val + w.filterConfig.maxLogsBlocks.val) (confirmedHead env) + 1 else W.val := by
  have hconf := confirmedBlock_val hb hfits
  unfold pollStep
  by_cases hle : W.val ≤ confirmedHead env
  · have hr : pollRange w env s.store = some (W, clampToBlock w.filterConfig.maxLogsBlocks W
        (confirmedBlock currentBlock env.blockConfirmations)) := by
      simp only [pollRange, repositoryGet, hg, hW, hb, gt_iff_lt, Int64.lt_iff, hconf]
      rw [if_neg (Int.not_lt.mpr hle)]
    have htoBlock := clampToBlock_val hm hW0 (hconf ▸ hle)
    rw [hconf] at htoBlock
    set toBlock := clampToBlock w.filterConfig.maxLogsBlocks W
      (confirmedBlock currentBlock env.blockConfirmations)
    obtain ⟨logs, hq⟩ := hanswers (filterQuery w W toBlock)
    rw [hr]
    dsimp only
    rw [processLogs_of_update hederaNetworkId hq
      (handleLogs_of_not_panicked hederaNetworkId (hpanic _ _ hq)) hupd]
    refine ⟨rfl, toBlock + 1, by simp, ?_⟩
    rw [if_pos hle, val_add_one (by have := hfits.2; omega), htoBlock]
  · have hr : pollRange w env s.store = none := by
      simp only [pollRange, repositoryGet, hg, hW, hb, gt_iff_lt, Int64.lt_iff, hconf]
      rw [if_pos (by omega)]
    rw [hr]
    exact ⟨hw, W, hW, by rw [if_neg hle]⟩

/-! ## Whole runs -/

variable {cfg : Config} {chain : Int → List Log}

theorem runEvents_cons (s : System) (e : Event) (es : List Event) :
    runEvents hederaNetworkId cfg s (e :: es) =
      ((runEvents hederaNetworkId cfg (step hederaNetworkId cfg s e).1 es).1,
        fetchedLogs s e ++ (runEvents hederaNetworkId cfg (step hederaNetworkId cfg s e).1 es).2) :=
  rfl

theorem step_of_not_poll {s : System} {W : Int64} {e : Event} (hrun : RunsConfig cfg s)
    (hW : s.store cfg.dbIdentifier = some W) (he : ∀ env, e ≠ .poll env) :
    RunsConfig cfg (step hederaNetworkId cfg s e).1 ∧
      (step hederaNetworkId cfg s e).1.store cfg.dbIdentifier = some W ∧ fetchedLogs s e = [] := by
  have hnil : fetchedLogs s e = [] := by
    cases e with
    | poll env => exact absurd rfl (he env)
    | _ => rfl
  rcases step_cases hederaNetworkId cfg s e with
    h | h | ⟨t, -, h⟩ | ⟨t, hnone, h⟩ | ⟨_, env, rfl, -⟩
  · rw [h]
    exact ⟨hrun, hW, hnil⟩
  · rw [h]
    exact ⟨fun _ => nofun, hW, hnil⟩
  · rw [h]
    exact ⟨fun _ h => ⟨t, (Option.some.inj h).symm⟩, hW, hnil⟩
  · rw [hW] at hnone
    cases hnone
  · exact absurd rfl (he env)

theorem step_fetches (hmax : 0 ≤ cfg.maxLogsBlocks.val) {s : System} {W : Int64} {e : Event}
    (hrun : RunsConfig cfg s) (hW : s.store cfg.dbIdentifier = some W)
    (he : e.Healthy hederaNetworkId cfg chain) :
    RunsConfig cfg (step hederaNetworkId cfg s e).1 ∧
    ∃ W', (step hederaNetworkId cfg s e).1.store cfg.dbIdentifier = some W' ∧ W.val ≤ W'.val ∧
      fetchedLogs s e = chainLogs chain W.val (W'.val - W.val).toNat := by
  by_cases hp : ∃ env, e = .poll env
  · obtain ⟨env, rfl⟩ := hp
    cases hw : s.watcher with
    | none =>
      have hstep : step hederaNetworkId cfg s (.poll env) = (s, []) := by simp [step, hw]
      rw [hstep]
      exact ⟨hrun, W, hW, Int.le_refl _, by simp [fetchedLogs, hw]⟩
    | some w =>
      obtain ⟨t, rfl⟩ := hrun _ hw
      obtain ⟨hfits, hserve, hupd, hpanic⟩ := he
      have hstep : step hederaNetworkId cfg s (.poll env) =
          pollStep hederaNetworkId (watcherOf cfg t) env s := by simp [step, hw]
      obtain ⟨hwat, W', hW', hle, hlogs⟩ := pollStep_serves hederaNetworkId
        (maxLogsBlocks_nonneg hmax t) hfits hserve hupd (hpanic t) hw hW
      rw [hstep]
      exact ⟨fun _ h => ⟨t, (Option.some.inj (hwat.symm.trans h)).symm⟩, W', hW', hle, hlogs⟩
  · obtain ⟨hrun', hW', hnil⟩ := step_of_not_poll hederaNetworkId hrun hW fun env h => hp ⟨env, h⟩
    exact ⟨hrun', W, hW', Int.le_refl _, by simp [hnil]⟩

/-- Through any interleaving of polls, crashes and restarts in which `Update` never fails and no
handler panics, a run fetches each block between its first and last watermark once, in order. -/
theorem runEvents_fetches_each_block_once (hmax : 0 ≤ cfg.maxLogsBlocks.val) (es : List Event)
    {s : System} {W : Int64} (hrun : RunsConfig cfg s) (hW : s.store cfg.dbIdentifier = some W)
    (hes : ∀ e ∈ es, e.Healthy hederaNetworkId cfg chain) :
    ∃ W', (runEvents hederaNetworkId cfg s es).1.store cfg.dbIdentifier = some W' ∧
      W.val ≤ W'.val ∧
      (runEvents hederaNetworkId cfg s es).2 = chainLogs chain W.val (W'.val - W.val).toNat := by
  induction es generalizing s W with
  | nil => exact ⟨W, hW, Int.le_refl _, by simp [runEvents]⟩
  | cons e es ih =>
    obtain ⟨hrun₁, W₁, hW₁, hle₁, hlogs₁⟩ :=
      step_fetches hederaNetworkId hmax hrun hW (hes e (List.mem_cons_self _ _))
    obtain ⟨W', hW', hle', hlogs'⟩ :=
      ih hrun₁ hW₁ fun e' he' => hes e' (List.mem_cons_of_mem _ he')
    refine ⟨W', hW', Int.le_trans hle₁ hle', ?_⟩
    have hn : (W'.val - W.val).toNat = (W₁.val - W.val).toNat + (W'.val - W₁.val).toNat := by
      omega
    have ha : W.val + ((W₁.val - W.val).toNat : Int) = W₁.val := by omega
    rw [runEvents_cons, hlogs₁, hlogs', hn, chainLogs_add, ha]

theorem step_fetches_range (hmax : 0 ≤ cfg.maxLogsBlocks.val) {s : System} {W : Int64}
    {e : Event} (hrun : RunsConfig cfg s) (hW : s.store cfg.dbIdentifier = some W)
    (he : e.Fits fun env => HeadFits env ∧ ServesChain chain env) :
    RunsConfig cfg (step hederaNetworkId cfg s e).1 ∧
    ∃ W' k, (step hederaNetworkId cfg s e).1.store cfg.dbIdentifier = some W' ∧
      fetchedLogs s e = chainLogs chain W.val k ∧ (W' = W ∨ W'.val = W.val + k) := by
  by_cases hp : ∃ env, e = .poll env
  · obtain ⟨env, rfl⟩ := hp
    cases hw : s.watcher with
    | none =>
      have hstep : step hederaNetworkId cfg s (.poll env) = (s, []) := by simp [step, hw]
      rw [hstep]
      exact ⟨hrun, W, 0, hW, by simp [fetchedLogs, hw], .inl rfl⟩
    | some w =>
      obtain ⟨t, rfl⟩ := hrun _ hw
      have hstep : step hederaNetworkId cfg s (.poll env) =
          pollStep hederaNetworkId (watcherOf cfg t) env s := by simp [step, hw]
      obtain ⟨hwat, hrange⟩ :=
        pollStep_fetches_range hederaNetworkId (maxLogsBlocks_nonneg hmax t) he.1 he.2 hw hW
      rw [hstep]
      refine ⟨fun w' h => ?_, hrange⟩
      rcases hwat with h' | h' <;> rw [h'] at h <;> cases h
      exact ⟨t, rfl⟩
  · obtain ⟨hrun', hW', hnil⟩ := step_of_not_poll hederaNetworkId hrun hW fun env h => hp ⟨env, h⟩
    exact ⟨hrun', W, 0, hW', hnil, .inl rfl⟩

/-- Through any interleaving of polls, crashes and restarts, with `Update` free to fail and
handlers to panic, a run skips no block below its last watermark and fetches none below its
first: the chain's logs in between appear in order among the logs it fetched. -/
theorem runEvents_fetches_at_least_once (hmax : 0 ≤ cfg.maxLogsBlocks.val) (es : List Event)
    {s : System} {W : Int64} (hrun : RunsConfig cfg s) (hW : s.store cfg.dbIdentifier = some W)
    (hes : ∀ e ∈ es, e.Fits fun env => HeadFits env ∧ ServesChain chain env) :
    ∃ W', (runEvents hederaNetworkId cfg s es).1.store cfg.dbIdentifier = some W' ∧
      W.val ≤ W'.val ∧
      (chainLogs chain W.val (W'.val - W.val).toNat).Sublist (runEvents hederaNetworkId cfg s es).2 ∧
      ∀ log ∈ (runEvents hederaNetworkId cfg s es).2, ∃ b, W.val ≤ b ∧ log ∈ chain b := by
  induction es generalizing s W with
  | nil => exact ⟨W, hW, Int.le_refl _, by simp [runEvents], fun _ h => by cases h⟩
  | cons e es ih =>
    obtain ⟨hrun₁, W₁, k, hW₁, hlogs₁, hmove⟩ :=
      step_fetches_range hederaNetworkId hmax hrun hW (hes e (List.mem_cons_self _ _))
    obtain ⟨W', hW', hle', hsub, hmem⟩ :=
      ih hrun₁ hW₁ fun e' he' => hes e' (List.mem_cons_of_mem _ he')
    have hle₁ : W.val ≤ W₁.val := hmove.elim (fun h => h ▸ Int.le_refl _) fun h => by omega
    refine ⟨W', hW', Int.le_trans hle₁ hle', ?_, fun log hlog => ?_⟩
    · rw [runEvents_cons, hlogs₁]
      rcases hmove with rfl | hmove
      · exact hsub.trans (List.sublist_append_right _ _)
      · have hn : (W'.val - W.val).toNat = k + (W'.val - W₁.val).toNat := by omega
        have ha : W.val + (k : Int) = W₁.val := by omega
        rw [hn, chainLogs_add, ha]
        exact hsub.append_left _
    · rw [runEvents_cons, hlogs₁] at hlog
      rcases List.mem_append.mp hlog with h | h
      · exact mem_chainLogs h
      · obtain ⟨b, hb, h⟩ := hmem log h
        exact ⟨b, by omega, h⟩

/-- Under a steady head and answering collaborators, `n` polls move a watermark
`0 ≤ W ≤ H + 1` to `min (W + n * (maxLogsBlocks + 1)) (H + 1)`. -/
theorem runEvents_catch_up (hmax : 0 ≤ cfg.maxLogsBlocks.val) {env : Env} {currentBlock : UInt64}
    {t : UInt64} (hfits : HeadFits env) (hg : env.getError = none)
    (hb : env.retryBlockNumber = .ok currentBlock)
    (hanswers : ∀ q, ∃ logs, env.retryFilterLogs q = .ok logs) (hupd : env.updateError = none)
    (hpanic : ∀ q logs, env.retryFilterLogs q = .ok logs → ∀ log ∈ logs,
      (processLog hederaNetworkId (watcherOf cfg t) env log).panicked = false)
    (n : Nat) {s : System} {W : Int64} (hw : s.watcher = some (watcherOf cfg t))
    (hW : s.store cfg.dbIdentifier = some W) (hW0 : 0 ≤ W.val)
    (hle : W.val ≤ confirmedHead env + 1) :
    (runEvents hederaNetworkId cfg s (List.replicate n (.poll env))).1.watcher =
        some (watcherOf cfg t) ∧
      ∃ W', (runEvents hederaNetworkId cfg s (List.replicate n (.poll env))).1.store
          cfg.dbIdentifier = some W' ∧
        W'.val = min (W.val + n * ((newFilterConfig cfg).maxLogsBlocks.val + 1))
          (confirmedHead env + 1) := by
  have hm := maxLogsBlocks_nonneg hmax t
  induction n generalizing s W with
  | zero => exact ⟨hw, W, hW, by simp; omega⟩
  | succ n ih =>
    have hstep : step hederaNetworkId cfg s (.poll env) =
        pollStep hederaNetworkId (watcherOf cfg t) env s := by simp [step, hw]
    obtain ⟨hw₁, W₁, hW₁, hval⟩ := pollStep_advance hederaNetworkId hm hfits hg hb hanswers hupd
      hpanic hw hW hW0
    rw [← hstep] at hw₁ hW₁
    have hm' : (watcherOf cfg t).filterConfig.maxLogsBlocks.val =
        (newFilterConfig cfg).maxLogsBlocks.val := rfl
    rw [hm'] at hval hm
    have hval₁ : W₁.val = min (W.val + ((newFilterConfig cfg).maxLogsBlocks.val + 1))
        (confirmedHead env + 1) := by
      split at hval <;> omega
    obtain ⟨hw', W', hW', hval'⟩ := ih hw₁ hW₁ (by omega) (by omega)
    refine ⟨hw', W', hW', ?_⟩
    have hk : 0 ≤ (n : Int) * ((newFilterConfig cfg).maxLogsBlocks.val + 1) :=
      Int.mul_nonneg (Int.ofNat_nonneg n) (by omega)
    rw [hval', Nat.cast_succ, Int.add_mul, Int.one_mul]
    omega

end

/-- A chain whose block 150 holds the sample burn and whose other blocks hold no router event. -/
def sampleChain (b : Int) : List Log := if b = 150 then [sampleBurn.raw] else []

/-- The sample collaborators serving `sampleChain`, with the burn decoded. -/
def sampleChainEnv : Env :=
  { sampleEnv with
    retryFilterLogs := fun q =>
      .ok (chainLogs sampleChain q.fromBlock.val (q.toBlock.val + 1 - q.fromBlock.val).toNat)
    parseBurnLog := fun _ => .ok sampleBurn }

/-- A start, a poll, a crash, a second start and a second poll. -/
def sampleRun : List Event :=
  [.restart sampleChainEnv, .poll sampleChainEnv, .crash, .restart sampleChainEnv,
    .poll sampleChainEnv]

theorem runEvents_fetches_each_block_once_sample :
    0 ≤ sampleConfig.maxLogsBlocks.val ∧ RunsConfig sampleConfig ⟨fun _ => some 100, none⟩ ∧
      (∀ e ∈ sampleRun, e.Healthy 296 sampleConfig sampleChain) ∧
      ∃ W', (runEvents 296 sampleConfig ⟨fun _ => some 100, none⟩ sampleRun).1.store
          sampleConfig.dbIdentifier = some W' ∧ (100 : Int64).val ≤ W'.val ∧
        (runEvents 296 sampleConfig ⟨fun _ => some 100, none⟩ sampleRun).2 =
          chainLogs sampleChain (100 : Int64).val (W'.val - (100 : Int64).val).toNat := by
  have hrun : RunsConfig sampleConfig ⟨fun _ => some 100, none⟩ := fun _ h => by cases h
  have hpoll : (Event.poll sampleChainEnv).Healthy 296 sampleConfig sampleChain := by
    refine ⟨by unfold HeadFits; decide, fun q logs h => (Except.ok.inj h).symm, rfl, ?_⟩
    intro t b log hlog
    unfold sampleChain at hlog
    split at hlog
    · rw [List.mem_singleton.mp hlog]
      rfl
    · cases hlog
  have hes : ∀ e ∈ sampleRun, e.Healthy 296 sampleConfig sampleChain := by
    simp only [sampleRun, List.mem_cons, List.mem_singleton, List.not_mem_nil, or_false]
    rintro e (rfl | rfl | rfl | rfl | rfl) <;> first | exact hpoll | trivial
  exact ⟨by decide, hrun, hes, runEvents_fetches_each_block_once 296 (by decide) sampleRun hrun rfl hes⟩

/-- The sample chain's client with a failing `Update`. -/
def failingUpdateChainEnv : Env := { sampleChainEnv with updateError := some "connection refused" }

/-- A start, a poll whose `Update` fails, and a poll that succeeds. -/
def retryRun : List Event :=
  [.restart sampleChainEnv, .poll failingUpdateChainEnv, .poll sampleChainEnv]

theorem runEvents_fetches_at_least_once_sample :
    0 ≤ sampleConfig.maxLogsBlocks.val ∧ RunsConfig sampleConfig ⟨fun _ => some 100, none⟩ ∧
      (∀ e ∈ retryRun, e.Fits fun env => HeadFits env ∧ ServesChain sampleChain env) ∧
      ∃ W', (runEvents 296 sampleConfig ⟨fun _ => some 100, none⟩ retryRun).1.store
          sampleConfig.dbIdentifier = some W' ∧ (100 : Int64).val ≤ W'.val ∧
        (chainLogs sampleChain (100 : Int64).val (W'.val - (100 : Int64).val).toNat).Sublist
          (runEvents 296 sampleConfig ⟨fun _ => some 100, none⟩ retryRun).2 ∧
        ∀ log ∈ (runEvents 296 sampleConfig ⟨fun _ => some 100, none⟩ retryRun).2,
          ∃ b, (100 : Int64).val ≤ b ∧ log ∈ sampleChain b := by
  have hrun : RunsConfig sampleConfig ⟨fun _ => some 100, none⟩ := fun _ h => by cases h
  have hes : ∀ e ∈ retryRun, e.Fits fun env => HeadFits env ∧ ServesChain sampleChain env := by
    simp only [retryRun, List.mem_cons, List.mem_singleton, List.not_mem_nil, or_false]
    rintro e (rfl | rfl | rfl)
    · trivial
    all_goals exact ⟨by unfold HeadFits; decide, fun q logs h => (Except.ok.inj h).symm⟩
  exact ⟨by decide, hrun, hes,
    runEvents_fetches_at_least_once 296 (by decide) retryRun hrun rfl hes⟩

/-- The failed `Update` has the burn of block 150 fetched twice. -/
example : (runEvents 296 sampleConfig ⟨fun _ => some 100, none⟩ retryRun).2 =
    [sampleBurn.raw, sampleBurn.raw] := rfl

theorem runEvents_catch_up_sample :
    (runEvents 296 sampleConfig ⟨fun _ => some 0, some (watcherOf sampleConfig 5000)⟩
        (List.replicate 3 (.poll backlogEnv))).1.watcher = some (watcherOf sampleConfig 5000) ∧
      ∃ W', (runEvents 296 sampleConfig ⟨fun _ => some 0, some (watcherOf sampleConfig 5000)⟩
          (List.replicate 3 (.poll backlogEnv))).1.store sampleConfig.dbIdentifier = some W' ∧
        W'.val = min ((0 : Int64).val +
          (3 : Nat) * ((newFilterConfig sampleConfig).maxLogsBlocks.val + 1))
          (confirmedHead backlogEnv + 1) :=
  runEvents_catch_up 296 (by decide) (by unfold HeadFits; decide) rfl rfl (fun _ => ⟨[], rfl⟩) rfl
    (fun _ _ h log hlog => by cases h; cases hlog) 3 rfl rfl (by decide) (by decide)

end HashportValidator
