import HashportValidator.Watcher

/-!
# Runs of the watcher

A run of one watcher identity interleaves iterations of the loop of `beginWatching`, crashes of
the process and restarts through `NewWatcher` without a start block. The collaborators answer
each iteration afresh, so an iteration is labelled by their answers. A crash in the middle of
`processLogs`, after some pushes and before `Update`, leaves the store as an iteration whose
`Update` failed does, followed by a crash.

Every call of `processLogs` is recorded with its range, the confirmed head of its iteration,
whether its logs reached the handlers and whether it returned `nil`. The invariant is that the
calls so far, in order, form a chain from the first watermark to the stored one.

The block arithmetic is Go's `int64`: once a confirmed head reaches `2^63 - 1`, `endBlock + 1`
wraps and the watermark goes back to `-2^63`. The chain holds for runs whose confirmed heads
stay below that.
-/
namespace HashportValidator

/-- The state of one identity: its progress store, and the watcher when a process runs. -/
structure System where
  store : ProgressStore
  watcher : Option Watcher

/-- A call of `processLogs` as the run records it. -/
structure Call where
  fromBlock : Int64
  toBlock : Int64
  confirmedHead : Int
  delivered : Bool
  completed : Bool
  deriving DecidableEq

inductive Event
  | poll (env : Env)
  | crash
  | restart (env : Env)

/-- The head less the confirmations of an iteration, in exact arithmetic. -/
def confirmedHead (env : Env) : Int :=
  match env.retryBlockNumber with
  | .ok currentBlock => (currentBlock.toNat : Int) - env.blockConfirmations.toNat
  | .error _ => 0

section
variable (hederaNetworkId : Int64)

/-- One iteration of the loop; a panic in a handler ends the process. -/
def pollStep (w : Watcher) (env : Env) (s : System) : System × List Call :=
  match pollRange w env s.store with
  | none => (s, [])
  | some (fromBlock, toBlock) =>
    (⟨(processLogs hederaNetworkId w env s.store fromBlock toBlock).store,
      if (processLogs hederaNetworkId w env s.store fromBlock toBlock).exit = .panic then none
      else some w⟩,
     [⟨fromBlock, toBlock, confirmedHead env,
       (env.retryFilterLogs (filterQuery w fromBlock toBlock)).isOk,
       decide ((processLogs hederaNetworkId w env s.store fromBlock toBlock).exit = .ok)⟩])

def step (cfg : Config) (s : System) : Event → System × List Call
  | .poll env =>
    match s.watcher with
    | some w => pollStep hederaNetworkId w env s
    | none => (s, [])
  | .crash => (⟨s.store, none⟩, [])
  | .restart env =>
    match s.watcher with
    | some _ => (s, [])
    | none =>
      match newWatcher cfg 0 env s.store with
      | none => (s, [])
      | some (w, store) => (⟨store, some w⟩, [])

/-- The polls of a run meet `fits`. -/
def Event.Fits (fits : Env → Prop) : Event → Prop
  | .poll env => fits env
  | _ => True

/-- The runs of one identity from a store in any state and no process running, with the calls
of `processLogs` they made. -/
inductive Reach (cfg : Config) (fits : Env → Prop) : System → List Call → Prop
  | init (store : ProgressStore) : Reach cfg fits ⟨store, none⟩ []
  | step {s : System} {calls : List Call} (e : Event) :
      Reach cfg fits s calls → e.Fits fits →
      Reach cfg fits (step hederaNetworkId cfg s e).1 (calls ++ (step hederaNetworkId cfg s e).2)

end

/-- The confirmed head converts to `int64` exactly and leaves room for `endBlock + 1`. -/
def HeadFits (env : Env) : Prop :=
  -9223372036854775808 ≤ confirmedHead env ∧ confirmedHead env ≤ 9223372036854775806

/-! ## Chains of calls -/

/-- The calls `cs`, in order, take the watermark from `a` to `b`: each starts at the watermark
of its time and ends between it and its confirmed head, and only a call that returned `nil`,
whose logs therefore reached the handlers, moves the watermark, to the block after its last. -/
inductive Chain : Int → List Call → Int → Prop
  | nil (a : Int) : Chain a [] a
  | cons {a b : Int} {c : Call} {cs : List Call} :
      c.fromBlock.val = a → a ≤ c.toBlock.val → c.toBlock.val ≤ c.confirmedHead →
      (c.completed → c.delivered) →
      Chain (if c.completed then c.toBlock.val + 1 else a) cs b → Chain a (c :: cs) b

/-- The ranges `cs`, in order, cover the blocks from `a` to just before `b`, each once. -/
inductive Tiling : Int → List Call → Int → Prop
  | nil (a : Int) : Tiling a [] a
  | cons {a b : Int} {c : Call} {cs : List Call} :
      c.fromBlock.val = a → a ≤ c.toBlock.val → Tiling (c.toBlock.val + 1) cs b →
      Tiling a (c :: cs) b

namespace Chain

theorem snoc {a b : Int} {cs : List Call} {c : Call} (h : Chain a cs b)
    (hfrom : c.fromBlock.val = b) (hto : b ≤ c.toBlock.val)
    (hhead : c.toBlock.val ≤ c.confirmedHead) (hdel : c.completed → c.delivered) :
    Chain a (cs ++ [c]) (if c.completed then c.toBlock.val + 1 else b) := by
  induction h with
  | nil a => exact .cons hfrom hto hhead hdel (.nil _)
  | cons h₁ h₂ h₃ h₄ _ ih => exact .cons h₁ h₂ h₃ h₄ (ih hfrom hto)

theorem le {a b : Int} {cs : List Call} (h : Chain a cs b) : a ≤ b := by
  induction h with
  | nil a => exact Int.le_refl a
  | cons _ h₂ _ _ _ ih => split at ih <;> omega

theorem fromBlock_ge {a b : Int} {cs : List Call} (h : Chain a cs b) :
    ∀ d ∈ cs, a ≤ d.fromBlock.val := by
  induction h with
  | nil a => simp
  | cons h₁ h₂ _ _ _ ih =>
    intro d hd
    rcases List.mem_cons.mp hd with rfl | hd
    · omega
    · have := ih d hd
      split at this <;> omega

theorem tiling {a b : Int} {cs : List Call} (h : Chain a cs b) :
    Tiling a (cs.filter (·.completed)) b := by
  induction h with
  | nil a => exact .nil a
  | @cons a b c cs h₁ h₂ _ _ _ ih =>
    by_cases hc : c.completed
    · rw [if_pos hc] at ih
      rw [List.filter_cons_of_pos hc]
      exact .cons h₁ h₂ ih
    · rw [if_neg hc] at ih
      rwa [List.filter_cons_of_neg hc]

theorem pairwise_completed {a b : Int} {cs : List Call} (h : Chain a cs b) :
    cs.Pairwise (fun c d => c.completed → c.toBlock.val < d.fromBlock.val) := by
  induction h with
  | nil a => exact .nil
  | @cons a b c cs _ _ _ _ htail ih =>
    refine List.Pairwise.cons (fun d hd hc => ?_) ih
    have := htail.fromBlock_ge d hd
    rw [if_pos hc] at this
    omega

end Chain

theorem Tiling.cover {a b : Int} {cs : List Call} (h : Tiling a cs b) {n : Int} (ha : a ≤ n)
    (hb : n < b) : ∃ c ∈ cs, c.fromBlock.val ≤ n ∧ n ≤ c.toBlock.val := by
  induction h with
  | nil a => omega
  | @cons a b c cs h₁ h₂ _ ih =>
    by_cases hn : n ≤ c.toBlock.val
    · exact ⟨c, List.mem_cons_self _ _, by omega, hn⟩
    · obtain ⟨d, hd, hd'⟩ := ih (by omega) hb
      exact ⟨d, List.mem_cons_of_mem _ hd, hd'⟩

/-! ## One step -/

section
variable (hederaNetworkId : Int64)

theorem confirmedBlock_val {env : Env} {currentBlock : UInt64}
    (hb : env.retryBlockNumber = .ok currentBlock) (hfits : HeadFits env) :
    (confirmedBlock currentBlock env.blockConfirmations).val = confirmedHead env := by
  simp only [HeadFits, confirmedHead, hb] at hfits ⊢
  exact val_ofUInt64_usub (by omega) (by omega)

/-- An iteration changes nothing, or makes one call from the stored watermark inside the
confirmed blocks, and advances the watermark past its range exactly when the call returned `nil`. -/
theorem pollStep_spec {w : Watcher} {env : Env} {s : System}
    (hmax : 0 ≤ w.filterConfig.maxLogsBlocks.val) (hfits : HeadFits env) :
    pollStep hederaNetworkId w env s = (s, []) ∨
    ∃ c, (pollStep hederaNetworkId w env s).2 = [c] ∧ s.store w.dbIdentifier = some c.fromBlock ∧
      c.fromBlock.val ≤ c.toBlock.val ∧ c.toBlock.val ≤ c.confirmedHead ∧
      c.confirmedHead ≤ 9223372036854775806 ∧ (c.completed → c.delivered) ∧
      (pollStep hederaNetworkId w env s).1.store =
        (if c.completed then s.store.set w.dbIdentifier (c.toBlock + 1) else s.store) ∧
      ((pollStep hederaNetworkId w env s).1.watcher = some w ∨
        (pollStep hederaNetworkId w env s).1.watcher = none) := by
  unfold pollStep
  cases hr : pollRange w env s.store with
  | none => exact .inl rfl
  | some r =>
    obtain ⟨fromBlock, toBlock⟩ := r
    obtain ⟨currentBlock, hstore, hb, hle, htoBlock⟩ := pollRange_spec hr
    have hconf := confirmedBlock_val hb hfits
    have hclamp := htoBlock ▸ clampToBlock_mem hmax hle
    refine .inr ⟨_, rfl, hstore, hclamp.1, hconf ▸ hclamp.2, hfits.2, fun hc => ?_, ?_, ?_⟩
    · exact processLogs_delivered hederaNetworkId (of_decide_eq_true hc)
    · dsimp only
      rw [processLogs_store]
      by_cases hok : (processLogs hederaNetworkId w env s.store fromBlock toBlock).exit = .ok <;>
        simp [hok]
    · dsimp only
      split
      · exact .inr rfl
      · exact .inl rfl

/-- What a step can do: nothing; stop the process; start one, keeping the stored watermark or
writing a first one; or poll with the running watcher. -/
theorem step_cases (cfg : Config) (s : System) (e : Event) :
    step hederaNetworkId cfg s e = (s, []) ∨
      step hederaNetworkId cfg s e = (⟨s.store, none⟩, []) ∨
      (∃ t, s.store cfg.dbIdentifier ≠ none ∧
        step hederaNetworkId cfg s e = (⟨s.store, some (watcherOf cfg t)⟩, [])) ∨
      (∃ t, s.store cfg.dbIdentifier = none ∧ step hederaNetworkId cfg s e =
        (⟨s.store.set cfg.dbIdentifier (Int64.ofUInt64 t), some (watcherOf cfg t)⟩, [])) ∨
      (∃ w env, e = .poll env ∧ s.watcher = some w ∧
        step hederaNetworkId cfg s e = pollStep hederaNetworkId w env s) := by
  cases e with
  | poll env =>
    cases hw : s.watcher with
    | none => exact .inl (by simp [step, hw])
    | some w => exact .inr (.inr (.inr (.inr ⟨w, env, rfl, rfl, by simp [step, hw]⟩)))
  | crash => exact .inr (.inl rfl)
  | restart env =>
    cases hw : s.watcher with
    | some w => exact .inl (by simp [step, hw])
    | none =>
      cases hn : newWatcher cfg 0 env s.store with
      | none => exact .inl (by simp [step, hw, hn])
      | some r =>
        obtain ⟨w, store'⟩ := r
        obtain ⟨currentBlock, -, rfl, ⟨hne, rfl⟩ | ⟨hnone, rfl⟩⟩ := newWatcher_spec hn
        · exact .inr (.inr (.inl ⟨initialTargetBlock currentBlock env.blockConfirmations, hne,
            by simp [step, hw, hn]⟩))
        · exact .inr (.inr (.inr (.inl ⟨initialTargetBlock currentBlock env.blockConfirmations,
            hnone, by simp [step, hw, hn]⟩)))

/-! ## The invariant of a run -/

/-- What every reachable state satisfies: a running watcher is the configured one and has a
watermark, no call is made before the watermark exists, and the calls so far form a chain to
the stored watermark. -/
structure RunInv (cfg : Config) (s : System) (calls : List Call) : Prop where
  watcher : ∀ w, s.watcher = some w →
    w.dbIdentifier = cfg.dbIdentifier ∧ 0 ≤ w.filterConfig.maxLogsBlocks.val ∧
      s.store cfg.dbIdentifier ≠ none
  unset : s.store cfg.dbIdentifier = none → calls = []
  chain : ∀ W, s.store cfg.dbIdentifier = some W → ∃ W0, Chain W0 calls W.val

theorem RunInv.init (cfg : Config) (store : ProgressStore) : RunInv cfg ⟨store, none⟩ [] :=
  ⟨fun _ hw => (by cases hw), fun _ => rfl, fun W _ => ⟨W.val, .nil _⟩⟩

theorem RunInv.of_quiet {cfg : Config} {s' : System} {calls : List Call}
    {r : System × List Call} (hr : r = (s', [])) (hinv : RunInv cfg s' calls) :
    RunInv cfg r.1 (calls ++ r.2) := by
  subst hr
  simpa using hinv

theorem maxLogsBlocks_nonneg {cfg : Config} (hmax : 0 ≤ cfg.maxLogsBlocks.val) (t : UInt64) :
    0 ≤ (watcherOf cfg t).filterConfig.maxLogsBlocks.val := by
  rw [watcherOf_maxLogsBlocks]
  split
  · decide
  · exact hmax

theorem val_add_one {t : Int64} (ht : t.val ≤ 9223372036854775806) : (t + 1).val = t.val + 1 := by
  have h1 : (1 : Int64).val = 1 := by decide
  have := t.lower
  rw [Int64.val_add_of_mem] <;> omega

variable {cfg : Config} {s : System} {calls : List Call}

theorem store_after_call {store store' : ProgressStore} {id : String} {W : Int64} {c : Call}
    (hW : store id = some W) (hfrom : W = c.fromBlock) (hto : c.fromBlock.val ≤ c.toBlock.val)
    (hmax : c.toBlock.val ≤ 9223372036854775806)
    (hst : store' = if c.completed then store.set id (c.toBlock + 1) else store) :
    ∃ W', store' id = some W' ∧ W'.val = (if c.completed then c.toBlock.val + 1 else W.val) ∧
      W.val ≤ W'.val := by
  subst hst hfrom
  by_cases hc : c.completed
  · refine ⟨c.toBlock + 1, by simp [hc], by simp [hc, val_add_one hmax], ?_⟩
    rw [val_add_one hmax]
    omega
  · exact ⟨c.fromBlock, by simp [hc, hW], by simp [hc], Int.le_refl _⟩

theorem runInv_step (hmax : 0 ≤ cfg.maxLogsBlocks.val) (hinv : RunInv cfg s calls) {e : Event}
    (he : e.Fits HeadFits) :
    RunInv cfg (step hederaNetworkId cfg s e).1 (calls ++ (step hederaNetworkId cfg s e).2) := by
  rcases step_cases hederaNetworkId cfg s e with
    h | h | ⟨t, hne, h⟩ | ⟨t, hnone, h⟩ | ⟨w, env, rfl, hw, h⟩
  · exact hinv.of_quiet h
  · exact RunInv.of_quiet h ⟨fun _ hw => (by cases hw), hinv.unset, hinv.chain⟩
  · refine RunInv.of_quiet h ⟨fun _ hw => ?_, fun h => absurd h hne, hinv.chain⟩
    cases hw
    exact ⟨rfl, maxLogsBlocks_nonneg hmax _, hne⟩
  · refine RunInv.of_quiet h ⟨fun _ hw => ?_, fun h => (by simp at h), fun W hW => ?_⟩
    · cases hw
      exact ⟨rfl, maxLogsBlocks_nonneg hmax _, by simp⟩
    · simp only [ProgressStore.set_same, Option.some.injEq] at hW
      subst hW
      rw [hinv.unset hnone]
      exact ⟨_, .nil _⟩
  obtain ⟨hid, hm, -⟩ := hinv.watcher w hw
  rw [h]
  rcases pollStep_spec hederaNetworkId hm he with
    h | ⟨c, hc, hstore, hto, hhead, hfit, hdel, hst, hwat⟩
  · exact hinv.of_quiet h
  rw [hid] at hstore hst
  obtain ⟨W', hW', hval, -⟩ := store_after_call hstore rfl hto (by omega) hst
  refine ⟨fun w' hw' => ?_, fun h => (by simp [hW'] at h), fun W hW => ?_⟩
  · rcases hwat with h | h <;> rw [h] at hw' <;> cases hw'
    exact ⟨hid, hm, by simp [hW']⟩
  · obtain ⟨W0, hchain⟩ := hinv.chain c.fromBlock hstore
    rw [hW'] at hW
    cases hW
    rw [hc, hval]
    exact ⟨W0, hchain.snoc rfl hto hhead hdel⟩

theorem watermark_quiet {r : System × List Call} {s' : System} {id : String} {W : Int64}
    (hr : r = (s', [])) (hW : s'.store id = some W) :
    ∃ W', r.1.store id = some W' ∧ W.val ≤ W'.val ∧
      (W' ≠ W → ∃ c, r.2 = [c] ∧ c.completed ∧ W'.val = c.toBlock.val + 1) := by
  subst hr
  exact ⟨W, hW, Int.le_refl _, fun h => absurd rfl h⟩

theorem watermark_step (hinv : RunInv cfg s calls) {e : Event} (he : e.Fits HeadFits) {W : Int64}
    (hW : s.store cfg.dbIdentifier = some W) :
    ∃ W', (step hederaNetworkId cfg s e).1.store cfg.dbIdentifier = some W' ∧ W.val ≤ W'.val ∧
      (W' ≠ W → ∃ c, (step hederaNetworkId cfg s e).2 = [c] ∧ c.completed ∧
        W'.val = c.toBlock.val + 1) := by
  rcases step_cases hederaNetworkId cfg s e with
    h | h | ⟨t, -, h⟩ | ⟨t, hnone, h⟩ | ⟨w, env, rfl, hw, h⟩
  · exact watermark_quiet h hW
  · exact watermark_quiet h hW
  · exact watermark_quiet h hW
  · rw [hW] at hnone
    cases hnone
  obtain ⟨hid, hm, -⟩ := hinv.watcher w hw
  rw [h]
  rcases pollStep_spec hederaNetworkId hm he with
    h | ⟨c, hc, hstore, hto, hhead, hfit, -, hst, -⟩
  · exact watermark_quiet h hW
  rw [hid] at hstore hst
  obtain ⟨W', hW', hval, hle⟩ := store_after_call hstore rfl hto (by omega) hst
  rw [hW] at hstore
  cases hstore
  refine ⟨W', hW', hle, fun hne => ⟨c, hc, ?_⟩⟩
  by_cases hcomp : c.completed
  · simp only [hcomp, ↓reduceIte] at hval
    exact ⟨hcomp, hval⟩
  · simp only [hcomp, Bool.false_eq_true, ↓reduceIte] at hval
    exact absurd (Int64.ext hval) hne

/-- Every call a step makes starts at the watermark stored when it is made. -/
theorem calls_from_stored (hinv : RunInv cfg s calls) {e : Event} (he : e.Fits HeadFits) :
    ∀ c ∈ (step hederaNetworkId cfg s e).2, s.store cfg.dbIdentifier = some c.fromBlock := by
  rcases step_cases hederaNetworkId cfg s e with
    h | h | ⟨t, -, h⟩ | ⟨t, -, h⟩ | ⟨w, env, rfl, hw, h⟩
  any_goals (intro c hc; rw [h] at hc; cases hc)
  obtain ⟨hid, hm, -⟩ := hinv.watcher w hw
  rw [h]
  rcases pollStep_spec hederaNetworkId hm he with h' | ⟨c, hc, hstore, -⟩ <;> intro d hd
  · rw [h'] at hd
    cases hd
  · rw [hc, List.mem_singleton] at hd
    rw [hd, ← hid]
    exact hstore

theorem Reach.runInv (hmax : 0 ≤ cfg.maxLogsBlocks.val)
    (h : Reach hederaNetworkId cfg HeadFits s calls) : RunInv cfg s calls := by
  induction h with
  | init store => exact RunInv.init cfg store
  | step e _ he ih => exact runInv_step hederaNetworkId hmax ih he

/-- The watermark law of a state reached with the calls `calls`: the calls chain the first
watermark to the stored one, and each step starts its call at the stored watermark and moves it
only past a call that returned `nil`. -/
def WatermarkLaw (cfg : Config) (s : System) (calls : List Call) : Prop :=
  (∀ W, s.store cfg.dbIdentifier = some W →
    ∃ W0, Chain W0 calls W.val ∧ Tiling W0 (calls.filter (·.completed)) W.val) ∧
  (∀ e : Event, e.Fits HeadFits →
    (∀ c ∈ (step hederaNetworkId cfg s e).2, s.store cfg.dbIdentifier = some c.fromBlock) ∧
    ∀ W, s.store cfg.dbIdentifier = some W →
      ∃ W', (step hederaNetworkId cfg s e).1.store cfg.dbIdentifier = some W' ∧ W.val ≤ W'.val ∧
        (W' ≠ W → ∃ c, (step hederaNetworkId cfg s e).2 = [c] ∧ c.completed ∧
          W'.val = c.toBlock.val + 1)) ∧
  calls.Pairwise (fun c d => ∀ n, c.fromBlock.val ≤ n → n ≤ c.toBlock.val →
    d.fromBlock.val ≤ n → n ≤ d.toBlock.val → c.completed = false)

theorem watcher_run_watermark (hmax : 0 ≤ cfg.maxLogsBlocks.val)
    (h : Reach hederaNetworkId cfg HeadFits s calls) : WatermarkLaw hederaNetworkId cfg s calls := by
  have hinv := h.runInv hederaNetworkId hmax
  have hpw : calls.Pairwise (fun c d => c.completed → c.toBlock.val < d.fromBlock.val) := by
    cases hs : s.store cfg.dbIdentifier with
    | none => rw [hinv.unset hs]; exact .nil
    | some W =>
      obtain ⟨_, hchain⟩ := hinv.chain W hs
      exact hchain.pairwise_completed
  refine ⟨fun W hW => ?_, fun e he => ⟨calls_from_stored hederaNetworkId hinv he,
    fun W hW => watermark_step hederaNetworkId hinv he hW⟩, hpw.imp @fun c d hcd n h₁ h₂ h₃ _ => ?_⟩
  · obtain ⟨W0, hchain⟩ := hinv.chain W hW
    exact ⟨W0, hchain, hchain.tiling⟩
  · cases hc : c.completed with
    | false => rfl
    | true => have := hcd hc; omega

end

theorem watcher_run_watermark_sample :
    0 ≤ sampleConfig.maxLogsBlocks.val ∧ ∃ s calls, Reach 296 sampleConfig HeadFits s calls ∧
      calls ≠ [] ∧ WatermarkLaw 296 sampleConfig s calls :=
  have hfits : HeadFits sampleEnv := by unfold HeadFits; decide
  have h : Reach 296 sampleConfig HeadFits _ _ :=
    .step (.poll sampleEnv) (.step (.restart sampleEnv) (.init fun _ => none) trivial) hfits
  ⟨by decide, _, _, h, by decide, watcher_run_watermark 296 (by decide) h⟩

def nearMaxStore : ProgressStore := fun _ => some (Int64.ofInt 9223372036854775708)

/-- A head at the largest `int64`, with no confirmations. -/
def nearMaxEnv : Env :=
  { sampleEnv with retryBlockNumber := .ok 9223372036854775807, blockConfirmations := 0 }

/-- After a restart over a watermark 100 blocks below `2^63 - 1`, a poll with the head at
`2^63 - 1` completes the range up to the head and writes `endBlock + 1`, which wraps: the
watermark falls to `-2^63`. -/
theorem watermark_wraps_near_int64_max :
    ∃ s calls, Reach 296 sampleConfig (fun _ => True) s calls ∧
      s.store sampleConfig.dbIdentifier = some (Int64.ofInt 9223372036854775708) ∧
      (step 296 sampleConfig s (.poll nearMaxEnv)).1.store sampleConfig.dbIdentifier =
        some (Int64.ofInt (-9223372036854775808)) :=
  ⟨_, _, .step (.restart nearMaxEnv) (.init nearMaxStore) trivial, by decide, by decide⟩

end HashportValidator
