import HashportValidator.Encoding

/-!
# Router logs, transfers and the watcher's collaborators

The data the EVM watcher reads and writes: go-ethereum logs, the four router events the
abigen binding decodes from them, the canonical `Transfer` and the queue message carrying it,
and the progress store holding one watermark per watcher identity.

Every collaborator of the watcher (the EVM client, the contracts service, the asset registry,
the Hedera SDK and go-ethereum's address codec) is a record of functions. A Go call returning
`(nil, err)` is an `Except` error; the watcher's own reaction to it (a skip or a nil
dereference) is decided in the handlers. A handler's run is the list of effects it performed,
ended either normally or by a panic.
-/
namespace HashportValidator

/-- The fields of go-ethereum's `types.Log` that the watcher reads; `data` is what the parsers
decode. -/
structure Log where
  topics : List Hash
  data : List UInt8
  blockNumber : UInt64
  txHash : Hash
  index : UInt64
  removed : Bool
  deriving DecidableEq

/-- abigen's `RouterLock`. A `uint256` is a `Nat`; `token` is `Token.String()`. -/
structure RouterLock where
  targetChain : Nat
  token : String
  receiver : List UInt8
  amount : Nat
  serviceFee : Nat
  raw : Log
  deriving DecidableEq

/-- abigen's `RouterBurn`. -/
structure RouterBurn where
  token : String
  targetChain : Nat
  receiver : List UInt8
  amount : Nat
  raw : Log
  deriving DecidableEq

/-- abigen's `RouterMint`; `transactionId` is `string(TransactionId)`. -/
structure RouterMint where
  sourceChain : Nat
  transactionId : String
  token : String
  raw : Log
  deriving DecidableEq

/-- abigen's `RouterUnlock`. -/
structure RouterUnlock where
  sourceChain : Nat
  transactionId : String
  token : String
  raw : Log
  deriving DecidableEq

/-- The event ids `abi.Events[name].ID` of the router ABI. They are the hashes of five distinct
event signatures. -/
structure RouterABI where
  mintHash : Hash
  burnHash : Hash
  lockHash : Hash
  unlockHash : Hash
  memberUpdatedHash : Hash
  nodup : [mintHash, burnHash, lockHash, unlockHash, memberUpdatedHash].Nodup

/-- `FilterConfig`, built once by `NewWatcher`. -/
structure FilterConfig where
  topics : List (List Hash)
  addresses : List String
  mintHash : Hash
  burnHash : Hash
  lockHash : Hash
  unlockHash : Hash
  memberUpdatedHash : Hash
  maxLogsBlocks : Int64
  nodup : [mintHash, burnHash, lockHash, unlockHash, memberUpdatedHash].Nodup

/-- The event ids are pairwise distinct; stated in the orientation in which the dispatch loop of
`processLogs` compares a later id with an earlier one. -/
theorem FilterConfig.dispatch_ne (c : FilterConfig) :
    c.unlockHash ≠ c.lockHash ∧ c.mintHash ≠ c.lockHash ∧ c.mintHash ≠ c.unlockHash ∧
    c.burnHash ≠ c.lockHash ∧ c.burnHash ≠ c.unlockHash ∧ c.burnHash ≠ c.mintHash ∧
    c.memberUpdatedHash ≠ c.lockHash ∧ c.memberUpdatedHash ≠ c.unlockHash ∧
    c.memberUpdatedHash ≠ c.mintHash ∧ c.memberUpdatedHash ≠ c.burnHash := by
  have hd := c.nodup
  simp only [List.nodup_cons, List.mem_cons, List.mem_singleton, not_or] at hd
  refine ⟨?_, ?_, ?_, ?_, ?_, ?_, ?_, ?_, ?_, ?_⟩ <;> intro h <;> simp [h] at hd

/-- `ethereum.FilterQuery`. -/
structure FilterQuery where
  fromBlock : Int64
  toBlock : Int64
  addresses : List String
  topics : List (List Hash)

/-- The model's `transfer.Transfer`: the fields the handlers set. -/
structure Transfer where
  transactionId : String
  sourceChainId : Int64
  targetChainId : Int64
  nativeChainId : Int64
  sourceAsset : String
  targetAsset : String
  nativeAsset : String
  receiver : String
  amount : String
  timestamp : String := ""
  deriving DecidableEq

/-- The queue topics of `constants` that the handlers push to. -/
inductive Topic
  | hederaMintHtsTransfer
  | hederaFeeTransfer
  | topicMessageSubmission
  | readOnlyHederaMintHtsTransfer
  | readOnlyHederaTransfer
  | readOnlyTransferSave
  deriving DecidableEq, Repr

/-- `queue.Message`. -/
structure Message where
  payload : Transfer
  topic : Topic
  deriving DecidableEq

/-- The `metrics` helpers the handlers call. -/
inductive MetricKind
  | createMajorityReached
  | createFeeTransferred
  | createUserGetHisTokens
  | setUserGetHisTokens
  deriving DecidableEq, Repr

structure MetricCall where
  kind : MetricKind
  sourceChainId : Int64
  targetChainId : Int64
  asset : String
  transactionId : String
  deriving DecidableEq

/-- What the watcher does to the world while it handles logs. -/
inductive Effect
  | push (message : Message)
  | metric (call : MetricCall)
  | reloadMembers
  deriving DecidableEq

/-- A run of Go code: its effects in order, ended normally or by a panic. -/
inductive Outcome
  | done (effects : List Effect)
  | panic (effects : List Effect)
  deriving DecidableEq

namespace Outcome

def effects : Outcome → List Effect
  | done es => es
  | panic es => es

def panicked : Outcome → Bool
  | done _ => false
  | panic _ => true

/-- Run `o`, then `k` unless `o` panicked. -/
def andThen : Outcome → Outcome → Outcome
  | done es, done fs => done (es ++ fs)
  | done es, panic fs => panic (es ++ fs)
  | panic es, _ => panic es

@[simp] theorem effects_done (es : List Effect) : (done es).effects = es := rfl
@[simp] theorem effects_panic (es : List Effect) : (panic es).effects = es := rfl
@[simp] theorem panicked_done (es : List Effect) : (done es).panicked = false := rfl
@[simp] theorem panicked_panic (es : List Effect) : (panic es).panicked = true := rfl

@[simp] theorem done_andThen (es : List Effect) (k : Outcome) :
    (done es).andThen k =
      match k with | done fs => done (es ++ fs) | panic fs => panic (es ++ fs) := by
  cases k <;> rfl

@[simp] theorem panic_andThen (es : List Effect) (k : Outcome) : (panic es).andThen k = panic es :=
  rfl

@[simp] theorem done_nil_andThen (k : Outcome) : (done []).andThen k = k := by
  cases k <;> rfl

theorem andThen_assoc (a b c : Outcome) : (a.andThen b).andThen c = a.andThen (b.andThen c) := by
  cases a <;> cases b <;> cases c <;> simp [andThen]

end Outcome

/-! ## Collaborators -/

/-- `asset.NativeAsset`. -/
structure NativeAsset where
  chainId : Int64
  asset : String
  minAmount : Int

/-- The lookups the watcher makes in the asset registry `c.Assets`. An absent mapping is
`none` or the empty string, as in the registry. -/
structure Assets where
  wrappedToNative : String → Int64 → Option NativeAsset
  nativeToWrapped : String → Int64 → Int64 → String
  fungibleNativeAsset : Int64 → String → Option NativeAsset
  getOppositeAsset : UInt64 → UInt64 → String → String

/-- The answers of the watcher's collaborators during one iteration of its loop; `ChainID`
gives one answer for the whole iteration. -/
structure Env where
  getError : Option String
  retryBlockNumber : Except String UInt64
  blockConfirmations : UInt64
  retryFilterLogs : FilterQuery → Except String (List Log)
  parseLockLog : Log → Except String RouterLock
  parseUnlockLog : Log → Except String RouterUnlock
  parseMintLog : Log → Except String RouterMint
  parseBurnLog : Log → Except String RouterBurn
  chainID : Except String Int
  removeDecimals : Int → String → Except String Int
  getBlockTimestamp : Int → UInt64
  accountIDFromBytes : List UInt8 → Except String String
  bytesToAddress : List UInt8 → String
  createError : Option String
  updateError : Option String

/-! ## The progress store -/

/-- The watcher-status repository: one watermark per watcher identity. -/
def ProgressStore : Type := String → Option Int64

/-- The store after `Update(id, v)` or `Create(id, v)` succeeds. -/
def ProgressStore.set (s : ProgressStore) (id : String) (v : Int64) : ProgressStore :=
  fun k => if k = id then some v else s k

@[simp] theorem ProgressStore.set_same (s : ProgressStore) (id : String) (v : Int64) :
    s.set id v id = some v := by simp [ProgressStore.set]

@[simp] theorem ProgressStore.set_other (s : ProgressStore) {id k : String} (v : Int64)
    (h : k ≠ id) : s.set id v k = s k := by simp [ProgressStore.set, h]

/-- The immutable part of the watcher that the handlers read: `prometheusService` is reduced
to its `GetIsMonitoringEnabled()` flag. -/
structure Watcher where
  dbIdentifier : String
  mappings : Assets
  targetBlock : UInt64
  validator : Bool
  filterConfig : FilterConfig
  monitoringEnabled : Bool

/-! ## A concrete watcher

A validator watching chain 2 from block 100, with Hedera at chain id 296. The registry knows one
asset, native to chain 3 with a minimum of 1000, and every collaborator call succeeds. -/

/-- A hash of 32 equal bytes. -/
def Hash.filled (b : UInt8) : Hash := ⟨List.replicate 32 b, List.length_replicate 32 b⟩

def sampleFilterConfig : FilterConfig where
  topics := [[.filled 1, .filled 2, .filled 3, .filled 4, .filled 5]]
  addresses := ["0x0000000000000000000000000000000000000001"]
  mintHash := .filled 1
  burnHash := .filled 2
  lockHash := .filled 3
  unlockHash := .filled 4
  memberUpdatedHash := .filled 5
  maxLogsBlocks := 500
  nodup := by decide

def sampleAssets : Assets where
  wrappedToNative _ _ := some ⟨3, "0xNative", 1000⟩
  nativeToWrapped _ _ _ := "0xWrapped"
  fungibleNativeAsset _ _ := some ⟨3, "0xNative", 1000⟩
  getOppositeAsset _ _ _ := "0xWrapped"

def sampleWatcher : Watcher where
  dbIdentifier := "2-0x0000000000000000000000000000000000000001"
  mappings := sampleAssets
  targetBlock := 100
  validator := true
  filterConfig := sampleFilterConfig
  monitoringEnabled := true

def sampleEnv : Env where
  getError := none
  retryBlockNumber := .ok 200
  blockConfirmations := 5
  retryFilterLogs _ := .ok []
  parseLockLog _ := .error "abi: cannot unmarshal"
  parseUnlockLog _ := .error "abi: cannot unmarshal"
  parseMintLog _ := .error "abi: cannot unmarshal"
  parseBurnLog _ := .error "abi: cannot unmarshal"
  chainID := .ok 2
  removeDecimals a _ := .ok a
  getBlockTimestamp _ := 1700000000
  accountIDFromBytes _ := .ok "0.0.1001"
  bytesToAddress _ := "0x00000000000000000000000000000000000000aa"
  createError := none
  updateError := none

/-- A log of block `n` of transaction `filled t`. -/
def sampleLog (topic : Hash) (t : UInt8) (n : UInt64) : Log :=
  ⟨[topic], [], n, .filled t, 0, false⟩

/-- The spec's lock: 1000 locked with a service fee of 100, towards chain 3. -/
def sampleLock : RouterLock := ⟨3, "0xNative", [0xaa], 1000, 100, sampleLog (.filled 3) 7 150⟩

/-- A burn of 5000 wrapped tokens back to their native chain 3. -/
def sampleBurn : RouterBurn := ⟨"0xWrapped", 3, [0xaa], 5000, sampleLog (.filled 2) 8 150⟩

end HashportValidator
