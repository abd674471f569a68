import Mathlib.Data.List.Basic

/-!
# The transfer repository

The persisted transfer records and the repository operations that write their four status
columns. The table maps a transaction id to its record, of which only the status columns are
modelled: the other columns (receiver, amount, assets, gas price, the Ethereum transaction hash)
are written by `create` and `UpdateEthTxSubmitted` and read by no operation here.

`updateStatus` and `baseUpdateStatus` check the value they write against an allow-list of the
column, never the value the row holds. An update of an id with no row changes nothing, and a
failed operation, a database error included, leaves the table as it was.
-/
namespace HashportValidator

/-- The status constants of the `transfer` entity package. -/
inductive TransferStatus
  | initial
  | recovered
  | insufficientFee
  | inProgress
  | completed
  | failed
  | signatureSubmitted
  | signatureMined
  | signatureFailed
  | ethTxSubmitted
  | ethTxMined
  | ethTxReverted
  | ethTxMsgSubmitted
  | ethTxMsgMined
  | ethTxMsgFailed
  deriving DecidableEq, Repr

/-- The status columns of a record; a column never written holds the empty string, `none`. -/
structure TransferRecord where
  status : TransferStatus
  signatureMsgStatus : Option TransferStatus
  ethTxStatus : Option TransferStatus
  ethTxMsgStatus : Option TransferStatus
  deriving DecidableEq, Repr

/-- The columns `baseUpdateStatus` is called with. -/
inductive StatusColumn
  | signatureMsgStatus
  | ethTxStatus
  | ethTxMsgStatus
  deriving DecidableEq, Repr

/-- The values that the column's wrapper of `baseUpdateStatus` passes as `possibleStatuses`. -/
def StatusColumn.track : StatusColumn → List TransferStatus
  | .signatureMsgStatus => [.signatureSubmitted, .signatureMined, .signatureFailed]
  | .ethTxStatus => [.ethTxSubmitted, .ethTxMined, .ethTxReverted]
  | .ethTxMsgStatus => [.ethTxMsgSubmitted, .ethTxMsgMined, .ethTxMsgFailed]

/-- `UpdateColumn(statusColumn, status)` on one row. -/
def TransferRecord.updateColumn (r : TransferRecord) : StatusColumn → TransferStatus →
    TransferRecord
  | .signatureMsgStatus, s => { r with signatureMsgStatus := some s }
  | .ethTxStatus, s => { r with ethTxStatus := some s }
  | .ethTxMsgStatus, s => { r with ethTxMsgStatus := some s }

/-- The transfer table, keyed by `TransactionID`. -/
def TransferTable : Type := String → Option TransferRecord

namespace TransferTable

/-- `Model(entity.Transfer{}).Where("transaction_id = ?", txId)` and an update: the row of `txId`,
if there is one, is rewritten by `f`. -/
def update (t : TransferTable) (txId : String) (f : TransferRecord → TransferRecord) :
    TransferTable :=
  fun k => if k = txId then (t k).map f else t k

/-- `create`: a new row with only `Status` set. `TransactionID` is the primary key, so an id that
has a row already is refused. -/
def create (t : TransferTable) (txId : String) (status : TransferStatus) :
    Except String TransferTable :=
  match t txId with
  | some _ => .error "duplicated key not allowed"
  | none => .ok fun k => if k = txId then some ⟨status, none, none, none⟩ else t k

def updateStatus (t : TransferTable) (txId : String) (status : TransferStatus) :
    Except String TransferTable :=
  if status ≠ .initial ∧ status ≠ .insufficientFee ∧ status ≠ .inProgress ∧
      status ≠ .completed then
    .error "invalid signature status"
  else .ok (t.update txId fun r => { r with status := status })

def isValidStatus (status : TransferStatus) (possibleStatuses : List TransferStatus) : Bool :=
  possibleStatuses.contains status

def baseUpdateStatus (t : TransferTable) (statusColumn : StatusColumn) (txId : String)
    (status : TransferStatus) (possibleStatuses : List TransferStatus) :
    Except String TransferTable :=
  if !isValidStatus status possibleStatuses then .error "invalid status"
  else .ok (t.update txId fun r => r.updateColumn statusColumn status)

def updateSignatureStatus (t : TransferTable) (txId : String) (status : TransferStatus) :
    Except String TransferTable :=
  t.baseUpdateStatus .signatureMsgStatus txId status
    [.signatureSubmitted, .signatureMined, .signatureFailed]

def updateEthereumTxMsgStatus (t : TransferTable) (txId : String) (status : TransferStatus) :
    Except String TransferTable :=
  t.baseUpdateStatus .ethTxMsgStatus txId status
    [.ethTxMsgSubmitted, .ethTxMsgMined, .ethTxMsgFailed]

def saveRecoveredTxn (t : TransferTable) (txId : String) : Except String TransferTable :=
  t.create txId .recovered

def updateStatusInsufficientFee (t : TransferTable) (txId : String) :
    Except String TransferTable :=
  t.updateStatus txId .insufficientFee

def updateStatusCompleted (t : TransferTable) (txId : String) : Except String TransferTable :=
  t.updateStatus txId .completed

/-- Sets two columns in one `Updates`. -/
def updateStatusSignatureSubmitted (t : TransferTable) (txId : String) : TransferTable :=
  t.update txId fun r =>
    { r with signatureMsgStatus := some .signatureSubmitted, status := .inProgress }

def updateStatusSignatureMined (t : TransferTable) (txId : String) :
    Except String TransferTable :=
  t.updateSignatureStatus txId .signatureMined

def updateStatusSignatureFailed (t : TransferTable) (txId : String) :
    Except String TransferTable :=
  t.updateSignatureStatus txId .signatureFailed

/-- The hash goes to `EthTxHash`, which is not modelled. -/
def updateEthTxSubmitted (t : TransferTable) (txId : String) : TransferTable :=
  t.update txId fun r => { r with ethTxStatus := some .ethTxSubmitted }

def updateEthTxMined (t : TransferTable) (txId : String) : TransferTable :=
  t.update txId fun r => { r with ethTxStatus := some .ethTxMined, status := .completed }

def updateEthTxReverted (t : TransferTable) (txId : String) : TransferTable :=
  t.update txId fun r => { r with ethTxStatus := some .ethTxReverted, status := .failed }

def updateStatusEthTxMsgSubmitted (t : TransferTable) (txId : String) :
    Except String TransferTable :=
  t.updateEthereumTxMsgStatus txId .ethTxMsgSubmitted

def updateStatusEthTxMsgMined (t : TransferTable) (txId : String) :
    Except String TransferTable :=
  t.updateEthereumTxMsgStatus txId .ethTxMsgMined

def updateStatusEthTxMsgFailed (t : TransferTable) (txId : String) :
    Except String TransferTable :=
  t.updateEthereumTxMsgStatus txId .ethTxMsgFailed

/-- `GetInitialAndSignatureSubmittedTx`, as membership: whether the row of `txId` is among the
rows of `Where("status = ? OR status = ?", StatusInitial, StatusSignatureSubmitted)`. -/
def getInitialAndSignatureSubmittedTx (t : TransferTable) (txId : String) : Bool :=
  match t txId with
  | some r => r.status == .initial || r.status == .signatureSubmitted
  | none => false

/-- `GetUnprocessedTransfers`, as membership: whether the row of `txId` is among the rows of
`Where("status IN ?", []string{StatusInitial, StatusRecovered})`. -/
def getUnprocessedTransfers (t : TransferTable) (txId : String) : Bool :=
  match t txId with
  | some r => [TransferStatus.initial, .recovered].contains r.status
  | none => false

end TransferTable

/-- The repository operations that write status columns. `Save`, which writes a record its
caller built, is left out. -/
inductive RepositoryOp
  | create (txId : String)
  | saveRecoveredTxn (txId : String)
  | updateStatusInsufficientFee (txId : String)
  | updateStatusCompleted (txId : String)
  | updateStatusSignatureSubmitted (txId : String)
  | updateStatusSignatureMined (txId : String)
  | updateStatusSignatureFailed (txId : String)
  | updateEthTxSubmitted (txId hash : String)
  | updateEthTxMined (txId : String)
  | updateEthTxReverted (txId : String)
  | updateStatusEthTxMsgSubmitted (txId : String)
  | updateStatusEthTxMsgMined (txId : String)
  | updateStatusEthTxMsgFailed (txId : String)

namespace TransferTable

/-- The table after an operation; one that fails leaves it as it was. -/
def apply (t : TransferTable) : RepositoryOp → TransferTable
  | .create txId => (t.create txId .initial).toOption.getD t
  | .saveRecoveredTxn txId => (t.saveRecoveredTxn txId).toOption.getD t
  | .updateStatusInsufficientFee txId => (t.updateStatusInsufficientFee txId).toOption.getD t
  | .updateStatusCompleted txId => (t.updateStatusCompleted txId).toOption.getD t
  | .updateStatusSignatureSubmitted txId => t.updateStatusSignatureSubmitted txId
  | .updateStatusSignatureMined txId => (t.updateStatusSignatureMined txId).toOption.getD t
  | .updateStatusSignatureFailed txId => (t.updateStatusSignatureFailed txId).toOption.getD t
  | .updateEthTxSubmitted txId _ => t.updateEthTxSubmitted txId
  | .updateEthTxMined txId => t.updateEthTxMined txId
  | .updateEthTxReverted txId => t.updateEthTxReverted txId
  | .updateStatusEthTxMsgSubmitted txId => (t.updateStatusEthTxMsgSubmitted txId).toOption.getD t
  | .updateStatusEthTxMsgMined txId => (t.updateStatusEthTxMsgMined txId).toOption.getD t
  | .updateStatusEthTxMsgFailed txId => (t.updateStatusEthTxMsgFailed txId).toOption.getD t

/-- A sequence of operations, in order. -/
def run (t : TransferTable) : List RepositoryOp → TransferTable
  | [] => t
  | op :: ops => (t.apply op).run ops

end TransferTable

/-! ## The values a row holds -/

/-- What every row of a reachable table holds: each column a value of its own track, and an
Ethereum transaction that was mined or reverted beside an overall status that its composite
update, or a later write of `Status`, left. -/
structure RowInv (r : TransferRecord) : Prop where
  status : r.status ∈ [.initial, .recovered, .insufficientFee, .inProgress, .completed, .failed]
  signatureMsgStatus : ∀ s, r.signatureMsgStatus = some s →
    s ∈ [.signatureSubmitted, .signatureMined, .signatureFailed]
  ethTxStatus : ∀ s, r.ethTxStatus = some s → s ∈ [.ethTxSubmitted, .ethTxMined, .ethTxReverted]
  ethTxMsgStatus : ∀ s, r.ethTxMsgStatus = some s →
    s ∈ [.ethTxMsgSubmitted, .ethTxMsgMined, .ethTxMsgFailed]
  mined : r.ethTxStatus = some .ethTxMined → r.status ∈ [.completed, .inProgress, .insufficientFee]
  reverted : r.ethTxStatus = some .ethTxReverted →
    r.status ∈ [.failed, .completed, .inProgress, .insufficientFee]

namespace RowInv

variable {r : TransferRecord} {s : TransferStatus}

theorem fresh (hs : s = .initial ∨ s = .recovered) : RowInv ⟨s, none, none, none⟩ := by
  obtain rfl | rfl := hs <;> exact ⟨by simp, by simp, by simp, by simp, by simp, by simp⟩

/-- The writes of `Status` alone. -/
theorem setStatus (h : RowInv r) (hs : s = .insufficientFee ∨ s = .inProgress ∨ s = .completed) :
    RowInv { r with status := s } := by
  obtain rfl | rfl | rfl := hs <;>
    exact ⟨by simp, h.signatureMsgStatus, h.ethTxStatus, h.ethTxMsgStatus, fun _ => by simp,
      fun _ => by simp⟩

/-- A write of a message status column with a value of its track. `EthTxStatus` is only written
beside `Status`, by `setEthTxStatus`. -/
theorem updateColumn (h : RowInv r) (c : StatusColumn) (hc : c ≠ .ethTxStatus)
    (hs : s ∈ c.track) : RowInv (r.updateColumn c s) := by
  cases c with
  | signatureMsgStatus => exact { h with signatureMsgStatus := fun _ h' => by cases h'; exact hs }
  | ethTxStatus => exact absurd rfl hc
  | ethTxMsgStatus => exact { h with ethTxMsgStatus := fun _ h' => by cases h'; exact hs }

/-- The write of `EthTxStatus` alone, and the two composite writes. -/
theorem setEthTxStatus (h : RowInv r) :
    RowInv { r with ethTxStatus := some .ethTxSubmitted } ∧
      RowInv { r with ethTxStatus := some .ethTxMined, status := .completed } ∧
      RowInv { r with ethTxStatus := some .ethTxReverted, status := .failed } :=
  ⟨⟨h.status, h.signatureMsgStatus, fun _ h' => (by cases h'; simp), h.ethTxMsgStatus,
      fun h' => (by cases h'), fun h' => (by cases h')⟩,
    ⟨(by simp), h.signatureMsgStatus, fun _ h' => (by cases h'; simp), h.ethTxMsgStatus,
      fun _ => (by simp), fun h' => (by cases h')⟩,
    ⟨(by simp), h.signatureMsgStatus, fun _ h' => (by cases h'; simp), h.ethTxMsgStatus,
      fun h' => (by cases h'), fun _ => (by simp)⟩⟩

end RowInv

/-- Every row satisfies `RowInv`. -/
def TableInv (t : TransferTable) : Prop := ∀ txId r, t txId = some r → RowInv r

namespace TableInv

variable {t : TransferTable}

theorem update (ht : TableInv t) {txId : String} {f : TransferRecord → TransferRecord}
    (hf : ∀ r, RowInv r → RowInv (f r)) : TableInv (t.update txId f) := by
  intro k r hk
  unfold TransferTable.update at hk
  split at hk
  · obtain ⟨r₀, h₀, rfl⟩ := Option.map_eq_some'.mp hk
    exact hf r₀ (ht _ _ h₀)
  · exact ht k r hk

theorem getD (ht : TableInv t) {e : Except String TransferTable}
    (he : ∀ t', e = .ok t' → TableInv t') : TableInv (e.toOption.getD t) := by
  cases e with
  | error => exact ht
  | ok t' => exact he t' rfl

theorem create (ht : TableInv t) {txId : String} {s : TransferStatus}
    (hs : s = .initial ∨ s = .recovered) : TableInv ((t.create txId s).toOption.getD t) := by
  refine ht.getD fun t' h => ?_
  unfold TransferTable.create at h
  split at h
  · cases h
  · cases h
    intro k r hk
    by_cases hkt : k = txId
    · simp only [hkt, ↓reduceIte, Option.some.injEq] at hk
      exact hk ▸ RowInv.fresh hs
    · simp only [hkt, ↓reduceIte] at hk
      exact ht k r hk

theorem baseUpdateStatus (ht : TableInv t) {c : StatusColumn} {txId : String}
    {s : TransferStatus} {possible : List TransferStatus}
    (hc : ∀ r, RowInv r → s ∈ possible → RowInv (r.updateColumn c s)) :
    TableInv ((t.baseUpdateStatus c txId s possible).toOption.getD t) := by
  refine ht.getD fun t' h => ?_
  unfold TransferTable.baseUpdateStatus at h
  split at h
  · cases h
  · rename_i hvalid
    cases h
    have hmem : s ∈ possible := by
      simpa [TransferTable.isValidStatus] using hvalid
    exact ht.update fun r hr => hc r hr hmem

theorem updateStatus (ht : TableInv t) {txId : String} {s : TransferStatus}
    (hs : s = .insufficientFee ∨ s = .completed) :
    TableInv ((t.updateStatus txId s).toOption.getD t) := by
  refine ht.getD fun t' h => ?_
  unfold TransferTable.updateStatus at h
  split at h
  · cases h
  · cases h
    exact ht.update fun r hr => hr.setStatus (hs.imp_right .inr)

theorem apply (ht : TableInv t) (op : RepositoryOp) : TableInv (t.apply op) := by
  cases op with
  | create => exact ht.create (.inl rfl)
  | saveRecoveredTxn => exact ht.create (.inr rfl)
  | updateStatusInsufficientFee => exact ht.updateStatus (.inl rfl)
  | updateStatusCompleted => exact ht.updateStatus (.inr rfl)
  | updateStatusSignatureSubmitted =>
    exact ht.update fun r hr =>
      (hr.updateColumn .signatureMsgStatus nofun (by simp [StatusColumn.track])).setStatus
        (.inr (.inl rfl))
  | updateStatusSignatureMined | updateStatusSignatureFailed =>
    simp only [TransferTable.apply, TransferTable.updateStatusSignatureMined,
      TransferTable.updateStatusSignatureFailed, TransferTable.updateSignatureStatus]
    exact ht.baseUpdateStatus fun r hr hs => hr.updateColumn _ nofun hs
  | updateEthTxSubmitted => exact ht.update fun r hr => hr.setEthTxStatus.1
  | updateEthTxMined => exact ht.update fun r hr => hr.setEthTxStatus.2.1
  | updateEthTxReverted => exact ht.update fun r hr => hr.setEthTxStatus.2.2
  | updateStatusEthTxMsgSubmitted | updateStatusEthTxMsgMined | updateStatusEthTxMsgFailed =>
    simp only [TransferTable.apply, TransferTable.updateStatusEthTxMsgSubmitted,
      TransferTable.updateStatusEthTxMsgMined, TransferTable.updateStatusEthTxMsgFailed,
      TransferTable.updateEthereumTxMsgStatus]
    exact ht.baseUpdateStatus fun r hr hs => hr.updateColumn _ nofun hs

theorem run (ht : TableInv t) (ops : List RepositoryOp) : TableInv (t.run ops) := by
  induction ops generalizing t with
  | nil => exact ht
  | cons op ops ih => exact ih (ht.apply op)

end TableInv

/-! ## Rows evolve independently -/

namespace RepositoryOp

def txId : RepositoryOp → String
  | create txId | saveRecoveredTxn txId | updateStatusInsufficientFee txId
  | updateStatusCompleted txId | updateStatusSignatureSubmitted txId
  | updateStatusSignatureMined txId | updateStatusSignatureFailed txId
  | updateEthTxSubmitted txId _ | updateEthTxMined txId | updateEthTxReverted txId
  | updateStatusEthTxMsgSubmitted txId | updateStatusEthTxMsgMined txId
  | updateStatusEthTxMsgFailed txId => txId

/-- What an operation does to the row of its own id, read off the repository's methods: a
creation fills an empty row, and each update rewrites the columns it names. -/
def onRow : RepositoryOp → Option TransferRecord → Option TransferRecord
  | create _, r => r.elim (some ⟨.initial, none, none, none⟩) some
  | saveRecoveredTxn _, r => r.elim (some ⟨.recovered, none, none, none⟩) some
  | updateStatusInsufficientFee _, r => r.map fun r => { r with status := .insufficientFee }
  | updateStatusCompleted _, r => r.map fun r => { r with status := .completed }
  | updateStatusSignatureSubmitted _, r =>
    r.map fun r => { r with signatureMsgStatus := some .signatureSubmitted, status := .inProgress }
  | updateStatusSignatureMined _, r =>
    r.map fun r => { r with signatureMsgStatus := some .signatureMined }
  | updateStatusSignatureFailed _, r =>
    r.map fun r => { r with signatureMsgStatus := some .signatureFailed }
  | updateEthTxSubmitted _ _, r => r.map fun r => { r with ethTxStatus := some .ethTxSubmitted }
  | updateEthTxMined _, r =>
    r.map fun r => { r with ethTxStatus := some .ethTxMined, status := .completed }
  | updateEthTxReverted _, r =>
    r.map fun r => { r with ethTxStatus := some .ethTxReverted, status := .failed }
  | updateStatusEthTxMsgSubmitted _, r =>
    r.map fun r => { r with ethTxMsgStatus := some .ethTxMsgSubmitted }
  | updateStatusEthTxMsgMined _, r => r.map fun r => { r with ethTxMsgStatus := some .ethTxMsgMined }
  | updateStatusEthTxMsgFailed _, r => r.map fun r => { r with ethTxMsgStatus := some .ethTxMsgFailed }

end RepositoryOp

@[simp] theorem TransferTable.getD_ok (t t' : TransferTable) :
    (Except.ok t' : Except String TransferTable).toOption.getD t = t' := rfl

@[simp] theorem TransferTable.getD_error (t : TransferTable) (e : String) :
    (Except.error e : Except String TransferTable).toOption.getD t = t := rfl

theorem TransferTable.create_apply (t : TransferTable) (txId : String) (s : TransferStatus)
    (k : String) : (t.create txId s).toOption.getD t k =
      if k = txId then (t k).elim (some ⟨s, none, none, none⟩) some else t k := by
  unfold TransferTable.create
  by_cases hk : k = txId
  · subst hk
    cases h : t k <;> simp [h]
  · cases t txId <;> simp [hk]

/-- An operation rewrites the row of its own id by `onRow` and leaves every other row. -/
theorem TransferTable.apply_eq (t : TransferTable) (op : RepositoryOp) (k : String) :
    t.apply op k = if k = op.txId then op.onRow (t k) else t k := by
  cases op
  case create txId => exact t.create_apply txId .initial k
  case saveRecoveredTxn txId => exact t.create_apply txId .recovered k
  all_goals
    simp [TransferTable.apply, TransferTable.updateStatusInsufficientFee,
      TransferTable.updateStatusCompleted, TransferTable.updateStatusSignatureSubmitted,
      TransferTable.updateStatusSignatureMined, TransferTable.updateStatusSignatureFailed,
      TransferTable.updateEthTxSubmitted, TransferTable.updateEthTxMined,
      TransferTable.updateEthTxReverted, TransferTable.updateStatusEthTxMsgSubmitted,
      TransferTable.updateStatusEthTxMsgMined, TransferTable.updateStatusEthTxMsgFailed,
      TransferTable.updateStatus, TransferTable.updateSignatureStatus,
      TransferTable.updateEthereumTxMsgStatus, TransferTable.baseUpdateStatus,
      TransferTable.isValidStatus, TransferTable.update, TransferRecord.updateColumn,
      RepositoryOp.onRow, RepositoryOp.txId]

/-- Over every sequence of repository operations from an empty table, on any ids and in any
order, every row satisfies `RowInv`: each column holds a value of its own track, a mined Ethereum
transaction stands beside a `Status` of `Completed`, `InProgress` or `InsufficientFee`, and a
reverted one beside `Failed`, `Completed`, `InProgress` or `InsufficientFee`. -/
theorem transfer_rows_within_tracks (ops : List RepositoryOp) :
    TableInv (TransferTable.run (fun _ => none) ops) :=
  TableInv.run (fun _ _ h => by cases h) ops

/-- The guards look at the value written only: a transfer completed by its mined Ethereum
transaction is set to `InsufficientFee` afterwards, beside the mined transaction. -/
theorem completed_transfer_overwritten :
    TransferTable.run (fun _ => none) [.create "0xabc-0", .updateEthTxMined "0xabc-0"] "0xabc-0" =
        some ⟨.completed, none, some .ethTxMined, none⟩ ∧
      TransferTable.run (fun _ => none) [.create "0xabc-0", .updateEthTxMined "0xabc-0",
        .updateStatusInsufficientFee "0xabc-0"] "0xabc-0" =
        some ⟨.insufficientFee, none, some .ethTxMined, none⟩ := by
  decide

/-! ## The queries of unfinished transfers -/

theorem RowInv.status_ne_signatureSubmitted {r : TransferRecord} (h : RowInv r) :
    r.status ≠ .signatureSubmitted := by
  intro hs
  simpa [hs] using h.status

/-- `Status` never holds `SignatureSubmitted`, a value of the `SignatureMsgStatus` track: over
every sequence of operations from an empty table, `GetInitialAndSignatureSubmittedTx` returns
exactly the rows whose status is `Initial`, and its second disjunct matches no row. -/
theorem getInitialAndSignatureSubmittedTx_iff_initial (ops : List RepositoryOp) (txId : String) :
    (TransferTable.run (fun _ => none) ops).getInitialAndSignatureSubmittedTx txId = true ↔
      ∃ r, TransferTable.run (fun _ => none) ops txId = some r ∧ r.status = .initial := by
  have ht := TableInv.run (t := fun _ => none) (fun _ _ h => by cases h) ops
  unfold TransferTable.getInitialAndSignatureSubmittedTx
  cases hr : TransferTable.run (fun _ => none) ops txId with
  | none => simp
  | some r => simp [(ht txId r hr).status_ne_signatureSubmitted]

theorem TransferTable.getUnprocessedTransfers_eq_false {t : TransferTable} {txId : String} :
    (t txId).isSome ∧ t.getUnprocessedTransfers txId = false ↔
      ∃ r, t txId = some r ∧ r.status ≠ .initial ∧ r.status ≠ .recovered := by
  unfold TransferTable.getUnprocessedTransfers
  cases t txId <;> simp

/-- No operation writes `Initial` or `Recovered` over a row that holds another status: `create`
keeps a row that is there, and no update passes either value. -/
theorem RepositoryOp.onRow_processed (op : RepositoryOp) {r : TransferRecord}
    (h : r.status ≠ .initial ∧ r.status ≠ .recovered) :
    ∃ r', op.onRow (some r) = some r' ∧ r'.status ≠ .initial ∧ r'.status ≠ .recovered := by
  cases op <;> simp [RepositoryOp.onRow, h]

/-- A row that is there and not returned by `GetUnprocessedTransfers` stays so, whatever
operations follow on any ids. No operation deletes a row, `create` refuses an id that has one,
and no update writes `Initial` or `Recovered`: `updateStatus` would accept `Initial`, but none
of its callers passes it. -/
theorem unprocessed_never_returns {t : TransferTable} {txId : String} (hrow : (t txId).isSome)
    (hproc : t.getUnprocessedTransfers txId = false) (ops : List RepositoryOp) :
    (t.run ops txId).isSome ∧ (t.run ops).getUnprocessedTransfers txId = false := by
  induction ops generalizing t with
  | nil => exact ⟨hrow, hproc⟩
  | cons op ops ih =>
    obtain ⟨r, hr, hs⟩ := TransferTable.getUnprocessedTransfers_eq_false.mp ⟨hrow, hproc⟩
    have hstep : ∃ r', t.apply op txId = some r' ∧ r'.status ≠ .initial ∧
        r'.status ≠ .recovered := by
      rw [TransferTable.apply_eq]
      split
      · rw [hr]
        exact op.onRow_processed hs
      · exact ⟨r, hr, hs⟩
    obtain ⟨hrow', hproc'⟩ := TransferTable.getUnprocessedTransfers_eq_false.mpr hstep
    exact ih hrow' hproc'

theorem unprocessed_never_returns_sample :
    (TransferTable.run (fun _ => none) [.create "0xabc-0", .updateEthTxMined "0xabc-0"]
        "0xabc-0").isSome ∧
      (TransferTable.run (fun _ => none)
        [.create "0xabc-0", .updateEthTxMined "0xabc-0"]).getUnprocessedTransfers "0xabc-0" = false ∧
      ((TransferTable.run (fun _ => none) [.create "0xabc-0", .updateEthTxMined "0xabc-0"]).run
        [.saveRecoveredTxn "0xabc-0", .create "0xabc-0"] "0xabc-0").isSome ∧
      ((TransferTable.run (fun _ => none) [.create "0xabc-0", .updateEthTxMined "0xabc-0"]).run
        [.saveRecoveredTxn "0xabc-0", .create "0xabc-0"]).getUnprocessedTransfers "0xabc-0" =
        false :=
  have hrow : (TransferTable.run (fun _ => none) [.create "0xabc-0", .updateEthTxMined "0xabc-0"]
      "0xabc-0").isSome := by decide
  have hproc : (TransferTable.run (fun _ => none)
      [.create "0xabc-0", .updateEthTxMined "0xabc-0"]).getUnprocessedTransfers "0xabc-0" =
      false := by decide
  ⟨hrow, hproc, unprocessed_never_returns hrow hproc _⟩

/-! ## The transfer handler

`Handler.Handle` of the transfer handler: it decodes a topic payload and hands the transfer to
`service.Transfers`, whose implementation is not part of this model; its collaborators are
therefore fields of a record, and what it does is the list of service calls it makes. -/

/-- The fields of `proto.TransferMessage` that `Handle` reads. -/
structure TransferMessage where
  transactionId : String
  executeEthTransaction : Bool
  deriving DecidableEq, Repr

/-- The payload decoder and the methods of `service.Transfers` that `Handle` calls. -/
structure TransfersService where
  newTransferMessageFromBytes : List UInt8 → Except String TransferMessage
  initiateNewTransfer : TransferMessage → Except String TransferRecord
  verifyFee : TransferMessage → Except String Unit
  processTransfer : TransferMessage → Except String Unit

inductive ServiceCall
  | initiateNewTransfer (m : TransferMessage)
  | verifyFee (m : TransferMessage)
  | processTransfer (m : TransferMessage)
  deriving DecidableEq, Repr

/-- `Handler.Handle`: each failure is logged and ends the call, as does a transfer that was
added before with a status other than `Initial`. -/
def Handler.handle (svc : TransfersService) (payload : List UInt8) : List ServiceCall :=
  match svc.newTransferMessageFromBytes payload with
  | .error _ => []
  | .ok m =>
    match svc.initiateNewTransfer m with
    | .error _ => [.initiateNewTransfer m]
    | .ok transactionRecord =>
      if transactionRecord.status ≠ .initial then [.initiateNewTransfer m]
      else if m.executeEthTransaction then
        match svc.verifyFee m with
        | .error _ => [.initiateNewTransfer m, .verifyFee m]
        | .ok () => [.initiateNewTransfer m, .verifyFee m, .processTransfer m]
      else [.initiateNewTransfer m, .processTransfer m]

/-- A transfer is processed exactly when its payload decodes, the service initiates it with the
status `Initial`, and, if it executes an Ethereum transaction, its fee is verified. -/
theorem Handler.processTransfer_mem_handle {svc : TransfersService} {payload : List UInt8}
    {m : TransferMessage} :
    .processTransfer m ∈ Handler.handle svc payload ↔
      svc.newTransferMessageFromBytes payload = .ok m ∧
        (∃ r, svc.initiateNewTransfer m = .ok r ∧ r.status = .initial) ∧
        (m.executeEthTransaction = true → svc.verifyFee m = .ok ()) := by
  unfold Handler.handle
  cases svc.newTransferMessageFromBytes payload with
  | error => simp
  | ok m' =>
    by_cases hm : m' = m
    · subst hm
      cases hi : svc.initiateNewTransfer m' with
      | error => simp [hi]
      | ok r =>
        by_cases hs : r.status = .initial <;> cases hx : m'.executeEthTransaction <;>
          cases hv : svc.verifyFee m' <;> simp [hi, hs, hx, hv]
    · simp only [Except.ok.injEq, hm, false_and, iff_false]
      repeat' split
      all_goals simp [Ne.symm hm]

end HashportValidator
