import Mathlib.Tactic
import Mathlib.Data.Prod.Lex
import Mathlib.Data.String.Basic
import Collabio.Library.Runs
import Collabio.KnowledgeBase.Stores

/-!
# Receipts of source object writes in PostgreSQL

`PgSourceObjectWriteReceiptStore` beside the in-memory store, call by call. A row has the
fields of a receipt as columns, but for its three times: a `timestamptz` column keeps the
instant of a text and returns it as a datetime, and the store writes every datetime in the
one form that `isoformat` has. The in-memory store lists by hash, the table by time first.

* `AcceptedReceipt`   — a receipt with the proof that the model accepts it;
* `Simulates`         — the rows of the table are those of the receipts in memory;
* `same_outcomes_run` — while each call meets its condition, both stores answer alike.
-/

namespace Collabio

open Datetime

variable (H : HashFunctions)

/-- A receipt that the model accepts. -/
structure AcceptedReceipt where
  receipt    : SourceObjectWriteReceipt
  normalized : receipt.normalized = receipt
  accepted   : receipt.errors = []

/-! ## The in-memory store -/

namespace InMemorySourceObjectWriteReceiptStore

def get (store : InMemorySourceObjectWriteReceiptStore) (tenantId receiptHash : String) :
    Except Exn SourceObjectWriteReceipt :=
  match store.receipts.get? (tenantId, receiptHash) with
  | some receipt => .ok receipt
  | none => .error .keyError

/-- All items in the order of their keys, and of these the tenant's. -/
def listReceipts (store : InMemorySourceObjectWriteReceiptStore) (tenantId : String) :
    List SourceObjectWriteReceipt :=
  ((store.receipts.items.mergeSort fun a b => decide (toLex a.1 ≤ toLex b.1)).filter
    fun item => item.1.1 = tenantId).map Prod.snd

end InMemorySourceObjectWriteReceiptStore

/-! ## The table -/

namespace PgSourceObjectWriteReceiptStore

/-- What a `timestamptz` column stores of an accepted text. Its offset is zero, so the
datetime is the UTC datetime of the instant. -/
def storedTimestamp (value : String) : Option DateTime :=
  fromisoformat (Text.replaceChar 'Z' "+00:00".toList value.toList)

/-- `value.astimezone(UTC).isoformat().replace("+00:00", "Z")`. -/
def utcTimestamp (t : DateTime) : String :=
  String.ofList (isoformatSeconds t ++
    (if t.microsecond = 0 then [] else '.' :: padded 6 t.microsecond) ++ ['Z'])

/-- A row; the texts of the three times are not among its columns. -/
structure ReceiptRow where
  columns       : SourceObjectWriteReceipt
  createdAtUtc  : DateTime
  updatedAtUtc  : DateTime
  capturedAtUtc : DateTime
  deriving DecidableEq, Repr

theorem isSome_storedTimestamp {value : String} (h : isUtcTimestamp value = true) :
    (storedTimestamp value).isSome = true := by
  unfold isUtcTimestamp at h
  unfold storedTimestamp
  cases hparse : fromisoformat (Text.replaceChar 'Z' "+00:00".toList value.toList) with
  | none =>
    rw [hparse] at h
    cases h
  | some t => rfl

theorem times_of_accepted {receipt : SourceObjectWriteReceipt} (h : receipt.errors = []) :
    isUtcTimestamp receipt.metadata.createdAtUtc = true ∧
      isUtcTimestamp receipt.metadata.updatedAtUtc = true ∧
      isUtcTimestamp receipt.capturedAtUtc = true := by
  unfold SourceObjectWriteReceipt.errors SourceObjectWriteReceipt.sha256Ref at h
  simp only [List.append_eq_nil_iff, requireNonEmpty_eq_nil, requireNamespacedRef_eq_nil,
    requireUtcTimestamp_eq_nil, requirePositive_eq_nil, requireFullmatch_eq_nil, and_assoc] at h
  obtain ⟨-, -, -, -, -, -, -, hcreated, hupdated, -, -, -, -, -, -, -, -, -, -, hcaptured, -⟩ := h
  exact ⟨hcreated, hupdated, hcaptured⟩

/-- `_receipt_values`, as the columns store them. -/
def receiptValues (receipt : AcceptedReceipt) : ReceiptRow where
  columns := { receipt.receipt with
    metadata := { receipt.receipt.metadata with createdAtUtc := "", updatedAtUtc := "" }
    capturedAtUtc := "" }
  createdAtUtc := (storedTimestamp receipt.receipt.metadata.createdAtUtc).get
    (isSome_storedTimestamp (times_of_accepted receipt.accepted).1)
  updatedAtUtc := (storedTimestamp receipt.receipt.metadata.updatedAtUtc).get
    (isSome_storedTimestamp (times_of_accepted receipt.accepted).2.1)
  capturedAtUtc := (storedTimestamp receipt.receipt.capturedAtUtc).get
    (isSome_storedTimestamp (times_of_accepted receipt.accepted).2.2)

/-- `_receipt_from_row`. -/
def receiptFromRow (row : ReceiptRow) : Except Exn SourceObjectWriteReceipt :=
  let receipt : SourceObjectWriteReceipt := { row.columns with
    metadata := { row.columns.metadata with
      createdAtUtc := utcTimestamp row.createdAtUtc
      updatedAtUtc := utcTimestamp row.updatedAtUtc }
    capturedAtUtc := utcTimestamp row.capturedAtUtc }
  accept "SourceObjectWriteReceipt" receipt.normalized.errors receipt.normalized

/-- The texts of a receipt that go into text columns. -/
def texts (receipt : SourceObjectWriteReceipt) : List String :=
  let metadata := receipt.metadata
  [metadata.tenantId, receipt.receiptReference, metadata.objectId, metadata.versionId,
    metadata.title, metadata.ownerPrincipalId, metadata.createdBy, metadata.retentionPolicyId,
    metadata.kmsKeyRef, metadata.manifestHash, metadata.auditChainRef, metadata.sourceSystem,
    metadata.schemaVersion, metadata.mimeType, metadata.aclHash, metadata.contentHash,
    receipt.receiptHash, receipt.receiptSchemaVersion] ++
    metadata.parentObjectId.toList ++ metadata.threadId.toList ++
    metadata.parserProfileId.toList

/-- PostgreSQL has no texts with a NUL character. -/
def Sendable (values : List String) : Prop :=
  ∀ value ∈ values, Char.ofNat 0 ∉ value.toList

instance (values : List String) : Decidable (Sendable values) :=
  inferInstanceAs (Decidable (∀ value ∈ values, Char.ofNat 0 ∉ value.toList))

/-- What the table asks of a row that the model has not asked of the receipt already.
`reads` says which texts PostgreSQL reads as a timestamp. -/
def TableAccepts (reads : String → Bool) (receipt : SourceObjectWriteReceipt) : Prop :=
  let metadata := receipt.metadata
  Sendable (texts receipt) ∧
    (reads metadata.createdAtUtc = true ∧ reads metadata.updatedAtUtc = true ∧
      reads receipt.capturedAtUtc = true) ∧
    isSourceSystem metadata.sourceSystem = true ∧
    metadata.aclVersion < 2 ^ 31 ∧ metadata.contentByteLength < 2 ^ 31 ∧
    (metadata.objectType = .attachment ∨ metadata.objectType = .comment →
      metadata.parentObjectId.isSome = true) ∧
    (metadata.objectType = .mail → metadata.mimeType = "message/rfc822") ∧
    ¬ (metadata.legalHoldState = .active ∧
      (metadata.lifecycleState = .deleted ∨ metadata.lifecycleState = .cryptoshredded))

instance (reads : String → Bool) (receipt : SourceObjectWriteReceipt) :
    Decidable (TableAccepts reads receipt) := by
  unfold TableAccepts
  infer_instance

/-- The primary key, and the unique constraint on versions. -/
def Conflicts (receipt : SourceObjectWriteReceipt) (row : ReceiptRow) : Prop :=
  (row.columns.metadata.tenantId, row.columns.receiptHash) =
      (receipt.metadata.tenantId, receipt.receiptHash) ∨
    row.columns.metadata.versionKey = receipt.metadata.versionKey

instance (receipt : SourceObjectWriteReceipt) (row : ReceiptRow) :
    Decidable (Conflicts receipt row) := by
  unfold Conflicts
  infer_instance

/-- An error of the database that is no unique violation passes as it is. -/
def append (reads : String → Bool) (receipt : AcceptedReceipt) :
    Eff Exn (List ReceiptRow) SourceObjectWriteReceipt := fun rows =>
  if receipt.receipt.receiptHash ≠ buildSourceObjectWriteReceiptHash H receipt.receipt then
    (.error (.valueError (.message "source object write receipt hash is invalid")), rows)
  else if ¬ TableAccepts reads receipt.receipt then
    (.error (.databaseError "DatabaseError"), rows)
  else if ∃ row ∈ rows, Conflicts receipt.receipt row then
    (.error (.valueError (.message "source object write receipt already exists")), rows)
  else (.ok receipt.receipt, rows ++ [receiptValues receipt])

def get (rows : List ReceiptRow) (tenantId receiptHash : String) :
    Except Exn SourceObjectWriteReceipt :=
  if ¬ Sendable [tenantId, receiptHash] then .error (.databaseError "DatabaseError")
  else
    match rows.find? fun row =>
      (row.columns.metadata.tenantId, row.columns.receiptHash) = (tenantId, receiptHash) with
    | some row => receiptFromRow row
    | none => .error .keyError

/-- `ORDER BY captured_at_utc, receipt_hash`. -/
def rowKey (row : ReceiptRow) : Int ×ₗ String :=
  toLex (row.capturedAtUtc.instant, row.columns.receiptHash)

def listReceipts (rows : List ReceiptRow) (tenantId : String) :
    Except Exn (List SourceObjectWriteReceipt) :=
  if ¬ Sendable [tenantId] then .error (.databaseError "DatabaseError")
  else ((rows.filter fun row => row.columns.metadata.tenantId = tenantId).mergeSort
    fun a b => decide (rowKey a ≤ rowKey b)).mapM receiptFromRow

end PgSourceObjectWriteReceiptStore

open PgSourceObjectWriteReceiptStore

/-! ## The same calls on both stores -/

inductive ReceiptCall where
  | append (receipt : AcceptedReceipt)
  | get (tenantId receiptHash : String)
  | listReceipts (tenantId : String)

/-- The receipts that a call returns, or what it raises. -/
abbrev ReceiptOutcome := Except Exn (List SourceObjectWriteReceipt)

/-- Both stores, and the outcomes of each call: in memory, and on the table. -/
structure ReceiptStores where
  memory   : InMemorySourceObjectWriteReceiptStore := ∅
  rows     : List ReceiptRow := []
  outcomes : List (ReceiptOutcome × ReceiptOutcome) := []

namespace ReceiptStores

/-- Before the first call. -/
def empty : ReceiptStores := {}

def inMemory : ReceiptCall → InMemorySourceObjectWriteReceiptStore →
    ReceiptOutcome × InMemorySourceObjectWriteReceiptStore
  | .append receipt, store =>
    ((InMemorySourceObjectWriteReceiptStore.append H receipt.receipt store).1.map ([·]),
      (InMemorySourceObjectWriteReceiptStore.append H receipt.receipt store).2)
  | .get tenantId receiptHash, store => ((store.get tenantId receiptHash).map ([·]), store)
  | .listReceipts tenantId, store => (.ok (store.listReceipts tenantId), store)

def onTable (reads : String → Bool) : ReceiptCall → List ReceiptRow →
    ReceiptOutcome × List ReceiptRow
  | .append receipt, rows =>
    ((append H reads receipt rows).1.map ([·]), (append H reads receipt rows).2)
  | .get tenantId receiptHash, rows => ((get rows tenantId receiptHash).map ([·]), rows)
  | .listReceipts tenantId, rows => (listReceipts rows tenantId, rows)

/-- One call, on each store. -/
def step (reads : String → Bool) (stores : ReceiptStores) (call : ReceiptCall) :
    ReceiptStores where
  memory := (inMemory H call stores.memory).2
  rows := (onTable H reads call stores.rows).2
  outcomes := stores.outcomes ++
    [((inMemory H call stores.memory).1, (onTable H reads call stores.rows).1)]

/-- The hash of the receipt is the one recomputed from its fields. -/
def HashValid (receipt : SourceObjectWriteReceipt) : Prop :=
  receipt.receiptHash = buildSourceObjectWriteReceiptHash H receipt

/-- Every call had the same outcome on both stores, and returned receipts have valid hashes. -/
def SameOutcomes (stores : ReceiptStores) : Prop :=
  ∀ outcomes ∈ stores.outcomes, outcomes.1 = outcomes.2 ∧
    ∀ receipts, outcomes.2 = .ok receipts → ∀ receipt ∈ receipts, HashValid H receipt

/-! ## The condition of a call -/

/-- The text is the one that the store writes for its instant. -/
def Canonical (value : String) : Prop := (storedTimestamp value).map utcTimestamp = some value

instance (value : String) : Decidable (Canonical value) :=
  inferInstanceAs (Decidable ((storedTimestamp value).map utcTimestamp = some value))

/-- All times of the receipt are in that form. -/
def TimesCanonical (receipt : SourceObjectWriteReceipt) : Prop :=
  ∀ value ∈ [receipt.metadata.createdAtUtc, receipt.metadata.updatedAtUtc,
    receipt.capturedAtUtc], Canonical value

/-- The first was captured no later than the second. -/
def CapturedBefore (a b : SourceObjectWriteReceipt) : Prop :=
  ∀ s ∈ storedTimestamp a.capturedAtUtc, ∀ t ∈ storedTimestamp b.capturedAtUtc,
    s.instant ≤ t.instant

/-- What each call needs: an append, a table that takes the receipt; a `get`, canonical times
in the receipt of that key; a list, canonical times in all receipts of the tenant, and the
order of their hashes to be that of their capture. -/
def Meets (reads : String → Bool) (stores : ReceiptStores) : ReceiptCall → Prop
  | .append receipt => HashValid H receipt.receipt → TableAccepts reads receipt.receipt
  | .get tenantId receiptHash => Sendable [tenantId, receiptHash] ∧
    ∀ receipt, stores.memory.receipts.get? (tenantId, receiptHash) = some receipt →
      TimesCanonical receipt
  | .listReceipts tenantId => Sendable [tenantId] ∧
    ∀ a ∈ stores.memory.receipts.values, a.metadata.tenantId = tenantId →
      TimesCanonical a ∧ ∀ b ∈ stores.memory.receipts.values, b.metadata.tenantId = tenantId →
        a.receiptHash ≤ b.receiptHash → CapturedBefore a b

/-! ## Rows of receipts -/

variable {H} {reads : String → Bool}

/-- Sorting by a key puts the keys in order. -/
theorem pairwise_mergeSort_key {α β : Type*} [LinearOrder β] (key : α → β) (l : List α) :
    (l.mergeSort fun a b => decide (key a ≤ key b)).Pairwise fun a b => key a ≤ key b := by
  have htrans : ∀ a b c : α, decide (key a ≤ key b) = true → decide (key b ≤ key c) = true →
      decide (key a ≤ key c) = true := by
    intro a b c hab hbc
    exact decide_eq_true (le_trans (of_decide_eq_true hab) (of_decide_eq_true hbc))
  have htotal : ∀ a b : α, (decide (key a ≤ key b) || decide (key b ≤ key a)) = true := by
    intro a b
    simpa using le_total (key a) (key b)
  exact (List.pairwise_mergeSort htrans htotal l).imp of_decide_eq_true

/-- A receipt with canonical times reads back as itself. -/
theorem receiptFromRow_receiptValues {receipt : AcceptedReceipt}
    (h : TimesCanonical receipt.receipt) :
    receiptFromRow (receiptValues receipt) = .ok receipt.receipt := by
  have htext : ∀ {value : String} (hsome : (storedTimestamp value).isSome = true),
      Canonical value → utcTimestamp ((storedTimestamp value).get hsome) = value := by
    intro value hsome hcanonical
    obtain ⟨t, ht, htext⟩ := Option.map_eq_some_iff.mp hcanonical
    simp only [ht, Option.get_some]
    exact htext
  have hcreated := htext (isSome_storedTimestamp (times_of_accepted receipt.accepted).1)
    (h _ (by simp))
  have hupdated := htext (isSome_storedTimestamp (times_of_accepted receipt.accepted).2.1)
    (h _ (by simp))
  have hcaptured := htext (isSome_storedTimestamp (times_of_accepted receipt.accepted).2.2)
    (h _ (by simp))
  unfold receiptFromRow receiptValues
  dsimp only
  rw [hcreated, hupdated, hcaptured]
  exact accept_eq_ok.mpr ⟨(congrArg SourceObjectWriteReceipt.errors receipt.normalized).trans
    receipt.accepted, receipt.normalized⟩

theorem mapM_receiptValues {receipts : List AcceptedReceipt}
    (h : ∀ receipt ∈ receipts, TimesCanonical receipt.receipt) :
    (receipts.map receiptValues).mapM receiptFromRow = .ok (receipts.map (·.receipt)) := by
  induction receipts with
  | nil => rfl
  | cons receipt receipts ih =>
    rw [List.forall_mem_cons] at h
    rw [List.map_cons, List.mapM_cons, receiptFromRow_receiptValues h.1, ih h.2]
    rfl

/-! ## The simulation -/

/-- The key of a receipt. -/
def keyOf (receipt : AcceptedReceipt) : String × String :=
  (receipt.receipt.metadata.tenantId, receipt.receipt.receiptHash)

variable (H) in
/-- Both stores hold these receipts, in the order of their appends. -/
structure Simulates (stores : ReceiptStores) (stored : List AcceptedReceipt) : Prop where
  items    : stores.memory.receipts.items = stored.map fun receipt =>
    (keyOf receipt, receipt.receipt)
  versions : stores.memory.objectVersions = stored.map (·.receipt.metadata.versionKey)
  rows     : stores.rows = stored.map receiptValues
  hashes   : ∀ receipt ∈ stored, HashValid H receipt.receipt

section

variable {stores : ReceiptStores} {stored : List AcceptedReceipt}

theorem Simulates.get? (h : Simulates H stores stored) (key : String × String) :
    stores.memory.receipts.get? key =
      (stored.find? fun receipt => keyOf receipt = key).map (·.receipt) := by
  rw [Dict.get?, h.items, List.find?_map, Option.map_map]
  rfl

theorem Simulates.find_row (h : Simulates H stores stored) (key : String × String) :
    (stores.rows.find? fun row =>
      (row.columns.metadata.tenantId, row.columns.receiptHash) = key) =
      (stored.find? fun receipt => keyOf receipt = key).map receiptValues := by
  rw [h.rows, List.find?_map]
  rfl

/-- Both stores find the same conflicts. -/
theorem Simulates.conflict_iff (h : Simulates H stores stored) (receipt : AcceptedReceipt) :
    (stores.memory.receipts.contains
        (receipt.receipt.metadata.tenantId, receipt.receipt.receiptHash) = true ∨
      receipt.receipt.metadata.versionKey ∈ stores.memory.objectVersions) ↔
    ∃ row ∈ stores.rows, Conflicts receipt.receipt row := by
  have hkeys : stores.memory.receipts.contains
      (receipt.receipt.metadata.tenantId, receipt.receipt.receiptHash) = true ↔
      ∃ other ∈ stored, keyOf other = keyOf receipt := by
    rw [Dict.contains, h.get?, Option.isSome_map, List.find?_isSome]
    simp [keyOf]
  rw [hkeys, h.versions, h.rows, List.mem_map]
  constructor
  · rintro (⟨other, hother, hkey⟩ | ⟨other, hother, hversion⟩)
    · exact ⟨receiptValues other, List.mem_map_of_mem hother, .inl hkey⟩
    · exact ⟨receiptValues other, List.mem_map_of_mem hother, .inr hversion⟩
  · rintro ⟨row, hrow, hconflict⟩
    obtain ⟨other, hother, rfl⟩ := List.mem_map.mp hrow
    rcases hconflict with hkey | hversion
    · exact .inl ⟨other, hother, hkey⟩
    · exact .inr ⟨other, hother, hversion⟩

/-- A receipt is determined by its key. -/
theorem Simulates.eq_of_key (h : Simulates H stores stored) {a b : AcceptedReceipt}
    (ha : a ∈ stored) (hb : b ∈ stored) (hkey : keyOf a = keyOf b) : a = b := by
  have hnodup := stores.memory.receipts.nodup
  rw [h.items, List.map_map] at hnodup
  exact List.inj_on_of_nodup_map hnodup ha hb hkey

theorem Simulates.mem_values (h : Simulates H stores stored) {receipt : AcceptedReceipt}
    (hmem : receipt ∈ stored) : receipt.receipt ∈ stores.memory.receipts.values := by
  rw [Dict.values, h.items, List.map_map]
  exact List.mem_map_of_mem hmem

/-! ### Lists -/

/-- The tenant's receipts in the order of their hashes. -/
def byHash (stored : List AcceptedReceipt) (tenantId : String) : List AcceptedReceipt :=
  (stored.mergeSort fun a b => decide (toLex (keyOf a) ≤ toLex (keyOf b))).filter
    fun receipt => receipt.receipt.metadata.tenantId = tenantId

/-- And in the order of their capture. -/
def byCapture (stored : List AcceptedReceipt) (tenantId : String) : List AcceptedReceipt :=
  (stored.filter fun receipt => receipt.receipt.metadata.tenantId = tenantId).mergeSort
    fun a b => decide (rowKey (receiptValues a) ≤ rowKey (receiptValues b))

theorem Simulates.list_memory (h : Simulates H stores stored) (tenantId : String) :
    stores.memory.listReceipts tenantId = (byHash stored tenantId).map (·.receipt) := by
  have hsort : (stored.map fun receipt => (keyOf receipt, receipt.receipt)).mergeSort
      (fun a b => decide (toLex a.1 ≤ toLex b.1)) =
      (stored.mergeSort fun a b => decide (toLex (keyOf a) ≤ toLex (keyOf b))).map
        fun receipt => (keyOf receipt, receipt.receipt) := by
    refine (List.map_mergeSort ?_).symm
    intro a _ b _
    rfl
  rw [InMemorySourceObjectWriteReceiptStore.listReceipts, h.items, hsort, List.filter_map,
    List.map_map]
  rfl

theorem Simulates.list_rows (h : Simulates H stores stored) (tenantId : String) :
    ((stores.rows.filter fun row => row.columns.metadata.tenantId = tenantId).mergeSort
      fun a b => decide (rowKey a ≤ rowKey b)) = (byCapture stored tenantId).map receiptValues := by
  rw [h.rows, List.filter_map, byCapture]
  refine (List.map_mergeSort ?_).symm
  intro a _ b _
  rfl

/-- The two orders agree where hashes are in the order of capture. -/
theorem Simulates.byHash_eq (h : Simulates H stores stored) {tenantId : String}
    (horder : ∀ a ∈ stored, ∀ b ∈ stored, a.receipt.metadata.tenantId = tenantId →
      b.receipt.metadata.tenantId = tenantId →
      a.receipt.receiptHash ≤ b.receipt.receiptHash → CapturedBefore a.receipt b.receipt) :
    byHash stored tenantId = byCapture stored tenantId := by
  have hmem : ∀ {receipt}, receipt ∈ byHash stored tenantId →
      receipt ∈ stored ∧ receipt.receipt.metadata.tenantId = tenantId := by
    intro receipt hreceipt
    simpa [byHash] using hreceipt
  -- both are the tenant's receipts
  have hperm : (byHash stored tenantId).Perm (byCapture stored tenantId) :=
    ((List.mergeSort_perm _ _).filter _).trans (List.mergeSort_perm _ _).symm
  have hleft : (byHash stored tenantId).Pairwise fun a b =>
      rowKey (receiptValues a) ≤ rowKey (receiptValues b) := by
    have hsorted := (pairwise_mergeSort_key (fun a => toLex (keyOf a)) stored).filter
      fun receipt => receipt.receipt.metadata.tenantId = tenantId
    refine List.Pairwise.imp_of_mem ?_ hsorted
    intro a b ha hb hab
    -- in the order of their hashes, which is that of their capture
    obtain ⟨ha, htenant⟩ := hmem ha
    obtain ⟨hb, htenant'⟩ := hmem hb
    have hhash : a.receipt.receiptHash ≤ b.receipt.receiptHash := by
      rcases (Prod.Lex.le_iff.mp hab) with hlt | ⟨-, hle⟩
      · exact absurd hlt (by simp [keyOf, htenant, htenant'])
      · exact hle
    have hinstant : (receiptValues a).capturedAtUtc.instant ≤
        (receiptValues b).capturedAtUtc.instant :=
      horder a ha b hb htenant htenant' hhash _ (Option.get_mem _) _ (Option.get_mem _)
    rcases lt_or_eq_of_le hinstant with hlt | heq
    · exact Prod.Lex.le_iff.mpr (.inl hlt)
    · exact Prod.Lex.le_iff.mpr (.inr ⟨heq, hhash⟩)
  refine List.Perm.eq_of_pairwise ?_ hleft
    (pairwise_mergeSort_key (fun a => rowKey (receiptValues a)) _) hperm
  -- two receipts under one key are one
  intro a b ha hb hab hba
  have hb := hmem (hperm.mem_iff.mpr hb)
  have hkey : a.receipt.receiptHash = b.receipt.receiptHash :=
    congrArg (fun key => (ofLex key).2) (le_antisymm hab hba)
  refine h.eq_of_key (hmem ha).1 hb.1 ?_
  rw [keyOf, keyOf, (hmem ha).2, hb.2, hkey]

/-! ## Steps -/

variable (H reads) in
/-- The call has the same outcome on both stores, with valid hashes, and they stay alike. -/
def Alike (stores : ReceiptStores) (call : ReceiptCall) : Prop :=
  (∃ stored, Simulates H (stores.step H reads call) stored) ∧
    (inMemory H call stores.memory).1 = (onTable H reads call stores.rows).1 ∧
    ∀ receipts, (onTable H reads call stores.rows).1 = .ok receipts →
      ∀ receipt ∈ receipts, HashValid H receipt

/-- A call that raises the same on both stores and changes neither. -/
theorem Simulates.alike_of_error (h : Simulates H stores stored) {call : ReceiptCall}
    (exn : Exn)
    (hmemory : inMemory H call stores.memory = (.error exn, stores.memory))
    (htable : onTable H reads call stores.rows = (.error exn, stores.rows)) :
    Alike H reads stores call := by
  refine ⟨⟨stored, ?_, ?_, ?_, h.hashes⟩, ?_, ?_⟩
  · rw [ReceiptStores.step, hmemory]
    exact h.items
  · rw [ReceiptStores.step, hmemory]
    exact h.versions
  · rw [ReceiptStores.step, htable]
    exact h.rows
  · rw [hmemory, htable]
  · rw [htable]
    intro receipts hreceipts
    cases hreceipts

/-- A call that returns the same receipts of both stores and changes neither. -/
theorem Simulates.alike_of_read (h : Simulates H stores stored) {call : ReceiptCall}
    (found : List AcceptedReceipt) (hfound : ∀ receipt ∈ found, receipt ∈ stored)
    (hmemory : inMemory H call stores.memory = (.ok (found.map (·.receipt)), stores.memory))
    (htable : onTable H reads call stores.rows = (.ok (found.map (·.receipt)), stores.rows)) :
    Alike H reads stores call := by
  refine ⟨⟨stored, ?_, ?_, ?_, h.hashes⟩, ?_, ?_⟩
  · rw [ReceiptStores.step, hmemory]
    exact h.items
  · rw [ReceiptStores.step, hmemory]
    exact h.versions
  · rw [ReceiptStores.step, htable]
    exact h.rows
  · rw [hmemory, htable]
  · rw [htable]
    intro receipts hreceipts other hother
    cases hreceipts
    obtain ⟨receipt, hreceipt, rfl⟩ := List.mem_map.mp hother
    exact h.hashes receipt (hfound receipt hreceipt)

/-- A new receipt goes to the end of both stores. -/
theorem Simulates.alike_of_append (h : Simulates H stores stored) {receipt : AcceptedReceipt}
    (hhash : receipt.receipt.receiptHash =
      buildSourceObjectWriteReceiptHash H receipt.receipt)
    (haccepts : TableAccepts reads receipt.receipt)
    (hnew : ¬ ∃ row ∈ stores.rows, Conflicts receipt.receipt row) :
    Alike H reads stores (.append receipt) := by
  have habsent := mt (h.conflict_iff receipt).mp hnew
  -- a new key goes to the end of the dictionary, as the new row to the end of the table
  have hitems : (stores.memory.receipts.set (keyOf receipt) receipt.receipt).items =
      stores.memory.receipts.items ++ [(keyOf receipt, receipt.receipt)] := by
    have hkey : stores.memory.receipts.get? (keyOf receipt) = none := by
      by_contra hpresent
      exact habsent (.inl (Option.isSome_iff_ne_none.mpr hpresent))
    exact Dict.items_set_new hkey
  have hmemory : inMemory H (.append receipt) stores.memory = (.ok [receipt.receipt], {
      receipts := stores.memory.receipts.set (keyOf receipt) receipt.receipt
      objectVersions := stores.memory.objectVersions ++
        [receipt.receipt.metadata.versionKey] }) := by
    rw [inMemory, InMemorySourceObjectWriteReceiptStore.append, if_neg (not_not.mpr hhash),
      if_neg habsent]
    rfl
  have htable : onTable H reads (.append receipt) stores.rows =
      (.ok [receipt.receipt], stores.rows ++ [receiptValues receipt]) := by
    rw [onTable, append, if_neg (not_not.mpr hhash), if_neg (not_not.mpr haccepts), if_neg hnew]
    rfl
  refine ⟨⟨stored ++ [receipt], ?_, ?_, ?_, ?_⟩, ?_, ?_⟩
  · rw [ReceiptStores.step, hmemory, List.map_append, ← h.items]
    exact hitems
  · rw [ReceiptStores.step, hmemory, List.map_append, ← h.versions]
    rfl
  · rw [ReceiptStores.step, htable, List.map_append, ← h.rows]
    rfl
  · intro other hother
    rcases List.mem_append.mp hother with hold | hlast
    · exact h.hashes other hold
    · rw [List.mem_singleton.mp hlast]
      exact hhash
  · rw [hmemory, htable]
  · rw [htable]
    intro receipts hreceipts other hother
    cases hreceipts
    rw [List.mem_singleton.mp hother]
    exact hhash

/-- **One call** that meets its condition has the same outcome on both stores, and keeps
the simulation. -/
theorem Simulates.step (h : Simulates H stores stored) {call : ReceiptCall}
    (hmeets : Meets H reads stores call) : Alike H reads stores call := by
  cases call with
  | append receipt =>
    by_cases hhash : receipt.receipt.receiptHash =
        buildSourceObjectWriteReceiptHash H receipt.receipt
    · have haccepts := hmeets hhash
      -- both find a conflict, or none does
      by_cases hconflict : ∃ row ∈ stores.rows, Conflicts receipt.receipt row
      · refine h.alike_of_error (.valueError (.message
          "source object write receipt already exists")) ?_ ?_
        · rw [inMemory, InMemorySourceObjectWriteReceiptStore.append,
            if_neg (not_not.mpr hhash), if_pos ((h.conflict_iff receipt).mpr hconflict)]
          rfl
        · rw [onTable, append, if_neg (not_not.mpr hhash), if_neg (not_not.mpr haccepts),
            if_pos hconflict]
          rfl
      · exact h.alike_of_append hhash haccepts hconflict
    · -- both compare the hash before anything else
      refine h.alike_of_error (.valueError (.message
        "source object write receipt hash is invalid")) ?_ ?_
      · rw [inMemory, InMemorySourceObjectWriteReceiptStore.append, if_pos hhash]
        rfl
      · rw [onTable, append, if_pos hhash]
        rfl
  | get tenantId receiptHash =>
    obtain ⟨hsend, hcanonical⟩ := hmeets
    have hmemory := h.get? (tenantId, receiptHash)
    have hrow := h.find_row (tenantId, receiptHash)
    -- both look for the same receipt
    cases hfind : stored.find? fun receipt => keyOf receipt = (tenantId, receiptHash) with
    | none =>
      rw [hfind, Option.map_none] at hmemory hrow
      refine h.alike_of_error .keyError ?_ ?_
      · rw [inMemory, InMemorySourceObjectWriteReceiptStore.get, hmemory]
        rfl
      · rw [onTable, PgSourceObjectWriteReceiptStore.get, if_neg (not_not.mpr hsend), hrow]
        rfl
    | some receipt =>
      rw [hfind, Option.map_some] at hmemory hrow
      have hread := receiptFromRow_receiptValues (hcanonical receipt.receipt hmemory)
      refine h.alike_of_read [receipt] ?_ ?_ ?_
      · simpa using List.mem_of_find?_eq_some hfind
      · rw [inMemory, InMemorySourceObjectWriteReceiptStore.get, hmemory]
        rfl
      · rw [onTable, PgSourceObjectWriteReceiptStore.get, if_neg (not_not.mpr hsend), hrow]
        dsimp only
        rw [hread]
        rfl
  | listReceipts tenantId =>
    obtain ⟨hsend, hguard⟩ := hmeets
    -- the lists are the same where hashes and times of capture agree
    have horder : byHash stored tenantId = byCapture stored tenantId := by
      refine h.byHash_eq fun a ha b hb htenant htenant' hhash => ?_
      exact (hguard _ (h.mem_values ha) htenant).2 _ (h.mem_values hb) htenant' hhash
    have hmem : ∀ receipt ∈ byCapture stored tenantId,
        receipt ∈ stored ∧ receipt.receipt.metadata.tenantId = tenantId := by
      intro receipt hreceipt
      simpa [byCapture] using hreceipt
    have hread := mapM_receiptValues fun receipt hreceipt =>
      (hguard _ (h.mem_values (hmem receipt hreceipt).1) (hmem receipt hreceipt).2).1
    refine h.alike_of_read (byCapture stored tenantId)
      (fun receipt hreceipt => (hmem receipt hreceipt).1) ?_ ?_
    · rw [inMemory, h.list_memory, horder]
    · rw [onTable, listReceipts, if_neg (not_not.mpr hsend), h.list_rows, hread]

end

/-- **Runs.** While each call meets its condition, the two stores cannot be told apart. -/
theorem same_outcomes_run {calls : List ReceiptCall}
    (h : Runs.Guarded (step H reads) (Meets H reads) empty calls) :
    Runs.Always (step H reads) (SameOutcomes H) empty calls := by
  have hrun := Runs.always_of_guarded
    (I := fun stores => (∃ stored, Simulates H stores stored) ∧ SameOutcomes H stores)
    ?_ ?_ h
  · exact Runs.always_mono (fun stores hstores => hstores.2) hrun
  · rintro stores call ⟨⟨stored, hsimulates⟩, hsame⟩ hmeets
    obtain ⟨hnext, heq, hvalid⟩ := hsimulates.step hmeets
    refine ⟨hnext, fun outcomes houtcomes => ?_⟩
    rcases List.mem_append.mp houtcomes with hold | hnew
    · exact hsame outcomes hold
    · rw [List.mem_singleton.mp hnew]
      exact ⟨heq, hvalid⟩
  · exact ⟨⟨[], rfl, rfl, rfl, by simp⟩, by simp [SameOutcomes, empty]⟩

/-! ## A captured time with an offset -/

/-- Every content has the digest of 32 zero bytes. -/
def zeroHashes : HashFunctions := { (default : HashFunctions) with
  sha256 := fun _ => List.replicate 32 0 }

/-- A receipt for one document, captured at this time. -/
def sampleReceipt (capturedAtUtc : String) : SourceObjectWriteReceipt where
  metadata := {
    tenantId := "acme"
    objectId := "doc-1"
    objectType := .document
    versionId := "v1"
    title := "Contract"
    ownerPrincipalId := "alice"
    createdBy := "alice"
    createdAtUtc := "2026-01-05T09:00:00Z"
    updatedAtUtc := "2026-01-05T09:00:00Z"
    classification := .internal
    retentionPolicyId := "office"
    kmsKeyRef := "kms://acme/internal/v1"
    manifestHash := zeroHash
    auditChainRef := "audit:1"
    sourceSystem := "collabio"
    aclHash := "acl:1"
    aclVersion := 1
    contentHash := zeroHash
    contentByteLength := 32 }
  receiptReference := "receipt:1"
  capturedAtUtc := capturedAtUtc

def canonicalReceipt : AcceptedReceipt where
  receipt := sampleReceipt "2026-01-05T09:00:00Z"
  normalized := by decide +kernel
  accepted := by decide +kernel

/-- The same instant, written with its offset. -/
def offsetReceipt : AcceptedReceipt where
  receipt := sampleReceipt "2026-01-05T09:00:00+00:00"
  normalized := by decide +kernel
  accepted := by decide +kernel

theorem hashValid_sampleReceipt (capturedAtUtc : String) :
    HashValid zeroHashes (sampleReceipt capturedAtUtc) := by
  have hzero : "sha256:" ++ String.ofList (Text.hexChars (List.replicate 32 0)) = zeroHash := by
    decide +kernel
  exact hzero.symm

/-- The stores after the first append. -/
theorem step_append_empty {H : HashFunctions} {reads : String → Bool} (receipt : AcceptedReceipt)
    (hhash : receipt.receipt.receiptHash =
      buildSourceObjectWriteReceiptHash H receipt.receipt)
    (haccepts : TableAccepts reads receipt.receipt) :
    step H reads empty (.append receipt) = {
      memory := {
        receipts := Dict.set ∅ (keyOf receipt) receipt.receipt
        objectVersions := [receipt.receipt.metadata.versionKey] }
      rows := [receiptValues receipt]
      outcomes := [(.ok [receipt.receipt], .ok [receipt.receipt])] } := by
  -- the store is empty, so neither the key nor the version is there
  have hmemory : InMemorySourceObjectWriteReceiptStore.append H receipt.receipt ∅ =
      (.ok receipt.receipt, {
        receipts := Dict.set ∅ (keyOf receipt) receipt.receipt
        objectVersions := [receipt.receipt.metadata.versionKey] }) := by
    have hnone : ¬ ((∅ : InMemorySourceObjectWriteReceiptStore).receipts.contains
        (receipt.receipt.metadata.tenantId, receipt.receipt.receiptHash) = true ∨
        receipt.receipt.metadata.versionKey ∈
          (∅ : InMemorySourceObjectWriteReceiptStore).objectVersions) := by
      rintro (hkey | hversion)
      · cases hkey
      · cases hversion
    rw [InMemorySourceObjectWriteReceiptStore.append, if_neg (not_not.mpr hhash), if_neg hnone]
    rfl
  have htable : append H reads receipt [] = (.ok receipt.receipt, [receiptValues receipt]) := by
    rw [append, if_neg (not_not.mpr hhash), if_neg (not_not.mpr haccepts), if_neg (by simp)]
    rfl
  simp only [step, empty, inMemory, onTable, hmemory, htable]
  rfl

/-- A receipt whose capture is written with an offset comes back with another text. -/
theorem offset_receipt_changes : ∃ calls : List ReceiptCall,
    ¬ Runs.Always (step zeroHashes fun _ => true) (SameOutcomes zeroHashes) empty calls := by
  refine ⟨[.append offsetReceipt, .get "acme" zeroHash], fun h => ?_⟩
  have haccepts : TableAccepts (fun _ => true) offsetReceipt.receipt := by decide +kernel
  have hstart := step_append_empty offsetReceipt (hashValid_sampleReceipt _) haccepts
  have hlast := Runs.always_last h
  rw [Runs.run_cons, Runs.run_cons, Runs.run_nil, hstart] at hlast
  -- the outcomes of the `get`
  obtain ⟨hsame, -⟩ := hlast _ (List.mem_append_right _ (List.mem_singleton_self _))
  have hmemory : (inMemory zeroHashes (.get "acme" zeroHash) {
      receipts := Dict.set ∅ (keyOf offsetReceipt) offsetReceipt.receipt
      objectVersions := [offsetReceipt.receipt.metadata.versionKey] }).1 =
      .ok [offsetReceipt.receipt] := by
    have hget := Dict.get?_set_self ∅ (keyOf offsetReceipt) offsetReceipt.receipt
    have hkey : keyOf offsetReceipt = ("acme", zeroHash) := rfl
    rw [hkey] at hget
    simp only [inMemory, InMemorySourceObjectWriteReceiptStore.get, hkey, hget]
    rfl
  have htable : (onTable zeroHashes (fun _ => true) (.get "acme" zeroHash)
      [receiptValues offsetReceipt]).1 =
      (receiptFromRow (receiptValues offsetReceipt)).map ([·]) := by
    have hfound : ([receiptValues offsetReceipt].find? fun row =>
        (row.columns.metadata.tenantId, row.columns.receiptHash) = ("acme", zeroHash)) =
        some (receiptValues offsetReceipt) := by decide +kernel
    rw [onTable, PgSourceObjectWriteReceiptStore.get, if_neg (by decide +kernel), hfound]
  rw [hmemory, htable] at hsame
  cases hread : receiptFromRow (receiptValues offsetReceipt) with
  | error exn =>
    rw [hread] at hsame
    cases hsame
  | ok receipt =>
    rw [hread] at hsame
    cases hsame
    obtain ⟨-, hrestored⟩ := accept_eq_ok.mp hread
    have htext := congrArg SourceObjectWriteReceipt.capturedAtUtc hrestored
    revert htext
    decide +kernel

/-- An append, a `get` and a list of a receipt with canonical times. -/
theorem sample_same_outcomes_run :
    Runs.Always (step zeroHashes fun _ => true) (SameOutcomes zeroHashes) empty
      [.append canonicalReceipt, .get "acme" zeroHash, .listReceipts "acme"] := by
  have haccepts : TableAccepts (fun _ => true) canonicalReceipt.receipt := by decide +kernel
  have hcanonical : TimesCanonical canonicalReceipt.receipt := by
    unfold TimesCanonical
    decide +kernel
  have hvalues : (Dict.set ∅ (keyOf canonicalReceipt) canonicalReceipt.receipt).values =
      [canonicalReceipt.receipt] := rfl
  refine same_outcomes_run (Runs.guarded_cons.mpr ⟨fun _ => haccepts, ?_⟩)
  rw [step_append_empty canonicalReceipt (hashValid_sampleReceipt _) haccepts]
  refine Runs.guarded_cons.mpr ⟨⟨by decide +kernel, ?_⟩,
    Runs.guarded_cons.mpr ⟨⟨by decide +kernel, ?_⟩, Runs.guarded_nil⟩⟩
  · intro receipt hreceipt
    have hget := Dict.get?_set_self ∅ (keyOf canonicalReceipt) canonicalReceipt.receipt
    obtain rfl : canonicalReceipt.receipt = receipt := Option.some.inj (hget.symm.trans hreceipt)
    exact hcanonical
  · intro a ha htenant
    have hall : ∀ b ∈ (Dict.set ∅ (keyOf canonicalReceipt) canonicalReceipt.receipt).values,
        b = canonicalReceipt.receipt := by
      rw [hvalues]
      simp
    obtain rfl := hall a ha
    refine ⟨hcanonical, fun b hb _ _ => ?_⟩
    obtain rfl := hall b hb
    intro s hs t ht
    exact le_of_eq (congrArg DateTime.instant (Option.mem_unique hs ht))

end ReceiptStores

end Collabio
