import Mathlib.Tactic
import Collabio.Storage.PgReceiptStore
import Collabio.Storage.SourceObjectsSpec

/-!
# The in-memory source stores as ledgers

The write receipts and the source objects of one process, over any sequence of calls of both
stores, those that raise included. Beside the stores stand, as a record of the past that the
code itself does not keep, the receipts whose `append` and the records whose `add` returned.

* `perform_of_error`    — a call that raises leaves both stores as they were;
* `Recorded`            — the items of the stores are those receipts and records, in order;
* `source_stores_append_only` — what the calls of a run find, and that it stays.
-/

namespace Collabio

variable (H : HashFunctions)

/-! ## Calls -/

inductive SourceStoreCall where
  | appendReceipt (receipt : SourceObjectWriteReceipt)
  | getReceipt (tenantId receiptHash : String)
  | listReceipts (tenantId : String)
  | addRecord (record : SourceObjectRecord)
  | getRecord (tenantId objectId versionId : String)
  | latestRecord (tenantId objectId : String)

inductive SourceStoreResult where
  | receipt (receipt : SourceObjectWriteReceipt)
  | receipts (receipts : List SourceObjectWriteReceipt)
  | added
  | record (record : SourceObjectRecord)

structure SourceStores where
  receipts : InMemorySourceObjectWriteReceiptStore := ∅
  sources  : InMemorySourceObjectRepository := ∅

namespace SourceStores

/-- One call; each works on one of the stores. -/
def perform : SourceStoreCall → Eff Exn SourceStores SourceStoreResult
  | .appendReceipt receipt, stores =>
    let result := InMemorySourceObjectWriteReceiptStore.append H receipt stores.receipts
    (result.1.map .receipt, { stores with receipts := result.2 })
  | .getReceipt tenantId receiptHash, stores =>
    ((stores.receipts.get tenantId receiptHash).map .receipt, stores)
  | .listReceipts tenantId, stores => (.ok (.receipts (stores.receipts.listReceipts tenantId)), stores)
  | .addRecord record, stores =>
    let result := InMemorySourceObjectRepository.add H record stores.sources
    (result.1.map fun _ => .added, { stores with sources := result.2 })
  | .getRecord tenantId objectId versionId, stores =>
    ((stores.sources.get tenantId objectId versionId).map .record, stores)
  | .latestRecord tenantId objectId, stores =>
    ((stores.sources.latest tenantId objectId).map .record, stores)

end SourceStores

/-! ## Runs -/

/-- The stores, and what was stored in them so far. -/
structure SourceLedgers where
  stores   : SourceStores := {}
  appended : List SourceObjectWriteReceipt := []
  added    : List SourceObjectRecord := []

/-- The receipt that a call stores if it returns. -/
def SourceStoreCall.receipts : SourceStoreCall → List SourceObjectWriteReceipt
  | .appendReceipt receipt => [receipt]
  | _ => []

/-- The record that a call stores if it returns. -/
def SourceStoreCall.records : SourceStoreCall → List SourceObjectRecord
  | .addRecord record => [record]
  | _ => []

namespace SourceLedgers

/-- Before the first call. -/
def empty : SourceLedgers := {}

def step (ledgers : SourceLedgers) (call : SourceStoreCall) : SourceLedgers :=
  match SourceStores.perform H call ledgers.stores with
  | (.ok _, stores) => ⟨stores, ledgers.appended ++ call.receipts, ledgers.added ++ call.records⟩
  | (.error _, stores) => { ledgers with stores }

/-- A tenant's receipts, by `list_receipts`. -/
def listed (ledgers : SourceLedgers) (tenantId : String) : List SourceObjectWriteReceipt :=
  ledgers.stores.receipts.listReceipts tenantId

/-- The records of an object, oldest first. -/
def versions (ledgers : SourceLedgers) (tenantId objectId : String) : List SourceObjectRecord :=
  ledgers.added.filter fun record => record.metadata.objectKey = (tenantId, objectId)

/-- What the calls find in the stores. -/
structure Intact (ledgers : SourceLedgers) : Prop where
  /-- A receipt is found under its tenant and its recomputed hash, as it was appended. -/
  receipts : ∀ tenantId receiptHash receipt,
    ledgers.stores.receipts.get tenantId receiptHash = .ok receipt ↔
      receipt ∈ ledgers.appended ∧ receipt.metadata.tenantId = tenantId ∧
        receiptHash = buildSourceObjectWriteReceiptHash H receipt
  /-- A list has all receipts of its tenant, each once. -/
  listed : ∀ tenantId, (ledgers.listed tenantId).Nodup ∧ ∀ receipt,
    receipt ∈ ledgers.listed tenantId ↔
      receipt ∈ ledgers.appended ∧ receipt.metadata.tenantId = tenantId
  /-- The key under which a receipt is listed is its recomputed hash. -/
  hashes : ∀ tenantId, ∀ receipt ∈ ledgers.listed tenantId,
    receipt.receiptHash = buildSourceObjectWriteReceiptHash H receipt
  /-- Two receipts of a tenant differ in hash and in object version. -/
  distinct : ∀ tenantId, (ledgers.listed tenantId).Pairwise fun a b =>
    a.receiptHash ≠ b.receiptHash ∧
      (a.metadata.objectId, a.metadata.versionId) ≠ (b.metadata.objectId, b.metadata.versionId)
  /-- A record is found under its own tenant, object and version, as it was added. -/
  records : ∀ tenantId objectId versionId record,
    ledgers.stores.sources.get tenantId objectId versionId = .ok record ↔
      record ∈ ledgers.added ∧ record.metadata.versionKey = (tenantId, objectId, versionId)
  /-- Two records differ in tenant, object or version. -/
  versions : ledgers.added.Pairwise fun a b => a.metadata.versionKey ≠ b.metadata.versionKey
  /-- Every record has passed the write guard. -/
  guarded : ∀ record ∈ ledgers.added, SourceObjectWriteGuard.validateBeforeWrite H record = .ok ()
  /-- The latest version is the one added last. -/
  latest : ∀ tenantId objectId record,
    ledgers.stores.sources.latest tenantId objectId = .ok record ↔
      (ledgers.versions tenantId objectId).getLast? = some record

/-- Whatever is found in the first stores is found, unchanged, in the second. -/
structure Extends (before after : SourceStores) : Prop where
  receipts : ∀ tenantId receiptHash receipt,
    before.receipts.get tenantId receiptHash = .ok receipt →
      after.receipts.get tenantId receiptHash = .ok receipt
  listed : ∀ tenantId, ∀ receipt ∈ before.receipts.listReceipts tenantId,
    receipt ∈ after.receipts.listReceipts tenantId
  records : ∀ tenantId objectId versionId record,
    before.sources.get tenantId objectId versionId = .ok record →
      after.sources.get tenantId objectId versionId = .ok record

end SourceLedgers

open SourceLedgers

variable {H}

/-! ## Calls that raise -/

/-- **A call that raises** leaves both stores as they were. -/
theorem perform_of_error {call : SourceStoreCall} {stores stores' : SourceStores} {exn : Exn}
    (h : SourceStores.perform H call stores = (.error exn, stores')) : stores' = stores := by
  cases call with
  | appendReceipt receipt =>
    unfold SourceStores.perform InMemorySourceObjectWriteReceiptStore.append at h
    dsimp only at h
    split_ifs at h
    · cases h
      rfl
    · cases h
      rfl
    · cases h
  | addRecord record =>
    unfold SourceStores.perform at h
    dsimp only at h
    -- only an add that raises is left, and it changes no source
    rcases hadd : InMemorySourceObjectRepository.add H record stores.sources with ⟨_ | _, sources⟩
    · rw [hadd] at h
      cases h
      rw [InMemorySourceObjectRepository.add_of_error hadd]
    · rw [hadd] at h
      cases h
  | getReceipt tenantId receiptHash => exact (congrArg Prod.snd h).symm
  | listReceipts tenantId => cases h
  | getRecord tenantId objectId versionId => exact (congrArg Prod.snd h).symm
  | latestRecord tenantId objectId => exact (congrArg Prod.snd h).symm

/-! ## What the stores hold -/

/-- The key of a receipt. -/
def SourceObjectWriteReceipt.key (receipt : SourceObjectWriteReceipt) : String × String :=
  (receipt.metadata.tenantId, receipt.receiptHash)

variable (H) in
/-- The items of the stores are what was stored, in order, and each of it passed its checks. -/
structure Recorded (ledgers : SourceLedgers) : Prop where
  receipts  : ledgers.stores.receipts.receipts.items =
    ledgers.appended.map fun receipt => (receipt.key, receipt)
  versions  : ledgers.stores.receipts.objectVersions =
    ledgers.appended.map (·.metadata.versionKey)
  nodup     : (ledgers.appended.map (·.metadata.versionKey)).Nodup
  hashes    : ∀ receipt ∈ ledgers.appended,
    receipt.receiptHash = buildSourceObjectWriteReceiptHash H receipt
  records   : ledgers.stores.sources.records.items =
    ledgers.added.map fun record => (record.metadata.versionKey, record)
  latest    : ∀ tenantId objectId, ledgers.stores.sources.latestKeys.get? (tenantId, objectId) =
    (ledgers.versions tenantId objectId).getLast?.map (·.metadata.versionKey)
  guarded   : ∀ record ∈ ledgers.added,
    SourceObjectWriteGuard.validateBeforeWrite H record = .ok ()

theorem recorded_empty : Recorded H empty := by
  refine ⟨rfl, rfl, List.nodup_nil, ?_, rfl, fun _ _ => rfl, ?_⟩
  · intro receipt hreceipt
    cases hreceipt
  · intro record hrecord
    cases hrecord

section

variable {ledgers : SourceLedgers}

/-- An `append` that returns had a valid hash and a new key and version. -/
theorem append_eq_ok {receipt appended : SourceObjectWriteReceipt}
    {store store' : InMemorySourceObjectWriteReceiptStore}
    (h : InMemorySourceObjectWriteReceiptStore.append H receipt store = (.ok appended, store')) :
    receipt.receiptHash = buildSourceObjectWriteReceiptHash H receipt ∧
      store.receipts.get? receipt.key = none ∧
      receipt.metadata.versionKey ∉ store.objectVersions ∧
      store' = {
        receipts := store.receipts.set receipt.key receipt
        objectVersions := store.objectVersions ++ [receipt.metadata.versionKey] } := by
  unfold InMemorySourceObjectWriteReceiptStore.append at h
  split_ifs at h with hhash hpresent
  · cases h
  · cases h
  · cases h
    rw [not_or] at hpresent
    refine ⟨not_not.mp hhash, ?_, hpresent.2, rfl⟩
    simpa [Dict.contains, SourceObjectWriteReceipt.key] using hpresent.1

theorem Recorded.append (h : Recorded H ledgers) {receipt appended : SourceObjectWriteReceipt}
    {store : InMemorySourceObjectWriteReceiptStore}
    (hok : InMemorySourceObjectWriteReceiptStore.append H receipt ledgers.stores.receipts =
      (.ok appended, store)) :
    Recorded H ⟨{ ledgers.stores with receipts := store }, ledgers.appended ++ [receipt],
      ledgers.added⟩ := by
  obtain ⟨hhash, hkey, hversion, rfl⟩ := append_eq_ok hok
  refine ⟨?_, ?_, ?_, ?_, h.records, h.latest, h.guarded⟩
  · rw [List.map_append, ← h.receipts]
    exact Dict.items_set_new hkey
  · rw [List.map_append, ← h.versions]
    rfl
  · rw [h.versions] at hversion
    rw [List.map_append, List.nodup_append]
    refine ⟨h.nodup, List.nodup_singleton _, fun key hold other hnew => ?_⟩
    rw [List.map_singleton, List.mem_singleton] at hnew
    rintro rfl
    exact hversion (hnew ▸ hold)
  · intro other hother
    rcases List.mem_append.mp hother with hold | hnew
    · exact h.hashes other hold
    · rw [List.mem_singleton.mp hnew]
      exact hhash

theorem versions_concat (stores : SourceStores) (record : SourceObjectRecord)
    (tenantId objectId : String) :
    (⟨stores, ledgers.appended, ledgers.added ++ [record]⟩ : SourceLedgers).versions
        tenantId objectId =
      if record.metadata.objectKey = (tenantId, objectId) then
        ledgers.versions tenantId objectId ++ [record]
      else ledgers.versions tenantId objectId := by
  unfold SourceLedgers.versions
  rw [List.filter_append]
  split_ifs with hobject
  · rw [List.filter_cons_of_pos (by simpa using hobject), List.filter_nil]
  · rw [List.filter_cons_of_neg (by simpa using hobject), List.filter_nil, List.append_nil]

theorem Recorded.add (h : Recorded H ledgers) {record : SourceObjectRecord}
    {sources : InMemorySourceObjectRepository}
    (hok : InMemorySourceObjectRepository.add H record ledgers.stores.sources =
      (.ok (), sources)) :
    Recorded H ⟨{ ledgers.stores with sources }, ledgers.appended, ledgers.added ++ [record]⟩ := by
  obtain ⟨hguard, hfresh, rfl⟩ := InMemorySourceObjectRepository.add_eq_ok.mp hok
  refine ⟨h.receipts, h.versions, h.nodup, h.hashes, ?_, ?_, ?_⟩
  · rw [List.map_append, ← h.records]
    exact Dict.items_set_new hfresh
  · -- the newest version of an object is the one added last
    intro tenantId objectId
    rw [versions_concat]
    show (ledgers.stores.sources.latestKeys.set record.metadata.objectKey
      record.metadata.versionKey).get? (tenantId, objectId) = _
    rw [Dict.get?_set]
    split_ifs with hnew hobject hobject
    · rw [List.getLast?_concat]
      rfl
    · exact absurd hnew.symm hobject
    · exact absurd hobject.symm hnew
    · exact h.latest tenantId objectId
  · intro other hother
    rcases List.mem_append.mp hother with hold | hnew
    · exact h.guarded other hold
    · rw [List.mem_singleton.mp hnew]
      exact hguard

/-- A call that reads stores nothing. -/
theorem Recorded.read (h : Recorded H ledgers) {call : SourceStoreCall} {stores : SourceStores}
    (hnone : call.receipts = [] ∧ call.records = []) (hsame : stores = ledgers.stores) :
    Recorded H ⟨stores, ledgers.appended ++ call.receipts, ledgers.added ++ call.records⟩ := by
  rw [hnone.1, hnone.2, hsame, List.append_nil, List.append_nil]
  exact h

/-- **Step.** A call that returns stores at most its own receipt or record. -/
theorem Recorded.step (h : Recorded H ledgers) (call : SourceStoreCall) :
    Recorded H (ledgers.step H call) := by
  unfold SourceLedgers.step
  rcases hperform : SourceStores.perform H call ledgers.stores with ⟨exn | result, stores⟩
  · rw [perform_of_error hperform]
    exact h
  · dsimp only
    -- a call that returns is one of the writes, or a read
    cases call with
    | appendReceipt receipt =>
      unfold SourceStores.perform at hperform
      dsimp only at hperform
      rcases hok : InMemorySourceObjectWriteReceiptStore.append H receipt ledgers.stores.receipts
        with ⟨exn | appended, store⟩
      · rw [hok] at hperform
        cases hperform
      · rw [hok] at hperform
        cases hperform
        have hrecords : ledgers.added ++ (SourceStoreCall.appendReceipt receipt).records =
            ledgers.added := List.append_nil _
        rw [hrecords]
        exact h.append hok
    | addRecord record =>
      unfold SourceStores.perform at hperform
      dsimp only at hperform
      rcases hok : InMemorySourceObjectRepository.add H record ledgers.stores.sources
        with ⟨exn | ⟨⟩, sources⟩
      · rw [hok] at hperform
        cases hperform
      · rw [hok] at hperform
        cases hperform
        have hreceipts : ledgers.appended ++ (SourceStoreCall.addRecord record).receipts =
            ledgers.appended := List.append_nil _
        rw [hreceipts]
        exact h.add hok
    | getReceipt tenantId receiptHash =>
      -- reads write nothing
      exact h.read ⟨rfl, rfl⟩ (congrArg Prod.snd hperform).symm
    | listReceipts tenantId =>
      exact h.read ⟨rfl, rfl⟩ (congrArg Prod.snd hperform).symm
    | getRecord tenantId objectId versionId =>
      exact h.read ⟨rfl, rfl⟩ (congrArg Prod.snd hperform).symm
    | latestRecord tenantId objectId =>
      exact h.read ⟨rfl, rfl⟩ (congrArg Prod.snd hperform).symm

/-! ## What the calls find -/

theorem Recorded.get_receipt (h : Recorded H ledgers) {tenantId receiptHash : String}
    {receipt : SourceObjectWriteReceipt} :
    ledgers.stores.receipts.get tenantId receiptHash = .ok receipt ↔
      receipt ∈ ledgers.appended ∧ receipt.key = (tenantId, receiptHash) := by
  have hget : ledgers.stores.receipts.get tenantId receiptHash = .ok receipt ↔
      ledgers.stores.receipts.receipts.get? (tenantId, receiptHash) = some receipt := by
    unfold InMemorySourceObjectWriteReceiptStore.get
    split <;> simp_all
  rw [hget, ← Dict.mem_items, h.receipts, List.mem_map]
  constructor
  · rintro ⟨other, hother, hitem⟩
    cases hitem
    exact ⟨hother, rfl⟩
  · rintro ⟨hreceipt, hkey⟩
    exact ⟨receipt, hreceipt, by rw [hkey]⟩

theorem Recorded.get_record (h : Recorded H ledgers) {tenantId objectId versionId : String}
    {record : SourceObjectRecord} :
    ledgers.stores.sources.get tenantId objectId versionId = .ok record ↔
      record ∈ ledgers.added ∧ record.metadata.versionKey = (tenantId, objectId, versionId) := by
  rw [InMemorySourceObjectRepository.get_eq_ok, ← Dict.mem_items, h.records, List.mem_map]
  constructor
  · rintro ⟨other, hother, hitem⟩
    cases hitem
    exact ⟨hother, rfl⟩
  · rintro ⟨hrecord, hkey⟩
    exact ⟨record, hrecord, by rw [hkey]⟩

/-- The appended receipts have different keys. -/
theorem Recorded.nodup_keys (h : Recorded H ledgers) :
    (ledgers.appended.map (·.key)).Nodup := by
  have hnodup := ledgers.stores.receipts.receipts.nodup
  rwa [h.receipts, List.map_map] at hnodup

/-- So have the added records. -/
theorem Recorded.nodup_records (h : Recorded H ledgers) :
    (ledgers.added.map (·.metadata.versionKey)).Nodup := by
  have hnodup := ledgers.stores.sources.records.nodup
  rwa [h.records, List.map_map] at hnodup

/-- A list is a permutation of the tenant's receipts. -/
theorem Recorded.listed_perm (h : Recorded H ledgers) (tenantId : String) :
    (ledgers.listed tenantId).Perm
      (ledgers.appended.filter fun receipt => receipt.metadata.tenantId = tenantId) := by
  unfold SourceLedgers.listed InMemorySourceObjectWriteReceiptStore.listReceipts
  have hperm := ((List.mergeSort_perm ledgers.stores.receipts.receipts.items
    fun a b => decide (toLex a.1 ≤ toLex b.1)).filter
      fun item => decide (item.1.1 = tenantId)).map Prod.snd
  refine hperm.trans (List.Perm.of_eq ?_)
  rw [h.receipts, List.filter_map, List.map_map]
  exact List.map_id _

theorem Recorded.intact (h : Recorded H ledgers) : ledgers.Intact H := by
  have hmem : ∀ {tenantId receipt}, receipt ∈ ledgers.listed tenantId ↔
      receipt ∈ ledgers.appended ∧ receipt.metadata.tenantId = tenantId := by
    intro tenantId receipt
    rw [(h.listed_perm tenantId).mem_iff, List.mem_filter, decide_eq_true_iff]
  have hkeys : ledgers.appended.Pairwise fun a b =>
      a.key ≠ b.key ∧ a.metadata.versionKey ≠ b.metadata.versionKey :=
    (List.pairwise_map.mp h.nodup_keys).and (List.pairwise_map.mp h.nodup)
  refine ⟨?_, ?_, ?_, ?_, ?_, ?_, h.guarded, ?_⟩
  · intro tenantId receiptHash receipt
    rw [h.get_receipt, SourceObjectWriteReceipt.key, Prod.mk.injEq]
    refine and_congr_right fun hreceipt => and_congr_right fun _ => ?_
    rw [h.hashes receipt hreceipt, eq_comm]
  · intro tenantId
    refine ⟨?_, fun receipt => hmem⟩
    refine ((h.listed_perm tenantId).nodup_iff).mpr (List.Nodup.filter _ ?_)
    exact List.Nodup.of_map _ h.nodup
  · intro tenantId receipt hreceipt
    exact h.hashes receipt (hmem.mp hreceipt).1
  · intro tenantId
    have hsymm : ∀ {a b : SourceObjectWriteReceipt},
        (a.key ≠ b.key ∧ a.metadata.versionKey ≠ b.metadata.versionKey) →
          b.key ≠ a.key ∧ b.metadata.versionKey ≠ a.metadata.versionKey :=
      fun hne => ⟨hne.1.symm, hne.2.symm⟩
    have hlisted := ((h.listed_perm tenantId).symm.pairwise_iff hsymm).mp (hkeys.filter _)
    refine hlisted.imp_of_mem fun {a b} ha hb hne => ?_
    -- both are of one tenant, so they differ in the rest of each key
    have htenant : a.metadata.tenantId = b.metadata.tenantId :=
      (hmem.mp ha).2.trans (hmem.mp hb).2.symm
    refine ⟨fun hhash => hne.1 ?_, fun hversion => hne.2 ?_⟩
    · rw [SourceObjectWriteReceipt.key, SourceObjectWriteReceipt.key, htenant, hhash]
    · rw [SourceObjectMetadata.versionKey, SourceObjectMetadata.versionKey, htenant, hversion]
  · intro tenantId objectId versionId record
    exact h.get_record
  · exact List.pairwise_map.mp h.nodup_records
  · intro tenantId objectId record
    rw [InMemorySourceObjectRepository.latest_eq_ok, h.latest]
    constructor
    · rintro ⟨key, hkey, hrecord⟩
      obtain ⟨newest, hnewest, rfl⟩ := Option.map_eq_some_iff.mp hkey
      rw [← Dict.mem_items, h.records, List.mem_map] at hrecord
      obtain ⟨other, hother, hitem⟩ := hrecord
      obtain ⟨hsame, rfl⟩ := Prod.mk.inj hitem
      have hadded : newest ∈ ledgers.added :=
        (List.mem_filter.mp (List.mem_of_getLast? hnewest)).1
      rwa [List.inj_on_of_nodup_map h.nodup_records hother hadded hsame]
    · intro hlast
      have hadded : record ∈ ledgers.added :=
        (List.mem_filter.mp (List.mem_of_getLast? hlast)).1
      refine ⟨record.metadata.versionKey, by rw [hlast]; rfl, ?_⟩
      rw [← Dict.mem_items, h.records]
      exact List.mem_map_of_mem hadded

end

/-! ## Runs -/

/-- What was stored stays stored. -/
theorem appended_prefix_step (ledgers : SourceLedgers) (call : SourceStoreCall) :
    ledgers.appended <+: (ledgers.step H call).appended ∧
      ledgers.added <+: (ledgers.step H call).added := by
  unfold SourceLedgers.step
  split
  · exact ⟨List.prefix_append .., List.prefix_append ..⟩
  · exact ⟨List.prefix_refl _, List.prefix_refl _⟩

theorem appended_prefix_run (ledgers : SourceLedgers) (calls : List SourceStoreCall) :
    ledgers.appended <+: (Runs.run (SourceLedgers.step H) ledgers calls).appended ∧
      ledgers.added <+: (Runs.run (SourceLedgers.step H) ledgers calls).added := by
  induction calls generalizing ledgers with
  | nil => exact ⟨List.prefix_refl _, List.prefix_refl _⟩
  | cons call calls ih =>
    obtain ⟨hreceipts, hrecords⟩ := @appended_prefix_step H ledgers call
    obtain ⟨hreceipts', hrecords'⟩ := ih (ledgers.step H call)
    exact ⟨hreceipts.trans hreceipts', hrecords.trans hrecords'⟩

/-- Stores that recorded more extend those that recorded less. -/
theorem Recorded.extends {before after : SourceLedgers} (h : Recorded H before)
    (h' : Recorded H after) (hreceipts : before.appended <+: after.appended)
    (hrecords : before.added <+: after.added) : Extends before.stores after.stores := by
  refine ⟨?_, ?_, ?_⟩
  · intro tenantId receiptHash receipt hget
    obtain ⟨hmem, hkey⟩ := h.get_receipt.mp hget
    exact h'.get_receipt.mpr ⟨hreceipts.subset hmem, hkey⟩
  · intro tenantId receipt hlisted
    have hmem := (h.listed_perm tenantId).mem_iff.mp hlisted
    rw [List.mem_filter] at hmem
    exact (h'.listed_perm tenantId).mem_iff.mpr
      (List.mem_filter.mpr ⟨hreceipts.subset hmem.1, hmem.2⟩)
  · intro tenantId objectId versionId record hget
    obtain ⟨hmem, hkey⟩ := h.get_record.mp hget
    exact h'.get_record.mpr ⟨hrecords.subset hmem, hkey⟩

/-- **The source stores are append-only.** In every state of a run the stores hold exactly what
was stored, under distinct keys and checked; what a state holds, every later one holds; and a
call that raises changes nothing. -/
theorem source_stores_append_only (calls : List SourceStoreCall) :
    Runs.Always (SourceLedgers.step H) (SourceLedgers.Intact H) empty calls ∧
    (∀ before after, before ++ after = calls →
      Extends (Runs.run (SourceLedgers.step H) empty before).stores
        (Runs.run (SourceLedgers.step H) empty calls).stores) ∧
    ∀ before call exn stores, before ++ [call] <+: calls →
      SourceStores.perform H call (Runs.run (SourceLedgers.step H) empty before).stores =
        (.error exn, stores) →
      stores = (Runs.run (SourceLedgers.step H) empty before).stores := by
  have hrecorded : ∀ calls, Runs.Always (SourceLedgers.step H) (Recorded H) empty calls :=
    Runs.always_of_invariant (fun _ call h => h.step call) recorded_empty
  refine ⟨?_, ?_, ?_⟩
  · exact Runs.always_mono (fun _ h => h.intact) (hrecorded calls)
  · rintro before after rfl
    obtain ⟨hreceipts, hrecords⟩ := @appended_prefix_run H
      (Runs.run (SourceLedgers.step H) empty before) after
    rw [← Runs.run_append] at hreceipts hrecords
    exact (Runs.always_last (hrecorded before)).extends
      (Runs.always_last (hrecorded (before ++ after))) hreceipts hrecords
  · intro before call exn stores _ hperform
    exact perform_of_error hperform

end Collabio
