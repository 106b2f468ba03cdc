import Mathlib.Tactic
import Collabio.Platform.LegacySqlSnapshotFaithful

/-!
# The exact condition on the rows

A snapshot that is faithful and stable gives the condition back: each constraint and each list of
columns is as long as its rows are many, and each row may come first or last.

* `ownRows_of_faithful`     — the rows of no two tables meet;
* `IsStable.entries`        — in another order, the same tables with the same row counts;
* `snapshot_iff`            — when a snapshot is faithful and stable;
* `dotted_schema`           — a schema whose name has a dot.
-/

namespace Collabio

variable {Cell : Type} {reading : CellReading Cell}

/-! ## Only then -/

section

variable {rows rows' : RowsByQuery Cell} {reads : SnapshotReads}
  {snapshot : LegacySqlSchemaSnapshot} {connectionFingerprintHash inspectedAtUtc : String}

/-- The names of a row of the tables. -/
theorem ReadsOf.names_of_table (hreads : ReadsOf reading rows reads) {tableRow : SqlRow Cell}
    (htable : tableRow ∈ rows.tables) : ∃ names, tableRow.tableNames reading = .ok names := by
  obtain ⟨entry, hread⟩ := Except.isOk_of_mapM hreads.kinds tableRow htable
  obtain ⟨names, hnames, -⟩ := SqlRow.tableRef_eq_ok.mp (readTableKind_ref hread)
  exact ⟨names, hnames⟩

/-- Schemas that come back have no dot. -/
theorem undotted_of_faithful (h : BuiltOf reading rows reads snapshot)
    (hfaithful : IsFaithful reading rows snapshot) {row : SqlRow Cell} (hrow : row ∈ rows.tables)
    {names : String × String} (hnames : row.tableNames reading = .ok names) :
    '.' ∉ names.1.toList := by
  have hmem := (hfaithful.names names).mpr ⟨row, hrow, SqlRow.isAbout_iff.mpr hnames⟩
  rw [h.names_tables] at hmem
  obtain ⟨entry, -, rfl⟩ := List.mem_map.mp hmem
  exact undotted_splitRef entry.1

/-- The table under the text of a row of the tables is faithful to the names of this row. -/
theorem faithful_table_of_row (h : BuiltOf reading rows reads snapshot)
    (hfaithful : IsFaithful reading rows snapshot) {row : SqlRow Cell} (hrow : row ∈ rows.tables)
    {names : String × String} (hnames : row.tableNames reading = .ok names) :
    ∃ kind table, table.toLegacySqlTableMetadataFields =
      reads.tableFields (SqlRow.refOf names, kind) ∧ table.names = names ∧
      TableIsFaithful reading rows table := by
  obtain ⟨kind, -, table, htable, hfields⟩ := h.table_of_row hrow hnames
  refine ⟨kind, table, hfields, ?_, hfaithful.tables table htable⟩
  rw [hfields, SnapshotReads.tableFields_names,
    splitRef_refOf (undotted_of_faithful h hfaithful hrow hnames)]

/-- No rows but a table's own stand under its text, if as many are about it as were grouped. -/
theorem ownRows_of_faithful (h : BuiltOf reading rows reads snapshot)
    (hfaithful : IsFaithful reading rows snapshot) {others : List (SqlRow Cell)}
    (hown : ∀ names kind table, table.toLegacySqlTableMetadataFields =
        reads.tableFields (SqlRow.refOf names, kind) → table.names = names →
      TableIsFaithful reading rows table → ∀ row ∈ others,
        row.tableRef reading = .ok (SqlRow.refOf names) → row.tableNames reading = .ok names) :
    OwnRows reading rows.tables others := by
  intro tableRow htable row hrow hsame
  obtain ⟨names, hnames⟩ := h.names_of_table htable
  obtain ⟨kind, table, hfields, hnames', hspec⟩ :=
    faithful_table_of_row h hfaithful htable hnames
  rw [SqlRow.tableRef_of_names hnames] at hsame
  rw [hnames, hown names kind table hfields hnames' hspec row hrow hsame]

theorem ownColumns_of_faithful (h : BuiltOf reading rows reads snapshot)
    (hfaithful : IsFaithful reading rows snapshot) :
    OwnRows reading rows.tables rows.columns := by
  refine ownRows_of_faithful h hfaithful fun names kind table hfields hnames hspec row hrow href =>
    names_of_length ?_ hrow href
  obtain ⟨ordered, columns, ⟨hperm, -⟩, hcolumns, hsame⟩ := hspec.columns
  rw [hnames] at hperm
  have hlength := congrArg List.length hsame
  rw [hfields, List.length_map, Except.length_of_mapM hcolumns, hperm.length_eq] at hlength
  rw [← hlength, ← length_valuesOf (fun _ _ hread => (readColumn_spec hread).1) h.columns]
  exact (sortBy_perm _ _).length_eq

theorem ownPrimaryKeys_of_faithful (h : BuiltOf reading rows reads snapshot)
    (hfaithful : IsFaithful reading rows snapshot) :
    OwnRows reading rows.tables rows.primaryKeys := by
  refine ownRows_of_faithful h hfaithful fun names kind table hfields hnames hspec row hrow href =>
    names_of_length ?_ hrow href
  obtain ⟨ordered, ⟨hperm, -⟩, hcolumns⟩ := hspec.primaryKey
  rw [hnames] at hperm
  have hlength := Except.length_of_mapM hcolumns
  rw [hfields, hperm.length_eq] at hlength
  rw [← hlength, ← length_valuesOf (fun _ _ hread => (readKeyColumn_spec hread).1) h.keyColumns]
  exact List.length_map _ |>.trans (sortBy_perm _ _).length_eq

theorem ownForeignKeys_of_faithful (h : BuiltOf reading rows reads snapshot)
    (hfaithful : IsFaithful reading rows snapshot) :
    OwnRows reading rows.tables rows.foreignKeys := by
  refine ownRows_of_faithful h hfaithful fun names kind table hfields hnames hspec row hrow href =>
    names_of_madeOf h.foreignKeys ?_ hrow href
  have hmade := hspec.foreignKeys
  rw [hnames, hfields] at hmade
  exact hmade

theorem ownIndexes_of_faithful (h : BuiltOf reading rows reads snapshot)
    (hfaithful : IsFaithful reading rows snapshot) :
    OwnRows reading rows.tables rows.indexes := by
  refine ownRows_of_faithful h hfaithful fun names kind table hfields hnames hspec row hrow href =>
    names_of_madeOf h.indexes ?_ hrow href
  have hmade := hspec.indexes
  rw [hnames, hfields] at hmade
  exact hmade

/-- In another order the same entries are found, with the same row counts. -/
theorem IsStable.entries (h : BuiltOf reading rows reads snapshot)
    (hstable : IsStable reading connectionFingerprintHash inspectedAtUtc rows snapshot)
    (hperm : rows.Perm rows') : ∃ reads', ReadsOf reading rows' reads' ∧
      ∀ entry ∈ reads'.entries, entry ∈ reads.entries ∧
        (Dict.valuesOf entry.1 reads.rowCounts).getLast? =
          (Dict.valuesOf entry.1 reads'.rowCounts).getLast? := by
  -- the snapshot of the other order has the same tables, each with its row count
  obtain ⟨snapshot', hbuild', hsame⟩ := hstable rows' hperm
  obtain ⟨reads', hreads', -, -, htables'⟩ := buildSnapshot_eq_ok.mp hbuild'
  have h' : BuiltOf reading rows' reads' snapshot' := ⟨hreads', htables'⟩
  refine ⟨reads', hreads', fun entry' hentry' => ?_⟩
  obtain ⟨table', htable', hfields'⟩ := h'.table_of_entry hentry'
  obtain ⟨table, htable, hboth⟩ := hsame.tables.exists_of_mem_right htable'
  obtain ⟨entry, hentry, hfields⟩ := h.entry_of_table htable
  -- equal names mean equal references, since both were split at their only dot
  have hrefs : entry.1 = entry'.1 := by
    have hnames := hboth.names
    rw [hfields, hfields', SnapshotReads.tableFields_names, SnapshotReads.tableFields_names]
      at hnames
    rw [← h.refOf_names hentry, hnames, h'.refOf_names hentry']
  have hkinds : entry.2 = entry'.2 := by
    have hkind := hboth.kind
    rwa [hfields, hfields'] at hkind
  have hcounts := hboth.rowCount
  rw [hfields, hfields'] at hcounts
  have hsameEntry : entry = entry' := Prod.ext hrefs hkinds
  subst hsameEntry
  exact ⟨hentry, hcounts⟩

theorem RowsByQuery.Perm.refl (rows : RowsByQuery Cell) : rows.Perm rows :=
  ⟨.refl _, .refl _, .refl _, .refl _, .refl _, .refl _⟩

/-- The kind that a row gives its table is the table's: the row may come last. -/
theorem entry_of_stable (h : BuiltOf reading rows reads snapshot)
    (hstable : IsStable reading connectionFingerprintHash inspectedAtUtc rows snapshot)
    {row : SqlRow Cell} (hrow : row ∈ rows.tables) {entry : String × LegacySqlRelationKind}
    (hread : readTableKind reading row = .ok entry) : entry ∈ reads.entries := by
  obtain ⟨others, hothers⟩ := List.exists_perm_concat hrow
  have hperm : rows.Perm { rows with tables := others ++ [row] } :=
    { RowsByQuery.Perm.refl rows with tables := hothers }
  obtain ⟨reads', hreads', hentries⟩ := hstable.entries h hperm
  have hlast := Except.getLast?_valuesOf_concat hread hreads'.kinds
  exact (hentries entry (SnapshotReads.mem_entries.mpr hlast)).1

/-- The row count that a row gives a table is the table's: the row may come last. -/
theorem rowCount_of_stable (h : BuiltOf reading rows reads snapshot)
    (hstable : IsStable reading connectionFingerprintHash inspectedAtUtc rows snapshot)
    {tableRow row : SqlRow Cell} (htable : tableRow ∈ rows.tables) (hrow : row ∈ rows.rowCounts)
    {count : String × Int} (hread : readRowCount reading row = .ok count)
    (hsame : row.tableRef reading = tableRow.tableRef reading) :
    (Dict.valuesOf count.1 reads.rowCounts).getLast? = some count.2 := by
  obtain ⟨others, hothers⟩ := List.exists_perm_concat hrow
  have hperm : rows.Perm { rows with rowCounts := others ++ [row] } :=
    { RowsByQuery.Perm.refl rows with rowCounts := hothers }
  obtain ⟨reads', hreads', hentries⟩ := hstable.entries h hperm
  have hlast := Except.getLast?_valuesOf_concat hread hreads'.rowCounts
  obtain ⟨kind, hkind⟩ := hreads'.mem_refs.mpr
    ⟨tableRow, htable, hsame.symm.trans (readRowCount_ref hread)⟩
  rw [(hentries _ hkind).2]
  exact hlast

/-- A row that no other one of its group precedes can be the first: it may come first. -/
theorem firstOfKeys_of_stable
    (hstable : IsStable reading connectionFingerprintHash inspectedAtUtc rows snapshot) :
    (foreignKeyKind reading).FirstRowsUsable reading rows.foreignKeys := by
  intro row hrow key hkey hleast
  obtain ⟨others, hothers⟩ := List.exists_perm_cons hrow
  obtain ⟨snapshot', hbuild', -⟩ := hstable { rows with foreignKeys := row :: others }
    { RowsByQuery.Perm.refl rows with foreignKeys := hothers }
  obtain ⟨reads', hreads', -⟩ := buildSnapshot_eq_ok.mp hbuild'
  exact firstUsable_of_head hreads'.foreignKeys hkey fun other hother =>
    hleast other (hothers.mem_iff.mpr (List.mem_cons_of_mem _ hother))

theorem firstOfIndexes_of_stable
    (hstable : IsStable reading connectionFingerprintHash inspectedAtUtc rows snapshot) :
    (indexKind reading).FirstRowsUsable reading rows.indexes := by
  intro row hrow key hkey hleast
  obtain ⟨others, hothers⟩ := List.exists_perm_cons hrow
  obtain ⟨snapshot', hbuild', -⟩ := hstable { rows with indexes := row :: others }
    { RowsByQuery.Perm.refl rows with indexes := hothers }
  obtain ⟨reads', hreads', -⟩ := buildSnapshot_eq_ok.mp hbuild'
  exact firstUsable_of_head hreads'.indexes hkey fun other hother =>
    hleast other (hothers.mem_iff.mpr (List.mem_cons_of_mem _ hother))

theorem unambiguous_of_faithful (h : BuiltOf reading rows reads snapshot)
    (hfaithful : IsFaithful reading rows snapshot)
    (hstable : IsStable reading connectionFingerprintHash inspectedAtUtc rows snapshot) :
    Unambiguous reading rows where
  undotted _ hrow _ hnames := undotted_of_faithful h hfaithful hrow hnames
  columns := ownColumns_of_faithful h hfaithful
  primaryKeys := ownPrimaryKeys_of_faithful h hfaithful
  foreignKeys := ownForeignKeys_of_faithful h hfaithful
  indexes := ownIndexes_of_faithful h hfaithful
  kinds := by
    intro row hrow row' hrow' href
    -- the kinds of both rows are the table's, as each of them may come last
    obtain ⟨⟨ref, kind⟩, hread⟩ := Except.isOk_of_mapM h.kinds row hrow
    obtain ⟨⟨ref', kind'⟩, hread'⟩ := Except.isOk_of_mapM h.kinds row' hrow'
    rw [readTableKind_ref hread, readTableKind_ref hread'] at href
    cases href
    have hkind := SnapshotReads.kind_unique (entry_of_stable h hstable hrow hread)
      (entry_of_stable h hstable hrow' hread')
    rw [hread, hread', hkind]
  rowCounts := by
    intro tableRow htable row hrow row' hrow' href href'
    -- and so are the row counts of both
    obtain ⟨⟨ref, count⟩, hread⟩ := Except.isOk_of_mapM h.rowCounts row hrow
    obtain ⟨⟨ref', count'⟩, hread'⟩ := Except.isOk_of_mapM h.rowCounts row' hrow'
    have hsame : ref = ref' := by
      have hrefs := href.trans href'.symm
      rw [readRowCount_ref hread, readRowCount_ref hread'] at hrefs
      exact Except.ok.inj hrefs
    subst hsame
    have hcount := rowCount_of_stable h hstable htable hrow hread href
    rw [rowCount_of_stable h hstable htable hrow' hread' href'] at hcount
    cases hcount
    rw [hread, hread']
  firstOfKeys := firstOfKeys_of_stable hstable
  firstOfIndexes := firstOfIndexes_of_stable hstable

end

/-! ## The condition -/

/-- **Schema snapshots.** A snapshot that is built of rows with distinct ordinals says about each
table what the table's own rows say, whatever the order of the rows, if and only if the rows are
unambiguous. -/
theorem snapshot_iff {rows : RowsByQuery Cell} {snapshot : LegacySqlSchemaSnapshot}
    {connectionFingerprintHash inspectedAtUtc : String}
    (hbuild : buildSnapshot reading connectionFingerprintHash inspectedAtUtc rows = .ok snapshot)
    (hdistinct : OrdinalsDistinct reading rows) :
    (IsFaithful reading rows snapshot ∧
      IsStable reading connectionFingerprintHash inspectedAtUtc rows snapshot) ↔
      Unambiguous reading rows := by
  obtain ⟨reads, hreads, hhash, htime, htables⟩ := buildSnapshot_eq_ok.mp hbuild
  have h : BuiltOf reading rows reads snapshot := ⟨hreads, htables⟩
  constructor
  · rintro ⟨hfaithful, hstable⟩
    exact unambiguous_of_faithful h hfaithful hstable
  · intro hunambiguous
    exact ⟨isFaithful_of_unambiguous h hdistinct hunambiguous,
      isStable_of_unambiguous h hhash htime hdistinct hunambiguous⟩

/-! ## Rows of a server -/

inductive SqlCell where
  | text (value : String)
  | number (value : Int)
  deriving DecidableEq, Repr

/-- Cells of texts that are no numbers, and of numbers. -/
def sampleReading : CellReading SqlCell where
  str
    | .text value => value
    | .number value => toString value
  int
    | .text value =>
      .error (.valueError (.message ("invalid literal for int() with base 10: " ++ value)))
    | .number value => .ok value
  truth
    | .text _ => none
    | .number value => some (value != 0)

def sampleRow (cells : List (String × SqlCell)) : SqlRow SqlCell := fun key =>
  (cells.find? (·.1 == key)).map fun cell => some cell.2

/-- A column's row. -/
def sampleColumn (schemaName tableName name : String) (ordinalPosition : Int) : SqlRow SqlCell :=
  sampleRow [("schema_name", .text schemaName), ("table_name", .text tableName),
    ("column_name", .text name), ("ordinal_position", .number ordinalPosition),
    ("data_type", .text "int"), ("is_nullable", .number 0)]

/-- The table `c` of the schema `a.b`. -/
def dottedRows : RowsByQuery SqlCell where
  tables := [sampleRow [("schema_name", .text "a.b"), ("table_name", .text "c")]]
  columns := [sampleColumn "a.b" "c" "id" 1]

/-- A table with its columns out of order, a key and an index. -/
def orderRows : RowsByQuery SqlCell where
  tables := [sampleRow [("schema_name", .text "dbo"), ("table_name", .text "orders")]]
  columns := [sampleColumn "dbo" "orders" "total" 2, sampleColumn "dbo" "orders" "id" 1]
  primaryKeys := [sampleColumn "dbo" "orders" "id" 1]
  indexes := [fun key => if key = "index_name" then some (some (.text "ix_total"))
    else sampleColumn "dbo" "orders" "total" 1 key]
  rowCounts := [sampleRow [("schema_name", .text "dbo"), ("table_name", .text "orders"),
    ("row_count_estimate", .number 7)]]

theorem DistinctOrdinals.filter {rows : List (SqlRow Cell)} (h : DistinctOrdinals reading rows)
    (p : SqlRow Cell → Bool) : DistinctOrdinals reading (rows.filter p) :=
  List.Pairwise.filter p h

/-- Ordinals that are distinct in each answer are so in each of its parts. -/
theorem ordinalsDistinct_of_all {rows : RowsByQuery Cell}
    (hcolumns : DistinctOrdinals reading rows.columns)
    (hkeys : DistinctOrdinals reading rows.primaryKeys)
    (hforeign : DistinctOrdinals reading rows.foreignKeys)
    (hindexes : DistinctOrdinals reading rows.indexes) : OrdinalsDistinct reading rows :=
  ⟨fun _ => hcolumns.filter _, fun _ => hkeys.filter _, fun _ _ => (hforeign.filter _).filter _,
    fun _ _ => (hindexes.filter _).filter _⟩

/-- The schema comes back without what follows its dot. -/
theorem dotted_schema : ¬ ∀ rows snapshot, NamesAreIdentifiers sampleReading rows →
    OrdinalsDistinct sampleReading rows →
    buildSnapshot sampleReading "sha256:9f" "2026-01-01T00:00:00+00:00" rows = .ok snapshot →
    IsFaithful sampleReading rows snapshot ∧
      IsStable sampleReading "sha256:9f" "2026-01-01T00:00:00+00:00" rows snapshot := by
  intro hclaim
  -- all names are identifiers: a dot is allowed in one
  have hidentifiers : ∀ row ∈ dottedRows.all, ∀ key ∈ nameKeys,
      (row.text sampleReading key).toOption.all isSqlIdentifier = true := by
    decide +kernel
  -- yet the dot of the schema is the one at which the reference is split
  have hnames : (buildSnapshot sampleReading "sha256:9f" "2026-01-01T00:00:00+00:00"
      dottedRows).toOption.map (fun snapshot => snapshot.tables.map (·.names)) =
        some [("a", "b.c")] := by
    decide +kernel
  cases hbuild : buildSnapshot sampleReading "sha256:9f" "2026-01-01T00:00:00+00:00"
      dottedRows with
  | error exn =>
    rw [hbuild] at hnames
    cases hnames
  | ok snapshot =>
    rw [hbuild] at hnames
    have htables : snapshot.tables.map (·.names) = [("a", "b.c")] := Option.some.inj hnames
    obtain ⟨hfaithful, -⟩ := hclaim dottedRows snapshot hidentifiers
      (ordinalsDistinct_of_all (List.pairwise_singleton _ _) .nil .nil .nil) hbuild
    have hmem : ("a.b", "c") ∈ snapshot.tables.map (·.names) :=
      (hfaithful.names _).mpr ⟨_, List.mem_singleton_self _, by decide +kernel⟩
    rw [htables] at hmem
    revert hmem
    decide

/-- Undotted names give a faithful snapshot. -/
theorem orders_faithful : ∃ snapshot,
    buildSnapshot sampleReading "sha256:9f" "2026-01-01T00:00:00+00:00" orderRows = .ok snapshot ∧
      IsFaithful sampleReading orderRows snapshot ∧
      IsStable sampleReading "sha256:9f" "2026-01-01T00:00:00+00:00" orderRows snapshot := by
  have hok : (buildSnapshot sampleReading "sha256:9f" "2026-01-01T00:00:00+00:00"
      orderRows).toOption.isSome = true := by
    decide +kernel
  have hordinals : (sampleColumn "dbo" "orders" "total" 2).int sampleReading "ordinal_position" ≠
      (sampleColumn "dbo" "orders" "id" 1).int sampleReading "ordinal_position" := by
    decide +kernel
  have hdistinct : OrdinalsDistinct sampleReading orderRows :=
    ordinalsDistinct_of_all
      (List.pairwise_cons.mpr ⟨fun row hrow => List.mem_singleton.mp hrow ▸ hordinals,
        List.pairwise_singleton _ _⟩)
      (List.pairwise_singleton _ _) .nil (List.pairwise_singleton _ _)
  -- all rows are of one table
  have hnames : ∀ row ∈ orderRows.all,
      row.tableNames sampleReading = .ok ("dbo", "orders") := by
    decide +kernel
  have hown : ∀ rows, (∀ row ∈ rows, row ∈ orderRows.all) →
      OwnRows sampleReading orderRows.tables rows := by
    intro rows hrows tableRow htable row hrow _
    rw [hnames row (hrows row hrow), hnames tableRow (by simp [RowsByQuery.all, htable])]
  have hsingle : ∀ (rows : List (SqlRow SqlCell)) (row : SqlRow SqlCell), rows = [row] →
      ∀ a ∈ rows, ∀ b ∈ rows, a = b := by
    rintro rows row rfl a ha b hb
    rw [List.mem_singleton.mp ha, List.mem_singleton.mp hb]
  have hunambiguous : Unambiguous sampleReading orderRows := by
    refine ⟨?_, hown _ ?_, hown _ ?_, hown _ ?_, hown _ ?_, ?_, ?_, ?_, ?_⟩
    · intro row hrow names hread
      rw [hnames row (by simp [RowsByQuery.all, hrow])] at hread
      cases hread
      decide
    · simp +contextual [RowsByQuery.all]
    · simp +contextual [RowsByQuery.all]
    · simp +contextual [RowsByQuery.all]
    · simp +contextual [RowsByQuery.all]
    · intro row hrow row' hrow' _
      rw [hsingle orderRows.tables _ rfl row hrow row' hrow']
    · intro _ _ row hrow row' hrow' _ _
      rw [hsingle orderRows.rowCounts _ rfl row hrow row' hrow']
    · intro row hrow
      cases hrow
    · intro row hrow _ _ _
      rw [List.mem_singleton.mp hrow]
      exact ⟨false, by decide +kernel⟩
  cases hbuild : buildSnapshot sampleReading "sha256:9f" "2026-01-01T00:00:00+00:00"
      orderRows with
  | error exn =>
    rw [hbuild] at hok
    cases hok
  | ok snapshot => exact ⟨snapshot, rfl, (snapshot_iff hbuild hdistinct).mpr hunambiguous⟩

end Collabio
