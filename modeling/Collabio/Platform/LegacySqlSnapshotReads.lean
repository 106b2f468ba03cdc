import Mathlib.Tactic
import Collabio.Platform.LegacySqlConstraintGroups

/-!
# What a snapshot is made of

Everything the snapshot says is read of single rows, each under the text of its table's names.

* `foreignKeyKind`, `indexKind` — when foreign keys and indexes can be made;
* `SnapshotReads`               — what is read of the rows, and the tables made of it;
* `buildSnapshot_eq_ok`         — the snapshot is these tables.
-/

namespace Collabio

variable {Cell : Type} (reading : CellReading Cell)

/-! ## Foreign keys and indexes -/

/-- The row has an identifier under the key. -/
def SqlRow.HasIdentifier (key : String) (row : SqlRow Cell) : Prop :=
  ∃ name, row.text reading key = .ok name ∧ isSqlIdentifier name = true

variable {reading} {rows ordered : List (SqlRow Cell)}

theorem requireIdentifiers_eq_nil {field text : String} {values : List String} :
    requireIdentifiers field text values = [] ↔ values.all isSqlIdentifier = true := by
  unfold requireIdentifiers
  split
  · simp [*]
  · simp [*]

theorem identifiers_of_mapM {key : String} :
    (∃ names, ordered.mapM (·.text reading key) = .ok names ∧ names.all isSqlIdentifier = true) ↔
      ∀ row ∈ ordered, row.HasIdentifier reading key := by
  constructor
  · rintro ⟨names, hnames, hall⟩ row hrow
    obtain ⟨name, hname, hread⟩ := Except.mem_mapM_of_mem hnames hrow
    exact ⟨name, hread, List.all_eq_true.mp hall name hname⟩
  · intro h
    obtain ⟨names, hnames⟩ := Except.mapM_isOk (f := (·.text reading key)) fun row hrow =>
      (h row hrow).imp fun _ hname => hname.1
    refine ⟨names, hnames, List.all_eq_true.mpr fun name hname => ?_⟩
    obtain ⟨row, hrow, hread⟩ := Except.mem_of_mem_mapM hnames hname
    obtain ⟨name', hread', hidentifier⟩ := h row hrow
    rw [hread] at hread'
    cases hread'
    exact hidentifier

theorem firstRow_eq_ok {first : SqlRow Cell} :
    firstRow ordered = .ok first ↔ first ∈ ordered.head? := by
  cases ordered with
  | nil =>
    constructor
    · intro h
      cases h
    · intro h
      cases h
  | cons row rest =>
    constructor
    · intro h
      cases h
      rfl
    · intro h
      cases h
      rfl

theorem ne_nil_of_mapM_text {key : String} {names : List String} {first : SqlRow Cell}
    (hfirst : first ∈ ordered.head?) (h : ordered.mapM (·.text reading key) = .ok names) :
    names ≠ [] := by
  rintro rfl
  have hlength := Except.length_of_mapM h
  rw [List.length_nil] at hlength
  rw [List.length_eq_zero_iff.mp hlength.symm] at hfirst
  cases hfirst

namespace LegacySqlForeignKeyMetadata

theorem make_eq_ok {fields : LegacySqlForeignKeyMetadataFields}
    {foreignKey : LegacySqlForeignKeyMetadata} : make fields = .ok foreignKey ↔
      foreignKey.toLegacySqlForeignKeyMetadataFields = fields := by
  unfold make
  constructor
  · intro h
    split at h
    · cases h
      rfl
    · cases h
  · rintro rfl
    rw [dif_pos foreignKey.accepted]

theorem errors_eq_nil {fields : LegacySqlForeignKeyMetadataFields} : fields.errors = [] ↔
    isSqlIdentifier fields.name = true ∧
      (fields.columns ≠ [] ∧ fields.columns.all isSqlIdentifier = true) ∧
      isSqlIdentifier fields.referencedSchema = true ∧
      isSqlIdentifier fields.referencedTable = true ∧
      fields.referencedColumns ≠ [] ∧ fields.referencedColumns.all isSqlIdentifier = true := by
  have hlist : ∀ field value,
      LegacySqlForeignKeyMetadataFields.validateColumnList field value = [] ↔
        value ≠ [] ∧ value.all isSqlIdentifier = true := by
    intro field value
    unfold LegacySqlForeignKeyMetadataFields.validateColumnList
    split
    · simp [*]
    · rw [requireIdentifiers_eq_nil]
      simp [*]
  simp only [LegacySqlForeignKeyMetadataFields.errors, List.append_eq_nil_iff, hlist,
    LegacySqlForeignKeyMetadataFields.validateIdentifier, requireFullmatch_eq_nil, and_assoc]

end LegacySqlForeignKeyMetadata

namespace LegacySqlIndexMetadata

theorem make_eq_ok {fields : LegacySqlIndexMetadataFields} {index : LegacySqlIndexMetadata} :
    make fields = .ok index ↔ index.toLegacySqlIndexMetadataFields = fields := by
  unfold make
  constructor
  · intro h
    split at h
    · cases h
      rfl
    · cases h
  · rintro rfl
    rw [dif_pos index.accepted]

theorem errors_eq_nil {fields : LegacySqlIndexMetadataFields} : fields.errors = [] ↔
    isSqlIdentifier fields.name = true ∧
      fields.columns ≠ [] ∧ fields.columns.all isSqlIdentifier = true := by
  rw [LegacySqlIndexMetadataFields.errors, List.append_eq_nil_iff, requireFullmatch_eq_nil,
    LegacySqlIndexMetadataFields.validateColumns]
  split
  · simp [*]
  · rw [requireIdentifiers_eq_nil]
    simp [*]

end LegacySqlIndexMetadata

theorem foreignKeyOfOrdered_eq_ok {name : String} {foreignKey : LegacySqlForeignKeyMetadata} :
    foreignKeyOfOrdered reading name ordered = .ok foreignKey ↔
      foreignKey.name = name ∧ ∃ first ∈ ordered.head?,
        ordered.mapM (·.text reading "column_name") = .ok foreignKey.columns ∧
        first.text reading "referenced_schema" = .ok foreignKey.referencedSchema ∧
        first.text reading "referenced_table" = .ok foreignKey.referencedTable ∧
        ordered.mapM (·.text reading "referenced_column") = .ok foreignKey.referencedColumns := by
  unfold foreignKeyOfOrdered
  simp only [Except.bind_eq_ok, firstRow_eq_ok, LegacySqlForeignKeyMetadata.make_eq_ok]
  constructor
  · rintro ⟨first, hfirst, columns, hcolumns, schema, hschema, table, htable, referenced,
      hreferenced, hfields⟩
    rw [hfields]
    exact ⟨rfl, first, hfirst, hcolumns, hschema, htable, hreferenced⟩
  · rintro ⟨rfl, first, hfirst, hcolumns, hschema, htable, hreferenced⟩
    exact ⟨first, hfirst, _, hcolumns, _, hschema, _, htable, _, hreferenced, rfl⟩

theorem indexOfOrdered_eq_ok {name : String} {index : LegacySqlIndexMetadata} :
    indexOfOrdered reading name ordered = .ok index ↔
      index.name = name ∧ ∃ first ∈ ordered.head?,
        ordered.mapM (·.text reading "column_name") = .ok index.columns ∧
        first.bool reading "is_unique" false = .ok index.unique := by
  unfold indexOfOrdered
  simp only [Except.bind_eq_ok, firstRow_eq_ok, LegacySqlIndexMetadata.make_eq_ok]
  constructor
  · rintro ⟨columns, hcolumns, first, hfirst, unique, hunique, hfields⟩
    rw [hfields]
    exact ⟨rfl, first, hfirst, hcolumns, hunique⟩
  · rintro ⟨rfl, first, hfirst, hcolumns, hunique⟩
    exact ⟨_, hcolumns, first, hfirst, _, hunique, rfl⟩

/-- A foreign key is made of rows that each name two columns; the first names the table that is
referred to. -/
theorem foreignKeyOfOrdered_isOk (name : String) (ordered : List (SqlRow Cell)) :
    (∃ foreignKey, foreignKeyOfOrdered reading name ordered = .ok foreignKey) ↔
      isSqlIdentifier name = true ∧
      (∀ row ∈ ordered, row.HasIdentifier reading "column_name" ∧
        row.HasIdentifier reading "referenced_column") ∧
      ∃ first ∈ ordered.head?, first.HasIdentifier reading "referenced_schema" ∧
        first.HasIdentifier reading "referenced_table" := by
  simp only [foreignKeyOfOrdered_eq_ok]
  constructor
  · rintro ⟨foreignKey, rfl, first, hfirst, hcolumns, hschema, htable, hreferenced⟩
    obtain ⟨hname, ⟨-, hall⟩, hidentifier, hidentifier', -, hall'⟩ :=
      LegacySqlForeignKeyMetadata.errors_eq_nil.mp foreignKey.accepted
    have hboth := identifiers_of_mapM.mp ⟨_, hcolumns, hall⟩
    have hboth' := identifiers_of_mapM.mp ⟨_, hreferenced, hall'⟩
    exact ⟨hname, fun row hrow => ⟨hboth row hrow, hboth' row hrow⟩, first, hfirst,
      ⟨_, hschema, hidentifier⟩, _, htable, hidentifier'⟩
  · rintro ⟨hname, hrows, first, hfirst, ⟨schema, hschema, hidentifier⟩, table, htable,
      hidentifier'⟩
    -- the first row gives the table, and all rows give the columns
    obtain ⟨columns, hcolumns, hall⟩ := identifiers_of_mapM.mpr fun row hrow => (hrows row hrow).1
    obtain ⟨referenced, hreferenced, hall'⟩ :=
      identifiers_of_mapM.mpr fun row hrow => (hrows row hrow).2
    have haccepted : LegacySqlForeignKeyMetadataFields.errors
        { name, columns, referencedSchema := schema, referencedTable := table,
          referencedColumns := referenced } = [] :=
      LegacySqlForeignKeyMetadata.errors_eq_nil.mpr
        ⟨hname, ⟨ne_nil_of_mapM_text hfirst hcolumns, hall⟩, hidentifier, hidentifier',
          ne_nil_of_mapM_text hfirst hreferenced, hall'⟩
    exact ⟨⟨_, haccepted⟩, rfl, first, hfirst, hcolumns, hschema, htable, hreferenced⟩

theorem indexOfOrdered_isOk (name : String) (ordered : List (SqlRow Cell)) :
    (∃ index, indexOfOrdered reading name ordered = .ok index) ↔
      isSqlIdentifier name = true ∧
      (∀ row ∈ ordered, row.HasIdentifier reading "column_name") ∧
      ∃ first ∈ ordered.head?, ∃ unique, first.bool reading "is_unique" false = .ok unique := by
  simp only [indexOfOrdered_eq_ok]
  constructor
  · rintro ⟨index, rfl, first, hfirst, hcolumns, hunique⟩
    obtain ⟨hname, -, hall⟩ := LegacySqlIndexMetadata.errors_eq_nil.mp index.accepted
    exact ⟨hname, identifiers_of_mapM.mp ⟨_, hcolumns, hall⟩, first, hfirst, _, hunique⟩
  · rintro ⟨hname, hrows, first, hfirst, unique, hunique⟩
    obtain ⟨columns, hcolumns, hall⟩ := identifiers_of_mapM.mpr hrows
    have haccepted : LegacySqlIndexMetadataFields.errors { name, columns, unique } = [] :=
      LegacySqlIndexMetadata.errors_eq_nil.mpr
        ⟨hname, ne_nil_of_mapM_text hfirst hcolumns, hall⟩
    exact ⟨⟨_, haccepted⟩, rfl, first, hfirst, hcolumns, hunique⟩

theorem foreignKeyOfOrdered_keeps (name : String) (ordered : List (SqlRow Cell))
    (foreignKey : LegacySqlForeignKeyMetadata)
    (h : foreignKeyOfOrdered reading name ordered = .ok foreignKey) :
    foreignKey.name = name ∧ foreignKey.columns.length = ordered.length := by
  obtain ⟨hname, first, -, hcolumns, -⟩ := foreignKeyOfOrdered_eq_ok.mp h
  exact ⟨hname, Except.length_of_mapM hcolumns⟩

theorem indexOfOrdered_keeps (name : String) (ordered : List (SqlRow Cell))
    (index : LegacySqlIndexMetadata) (h : indexOfOrdered reading name ordered = .ok index) :
    index.name = name ∧ index.columns.length = ordered.length := by
  obtain ⟨hname, first, -, hcolumns, -⟩ := indexOfOrdered_eq_ok.mp h
  exact ⟨hname, Except.length_of_mapM hcolumns⟩

variable (reading)

def foreignKeyKind : ConstraintKind Cell LegacySqlForeignKeyMetadata where
  nameKey := "foreign_key_name"
  ofOrdered := foreignKeyOfOrdered reading
  nameOf := (·.name)
  columnsOf := (·.columns)
  NameUsable name := isSqlIdentifier name = true
  RowUsable row := row.HasIdentifier reading "column_name" ∧
    row.HasIdentifier reading "referenced_column"
  FirstUsable row := row.HasIdentifier reading "referenced_schema" ∧
    row.HasIdentifier reading "referenced_table"
  isOk := foreignKeyOfOrdered_isOk
  keeps := foreignKeyOfOrdered_keeps

def indexKind : ConstraintKind Cell LegacySqlIndexMetadata where
  nameKey := "index_name"
  ofOrdered := indexOfOrdered reading
  nameOf := (·.name)
  columnsOf := (·.columns)
  NameUsable name := isSqlIdentifier name = true
  RowUsable row := row.HasIdentifier reading "column_name"
  FirstUsable row := ∃ unique, row.bool reading "is_unique" false = .ok unique
  isOk := indexOfOrdered_isOk
  keeps := indexOfOrdered_keeps

/-! ## What is read -/

/-- What is read of the rows, each under the text of its table. -/
structure SnapshotReads where
  kinds       : List (String × LegacySqlRelationKind)
  columns     : List (String × LegacySqlColumnMetadata)
  keyColumns  : List (String × Int × String)
  foreignKeys : List (String × LegacySqlForeignKeyMetadata)
  indexes     : List (String × LegacySqlIndexMetadata)
  rowCounts   : List (String × Int)

structure ReadsOf (rows : RowsByQuery Cell) (reads : SnapshotReads) : Prop where
  kinds       : rows.tables.mapM (readTableKind reading) = .ok reads.kinds
  columns     : rows.columns.mapM (readColumn reading) = .ok reads.columns
  keyColumns  : rows.primaryKeys.mapM (readKeyColumn reading) = .ok reads.keyColumns
  foreignKeys : readConstraints reading (foreignKeyKind reading).nameKey
    (foreignKeyKind reading).ofOrdered rows.foreignKeys = .ok reads.foreignKeys
  indexes     : readConstraints reading (indexKind reading).nameKey (indexKind reading).ofOrdered
    rows.indexes = .ok reads.indexes
  rowCounts   : rows.rowCounts.mapM (readRowCount reading) = .ok reads.rowCounts

namespace SnapshotReads

def groups (reads : SnapshotReads) : SnapshotGroups where
  columns := (Dict.group reads.columns).mapValues (sortBy (·.ordinalPosition))
  primaryKeys := (Dict.group reads.keyColumns).mapValues primaryKeyOf
  foreignKeys := Dict.group reads.foreignKeys
  indexes := Dict.group reads.indexes
  rowCounts := Dict.ofPairs reads.rowCounts

/-- The tables' texts with their kinds, sorted. -/
def entries (reads : SnapshotReads) : List (String × LegacySqlRelationKind) :=
  (Dict.ofPairs reads.kinds).sorted.items

/-- The table of one text. -/
def tableFields (reads : SnapshotReads) (entry : String × LegacySqlRelationKind) :
    LegacySqlTableMetadataFields where
  schemaName := (splitRef entry.1).1
  tableName := (splitRef entry.1).2
  relationKind := entry.2
  rowCountEstimate := (Dict.valuesOf entry.1 reads.rowCounts).getLast?
  columns := sortBy (·.ordinalPosition) (Dict.valuesOf entry.1 reads.columns)
  primaryKeyColumns := primaryKeyOf (Dict.valuesOf entry.1 reads.keyColumns)
  foreignKeys := Dict.valuesOf entry.1 reads.foreignKeys
  indexes := Dict.valuesOf entry.1 reads.indexes

end SnapshotReads

variable {reading} {reads : SnapshotReads}

/-- What a group's values become, also where there is no group. -/
theorem getD_mapValues_group {V W : Type*} {f : List V → List W} (hnil : f [] = [])
    (pairs : List (String × V)) (tableRef : String) :
    (((Dict.group pairs).mapValues f).get? tableRef).getD [] =
      f (Dict.valuesOf tableRef pairs) := by
  rw [Dict.get?_mapValues, ← Dict.getD_group]
  cases (Dict.group pairs).get? tableRef with
  | none => exact hnil.symm
  | some values => rfl

theorem LegacySqlTableMetadata.make_eq_ok {fields : LegacySqlTableMetadataFields}
    {table : LegacySqlTableMetadata} : LegacySqlTableMetadata.make fields = .ok table ↔
      table.toLegacySqlTableMetadataFields = fields := by
  unfold LegacySqlTableMetadata.make
  constructor
  · intro h
    split at h
    · cases h
      rfl
    · cases h
  · rintro rfl
    split
    · rfl
    · rename_i exn hexn
      rw [table.accepted] at hexn
      cases hexn

theorem LegacySqlTableMetadata.columns_accepted (table : LegacySqlTableMetadata) :
    table.columns ≠ [] ∧ (table.columns.map (·.ordinalPosition)).Nodup := by
  have haccepted := LegacySqlTableMetadataFields.errors_of_validate table.accepted
  simp only [LegacySqlTableMetadataFields.errors, List.append_eq_nil_iff] at haccepted
  have hcolumns := haccepted.1.2
  unfold LegacySqlTableMetadataFields.requireColumns at hcolumns
  by_cases hempty : table.columns = []
  · simp [hempty] at hcolumns
  · by_cases hordinals : (table.columns.map (·.ordinalPosition)).Nodup
    · exact ⟨hempty, hordinals⟩
    · simp [hempty, hordinals] at hcolumns

theorem buildTable_eq_ok {entry : String × LegacySqlRelationKind} {table : LegacySqlTableMetadata} :
    buildTable reads.groups entry = .ok table ↔
      table.toLegacySqlTableMetadataFields = reads.tableFields entry := by
  obtain ⟨tableRef, relationKind⟩ := entry
  -- the groups are looked up under the table's text
  have hcolumns : (reads.groups.columns.get? tableRef).getD [] =
      sortBy (·.ordinalPosition) (Dict.valuesOf tableRef reads.columns) :=
    getD_mapValues_group (sortBy_nil _) _ _
  have hkey : (reads.groups.primaryKeys.get? tableRef).getD [] =
      primaryKeyOf (Dict.valuesOf tableRef reads.keyColumns) :=
    getD_mapValues_group (by rw [primaryKeyOf, sortBy_nil, List.map_nil]) _ _
  have hforeign : (reads.groups.foreignKeys.get? tableRef).getD [] =
      Dict.valuesOf tableRef reads.foreignKeys := Dict.getD_group _ _
  have hindexes : (reads.groups.indexes.get? tableRef).getD [] =
      Dict.valuesOf tableRef reads.indexes := Dict.getD_group _ _
  have hcount : reads.groups.rowCounts.get? tableRef =
      (Dict.valuesOf tableRef reads.rowCounts).getLast? := Dict.get?_ofPairs _ _
  unfold buildTable
  dsimp only
  rw [hcolumns, hkey, hforeign, hindexes, hcount]
  by_cases hempty : sortBy (·.ordinalPosition) (Dict.valuesOf tableRef reads.columns) = []
  · rw [if_pos hempty]
    -- a table without columns is refused, and no accepted table is without
    constructor
    · intro h
      cases h
    · intro h
      have hnone : table.columns = [] := by
        rw [h]
        exact hempty
      exact absurd hnone table.columns_accepted.1
  · rw [if_neg hempty, LegacySqlTableMetadata.make_eq_ok]
    rfl

theorem LegacySqlSchemaSnapshot.make_eq_ok {fields : LegacySqlSchemaSnapshotFields}
    {snapshot : LegacySqlSchemaSnapshot} : LegacySqlSchemaSnapshot.make fields = .ok snapshot ↔
      snapshot.toLegacySqlSchemaSnapshotFields = fields := by
  unfold LegacySqlSchemaSnapshot.make
  constructor
  · intro h
    split at h
    · cases h
      rfl
    · cases h
  · rintro rfl
    rw [dif_pos snapshot.accepted]

variable {rows : RowsByQuery Cell} {connectionFingerprintHash inspectedAtUtc : String}
  {snapshot : LegacySqlSchemaSnapshot}

/-- The snapshot is the tables made of what is read. -/
theorem buildSnapshot_eq_ok :
    buildSnapshot reading connectionFingerprintHash inspectedAtUtc rows = .ok snapshot ↔
      ∃ reads, ReadsOf reading rows reads ∧
        snapshot.connectionFingerprintHash = connectionFingerprintHash ∧
        snapshot.inspectedAtUtc = inspectedAtUtc ∧
        snapshot.tables.map (·.toLegacySqlTableMetadataFields) =
          reads.entries.map reads.tableFields := by
  -- the loop makes one table of each entry
  have hfields : ∀ {entries : List (String × LegacySqlRelationKind)}
      {tables : List LegacySqlTableMetadata} (reads : SnapshotReads),
      entries.mapM (buildTable reads.groups) = .ok tables ↔
        tables.map (·.toLegacySqlTableMetadataFields) = entries.map reads.tableFields := by
    intro entries tables reads
    rw [Except.mapM_eq_ok, ← List.forall₂_eq_eq_eq, List.forall₂_map_left_iff,
      List.forall₂_map_right_iff]
    simp only [buildTable_eq_ok]
    constructor
    · intro h
      exact h.flip
    · intro h
      exact h.flip
  unfold buildSnapshot tableKinds columnsByTable primaryKeysByTable foreignKeysByTable
    indexesByTable rowCountsByTable
  simp only [Except.bind_eq_ok, pure, Except.pure, Except.ok.injEq,
    LegacySqlSchemaSnapshot.make_eq_ok]
  constructor
  · -- each group is made of what was read, and the tables of the groups
    rintro ⟨_, ⟨kinds, hkinds, rfl⟩, _, ⟨columns, hcolumns, rfl⟩, _, ⟨keyColumns, hkey, rfl⟩,
      _, ⟨foreignKeys, hforeign, rfl⟩, _, ⟨indexes, hindexes, rfl⟩, _, ⟨rowCounts, hcounts, rfl⟩,
      tables, htables, hsnapshot⟩
    refine ⟨⟨kinds, columns, keyColumns, foreignKeys, indexes, rowCounts⟩,
      ⟨hkinds, hcolumns, hkey, hforeign, hindexes, hcounts⟩, ?_⟩
    rw [hsnapshot]
    exact ⟨rfl, rfl, (hfields _).mp htables⟩
  · rintro ⟨reads, hreads, rfl, rfl, htables⟩
    exact ⟨_, ⟨_, hreads.kinds, rfl⟩, _, ⟨_, hreads.columns, rfl⟩, _, ⟨_, hreads.keyColumns, rfl⟩,
      _, ⟨_, hreads.foreignKeys, rfl⟩, _, ⟨_, hreads.indexes, rfl⟩, _, ⟨_, hreads.rowCounts, rfl⟩,
      _, (hfields reads).mpr htables, rfl⟩

end Collabio
