import Mathlib.Tactic
import Collabio.Platform.LegacySqlSnapshotReads

/-!
# Snapshots that are faithful

A snapshot says about a table what the rows of this table say, in the order of their ordinals, and
does not depend on the order in which the rows come. The texts of two tables may coincide, since a
schema's name may contain a dot.

* `IsFaithful`, `IsStable` — what a snapshot should be;
* `Unambiguous`            — the rows of no two tables meet, and none disagree;
* `splitRef_refOf`         — which names their text gives back.
-/

namespace Collabio

variable {Cell : Type} (reading : CellReading Cell)

/-! ## Names and their text -/

namespace SqlRow

/-- The row is about the table of these names. -/
def isAbout (names : String × String) (row : SqlRow Cell) : Bool :=
  (row.tableNames reading).toOption = some names

/-- The row stands under this text. -/
def isUnder (tableRef : String) (row : SqlRow Cell) : Bool :=
  (row.tableRef reading).toOption = some tableRef

/-- The row belongs to the key or index of this name. -/
def isNamed (nameKey name : String) (row : SqlRow Cell) : Bool :=
  (row.text reading nameKey).toOption = some name

end SqlRow

theorem decide_toOption_eq_some {ε α : Type} [DecidableEq α] {x : Except ε α} {a : α} :
    decide (x.toOption = some a) = true ↔ x = .ok a := by
  rw [decide_eq_true_eq]
  cases x with
  | error exn =>
    constructor
    · intro h
      cases h
    · intro h
      cases h
  | ok value =>
    constructor
    · intro h
      cases h
      rfl
    · intro h
      cases h
      rfl

namespace SqlRow

variable {reading} {row : SqlRow Cell}

theorem isAbout_iff {names : String × String} :
    row.isAbout reading names = true ↔ row.tableNames reading = .ok names :=
  decide_toOption_eq_some

theorem isUnder_iff {tableRef : String} :
    row.isUnder reading tableRef = true ↔ row.tableRef reading = .ok tableRef :=
  decide_toOption_eq_some

theorem isNamed_iff {nameKey name : String} :
    row.isNamed reading nameKey name = true ↔ row.text reading nameKey = .ok name :=
  decide_toOption_eq_some

theorem tableRef_eq_ok {tableRef : String} : row.tableRef reading = .ok tableRef ↔
    ∃ names, row.tableNames reading = .ok names ∧ refOf names = tableRef := by
  unfold SqlRow.tableRef
  cases row.tableNames reading with
  | error exn =>
    constructor
    · intro h
      cases h
    · rintro ⟨names, h, -⟩
      cases h
  | ok names =>
    constructor
    · intro h
      cases h
      exact ⟨names, rfl, rfl⟩
    · rintro ⟨names', h, rfl⟩
      cases h
      rfl

theorem tableRef_of_names {names : String × String} (h : row.tableNames reading = .ok names) :
    row.tableRef reading = .ok (refOf names) := tableRef_eq_ok.mpr ⟨names, h, rfl⟩

theorem isUnder_of_isAbout {names : String × String} (h : row.isAbout reading names = true) :
    row.isUnder reading (refOf names) = true :=
  isUnder_iff.mpr (tableRef_of_names (isAbout_iff.mp h))

theorem toList_refOf (names : String × String) :
    (refOf names).toList = names.1.toList ++ '.' :: names.2.toList := by
  rw [refOf, String.toList_append, String.toList_append, List.append_assoc]
  rfl

end SqlRow

theorem splitRef_eq (tableRef : String) : splitRef tableRef =
    (String.ofList (tableRef.toList.takeWhile (· != '.')),
      String.ofList (tableRef.toList.dropWhile (· != '.')).tail) := by
  unfold splitRef
  rw [List.span_eq_takeWhile_dropWhile]

/-- The schema that is split off has no dot. -/
theorem undotted_splitRef (tableRef : String) : '.' ∉ (splitRef tableRef).1.toList := by
  rw [splitRef_eq, String.toList_ofList]
  intro h
  simpa using List.mem_takeWhile_imp h

/-- The text of an undotted schema and a table is split into these. -/
theorem splitRef_refOf {names : String × String} (h : '.' ∉ names.1.toList) :
    splitRef (SqlRow.refOf names) = names := by
  have hall : ∀ c ∈ names.1.toList, (c != '.') = true := by
    intro c hc
    rw [bne_iff_ne]
    rintro rfl
    exact h hc
  rw [splitRef_eq, SqlRow.toList_refOf, List.takeWhile_append_of_pos hall,
    List.dropWhile_append_of_pos hall]
  simp

/-- What is split is the text of its parts. -/
theorem refOf_splitRef (names : String × String) :
    SqlRow.refOf (splitRef (SqlRow.refOf names)) = SqlRow.refOf names := by
  have hdot : '.' ∈ (SqlRow.refOf names).toList := by
    rw [SqlRow.toList_refOf]
    simp
  rw [← String.toList_inj, SqlRow.toList_refOf, splitRef_eq, String.toList_ofList,
    String.toList_ofList]
  generalize (SqlRow.refOf names).toList = text at hdot
  induction text with
  | nil => cases hdot
  | cons c rest ih =>
    by_cases hc : c = '.'
    · subst hc
      simp
    · rcases List.mem_cons.mp hdot with rfl | hrest
      · exact absurd rfl hc
      · rw [List.takeWhile_cons_of_pos (by simpa using hc),
          List.dropWhile_cons_of_pos (by simpa using hc), List.cons_append, ih hrest]

/-! ## What a snapshot should be -/

/-- The two names of a table. -/
def LegacySqlTableMetadataFields.names (table : LegacySqlTableMetadataFields) : String × String :=
  (table.schemaName, table.tableName)

/-- One constraint for each name that the rows give, made of its rows by rising ordinals. -/
def ConstraintKind.MadeOf {C : Type} (kind : ConstraintKind Cell C) (rows : List (SqlRow Cell))
    (constraints : List C) : Prop :=
  ∃ names : List String, names.Nodup ∧
    (∀ name, name ∈ names ↔ ∃ row ∈ rows, row.isNamed reading kind.nameKey name = true) ∧
    List.Forall₂ (fun name constraint => ∃ ordered,
        InOrder reading (rows.filter (·.isNamed reading kind.nameKey name)) ordered ∧
        kind.ofOrdered name ordered = .ok constraint) names constraints

/-- The table has what its own rows say, and nothing of another's. -/
structure TableIsFaithful (rows : RowsByQuery Cell) (table : LegacySqlTableMetadata) : Prop where
  columns     : ∃ ordered columns,
    InOrder reading (rows.columns.filter (·.isAbout reading table.names)) ordered ∧
      ordered.mapM (readColumn reading) = .ok columns ∧ table.columns = columns.map Prod.snd
  primaryKey  : ∃ ordered,
    InOrder reading (rows.primaryKeys.filter (·.isAbout reading table.names)) ordered ∧
      ordered.mapM (·.text reading "column_name") = .ok table.primaryKeyColumns
  foreignKeys : (foreignKeyKind reading).MadeOf reading
    (rows.foreignKeys.filter (·.isAbout reading table.names)) table.foreignKeys
  indexes     : (indexKind reading).MadeOf reading
    (rows.indexes.filter (·.isAbout reading table.names)) table.indexes

/-- One table for each pair of names, with what its rows say. -/
structure IsFaithful (rows : RowsByQuery Cell) (snapshot : LegacySqlSchemaSnapshot) : Prop where
  once   : (snapshot.tables.map (·.names)).Nodup
  names  : ∀ names, names ∈ snapshot.tables.map (·.names) ↔
    ∃ row ∈ rows.tables, row.isAbout reading names = true
  tables : ∀ table ∈ snapshot.tables, TableIsFaithful reading rows table

/-- The same table, up to the order of foreign keys and indexes. -/
structure LegacySqlTableMetadata.SameUpToOrder (table table' : LegacySqlTableMetadata) : Prop where
  names       : table.names = table'.names
  kind        : table.relationKind = table'.relationKind
  rowCount    : table.rowCountEstimate = table'.rowCountEstimate
  columns     : table.columns = table'.columns
  primaryKey  : table.primaryKeyColumns = table'.primaryKeyColumns
  foreignKeys : table.foreignKeys.Perm table'.foreignKeys
  indexes     : table.indexes.Perm table'.indexes
  constraints : table.constraints = table'.constraints

structure LegacySqlSchemaSnapshot.SameUpToOrder (snapshot snapshot' : LegacySqlSchemaSnapshot) :
    Prop where
  hash   : snapshot.connectionFingerprintHash = snapshot'.connectionFingerprintHash
  time   : snapshot.inspectedAtUtc = snapshot'.inspectedAtUtc
  tables : List.Forall₂ LegacySqlTableMetadata.SameUpToOrder snapshot.tables snapshot'.tables

/-- The same answers, with the rows in another order. -/
structure RowsByQuery.Perm (rows rows' : RowsByQuery Cell) : Prop where
  tables      : rows.tables.Perm rows'.tables
  columns     : rows.columns.Perm rows'.columns
  primaryKeys : rows.primaryKeys.Perm rows'.primaryKeys
  foreignKeys : rows.foreignKeys.Perm rows'.foreignKeys
  indexes     : rows.indexes.Perm rows'.indexes
  rowCounts   : rows.rowCounts.Perm rows'.rowCounts

/-- Rows in another order build the same snapshot. -/
def IsStable (connectionFingerprintHash inspectedAtUtc : String) (rows : RowsByQuery Cell)
    (snapshot : LegacySqlSchemaSnapshot) : Prop :=
  ∀ rows', rows.Perm rows' → ∃ snapshot',
    buildSnapshot reading connectionFingerprintHash inspectedAtUtc rows' = .ok snapshot' ∧
      snapshot.SameUpToOrder snapshot'

/-- Ordinals are distinct per table, or per key or index. -/
structure OrdinalsDistinct (rows : RowsByQuery Cell) : Prop where
  columns     : ∀ names, DistinctOrdinals reading (rows.columns.filter (·.isAbout reading names))
  primaryKeys : ∀ names,
    DistinctOrdinals reading (rows.primaryKeys.filter (·.isAbout reading names))
  foreignKeys : ∀ names name, DistinctOrdinals reading
    ((rows.foreignKeys.filter (·.isAbout reading names)).filter
      (·.isNamed reading "foreign_key_name" name))
  indexes     : ∀ names name, DistinctOrdinals reading
    ((rows.indexes.filter (·.isAbout reading names)).filter (·.isNamed reading "index_name" name))

def RowsByQuery.all (rows : RowsByQuery Cell) : List (SqlRow Cell) :=
  rows.tables ++ rows.columns ++ rows.primaryKeys ++ rows.foreignKeys ++ rows.indexes ++
    rows.rowCounts

/-- The keys under which names stand. -/
def nameKeys : List String :=
  ["schema_name", "table_name", "column_name", "foreign_key_name", "index_name",
    "referenced_schema", "referenced_table", "referenced_column"]

/-- All names are identifiers. -/
def NamesAreIdentifiers (rows : RowsByQuery Cell) : Prop :=
  ∀ row ∈ rows.all, ∀ key ∈ nameKeys,
    (row.text reading key).toOption.all isSqlIdentifier = true

/-- Rows under the text of one of the tables are about this table. -/
def OwnRows (tables rows : List (SqlRow Cell)) : Prop :=
  ∀ tableRow ∈ tables, ∀ row ∈ rows, row.tableRef reading = tableRow.tableRef reading →
    row.tableNames reading = tableRow.tableNames reading

/-- The rows of no two tables meet, and rows that say the same thing do not disagree. -/
structure Unambiguous (rows : RowsByQuery Cell) : Prop where
  undotted    : ∀ row ∈ rows.tables, ∀ names, row.tableNames reading = .ok names →
    '.' ∉ names.1.toList
  columns     : OwnRows reading rows.tables rows.columns
  primaryKeys : OwnRows reading rows.tables rows.primaryKeys
  foreignKeys : OwnRows reading rows.tables rows.foreignKeys
  indexes     : OwnRows reading rows.tables rows.indexes
  kinds       : ∀ row ∈ rows.tables, ∀ row' ∈ rows.tables,
    row.tableRef reading = row'.tableRef reading →
      readTableKind reading row = readTableKind reading row'
  rowCounts   : ∀ tableRow ∈ rows.tables, ∀ row ∈ rows.rowCounts, ∀ row' ∈ rows.rowCounts,
    row.tableRef reading = tableRow.tableRef reading →
      row'.tableRef reading = tableRow.tableRef reading →
        readRowCount reading row = readRowCount reading row'
  firstOfKeys    : (foreignKeyKind reading).FirstRowsUsable reading rows.foreignKeys
  firstOfIndexes : (indexKind reading).FirstRowsUsable reading rows.indexes

end Collabio
