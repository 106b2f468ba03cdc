import Mathlib.Tactic
import Collabio.KnowledgeBase.Models

/-!
# Schema snapshots of a legacy database

The metadata of tables, each with the checks its model makes. A name may contain a dot.

* `isSqlIdentifier`         — what a name may be;
* `LegacySqlTableMetadata`  — a table, whose keys and indexes name columns it has;
* `LegacySqlSchemaSnapshot` — tables whose refs differ, also in lower case.
-/

namespace Collabio

/-! ## Identifiers -/

def isSqlIdentifierStart (c : Char) : Bool := c.isAlpha || c == '_'

def isSqlIdentifierChar (c : Char) : Bool :=
  c.isAlphanum || c == '_' || c == '@' || c == '$' || c == '#' || c == '.' || c == '-'

/-- `IDENTIFIER_PATTERN.fullmatch`. -/
def isSqlIdentifier (value : String) : Bool :=
  value.toList.head?.any isSqlIdentifierStart && value.toList.tail.all isSqlIdentifierChar

theorem isSqlIdentifierChar_of_start {c : Char} (h : isSqlIdentifierStart c = true) :
    isSqlIdentifierChar c = true := by
  rw [isSqlIdentifierStart, Bool.or_eq_true] at h
  rw [isSqlIdentifierChar]
  rcases h with h | h
  · simp [Char.isAlphanum, h]
  · simp [h]

theorem isSqlIdentifierChar_of_mem {value : String} (h : isSqlIdentifier value = true) {c : Char}
    (hc : c ∈ value.toList) : isSqlIdentifierChar c = true := by
  rw [isSqlIdentifier, Bool.and_eq_true, List.all_eq_true] at h
  obtain ⟨hstart, hrest⟩ := h
  cases htext : value.toList with
  | nil => simp [htext] at hc
  | cons first rest =>
    rw [htext] at hstart hrest hc
    rcases List.mem_cons.mp hc with rfl | hc
    · exact isSqlIdentifierChar_of_start (by simpa using hstart)
    · exact hrest c hc

/-! ## Bounds -/

/-- `Field(ge=least)`. -/
def requireIntAtLeast (field : String) (least value : Int) : List FieldError :=
  if least ≤ value then []
  else [⟨field, .message ("Input should be greater than or equal to " ++ toString least)⟩]

@[simp] theorem requireIntAtLeast_eq_nil {field : String} {least value : Int} :
    requireIntAtLeast field least value = [] ↔ least ≤ value := by
  unfold requireIntAtLeast
  split <;> simp_all

/-- Every name is an identifier. -/
def requireIdentifiers (field text : String) (values : List String) : List FieldError :=
  if values.all isSqlIdentifier then [] else [⟨field, .message text⟩]

/-! ## Kinds -/

inductive LegacySqlRelationKind where
  | table
  | view
  deriving DecidableEq, Repr

def LegacySqlRelationKind.value : LegacySqlRelationKind → String
  | .table => "table"
  | .view => "view"

inductive LegacySqlConstraintKind where
  | check
  | unique
  | default
  | other
  deriving DecidableEq, Repr

def LegacySqlConstraintKind.value : LegacySqlConstraintKind → String
  | .check => "check"
  | .unique => "unique"
  | .default => "default"
  | .other => "other"

/-! ## Columns -/

structure LegacySqlColumnMetadataFields where
  name             : String
  ordinalPosition  : Int
  dataType         : String
  nullable         : Bool
  maxLength        : Option Int := none
  numericPrecision : Option Int := none
  numericScale     : Option Int := none
  isIdentity       : Bool := false
  defaultPresent   : Bool := false
  deriving DecidableEq, Repr

/-- What a data type must not contain. Only the first `i` of `insert` is a letter that the
lower case of a letter outside ASCII contains, with a dot behind it. -/
def sqlStatementMarkers : List String := ["select ", "insert ", "update ", "delete ", " from "]

def validateDataType (value : String) : List FieldError :=
  if Text.strip value = "" then [⟨"data_type", .message "data_type must not be empty"⟩]
  else if sqlStatementMarkers.any fun marker => marker.toList <:+: value.toLower.toList then
    [⟨"data_type", .message "data_type must not contain SQL statements"⟩]
  else []

namespace LegacySqlColumnMetadataFields

def errors (column : LegacySqlColumnMetadataFields) : List FieldError :=
  requireFullmatch isSqlIdentifier "column name must be metadata identifier only" "name"
      column.name ++
    requireIntAtLeast "ordinal_position" 1 column.ordinalPosition ++
    validateDataType column.dataType ++
    requireOptional (requireIntAtLeast "max_length" 0) column.maxLength ++
    requireOptional (requireIntAtLeast "numeric_precision" 0) column.numericPrecision ++
    requireOptional (requireIntAtLeast "numeric_scale" 0) column.numericScale

end LegacySqlColumnMetadataFields

structure LegacySqlColumnMetadata extends LegacySqlColumnMetadataFields where
  accepted : toLegacySqlColumnMetadataFields.errors = []

/-! ## Keys, indexes and constraints -/

structure LegacySqlForeignKeyMetadataFields where
  name              : String
  columns           : List String
  referencedSchema  : String
  referencedTable   : String
  referencedColumns : List String
  deriving DecidableEq, Repr

namespace LegacySqlForeignKeyMetadataFields

def validateIdentifier : (field value : String) → List FieldError :=
  requireFullmatch isSqlIdentifier "foreign key metadata must use identifiers only"

def validateColumnList (field : String) (value : List String) : List FieldError :=
  if value = [] then [⟨field, .message "foreign key columns must not be empty"⟩]
  else requireIdentifiers field "foreign key columns must be identifiers only" value

def errors (foreignKey : LegacySqlForeignKeyMetadataFields) : List FieldError :=
  validateIdentifier "name" foreignKey.name ++
    validateColumnList "columns" foreignKey.columns ++
    validateIdentifier "referenced_schema" foreignKey.referencedSchema ++
    validateIdentifier "referenced_table" foreignKey.referencedTable ++
    validateColumnList "referenced_columns" foreignKey.referencedColumns

end LegacySqlForeignKeyMetadataFields

structure LegacySqlForeignKeyMetadata extends LegacySqlForeignKeyMetadataFields where
  accepted : toLegacySqlForeignKeyMetadataFields.errors = []

structure LegacySqlIndexMetadataFields where
  name    : String
  columns : List String
  unique  : Bool := false
  deriving DecidableEq, Repr

namespace LegacySqlIndexMetadataFields

def validateColumns (value : List String) : List FieldError :=
  if value = [] then [⟨"columns", .message "index columns must not be empty"⟩]
  else requireIdentifiers "columns" "index columns must be identifiers only" value

def errors (index : LegacySqlIndexMetadataFields) : List FieldError :=
  requireFullmatch isSqlIdentifier "index name must be metadata identifier only" "name"
      index.name ++
    validateColumns index.columns

end LegacySqlIndexMetadataFields

structure LegacySqlIndexMetadata extends LegacySqlIndexMetadataFields where
  accepted : toLegacySqlIndexMetadataFields.errors = []

structure LegacySqlConstraintMetadataFields where
  name    : String
  kind    : LegacySqlConstraintKind
  columns : List String := []
  deriving DecidableEq, Repr

def LegacySqlConstraintMetadataFields.errors (constraint : LegacySqlConstraintMetadataFields) :
    List FieldError :=
  requireFullmatch isSqlIdentifier "constraint name must be metadata identifier only" "name"
      constraint.name ++
    requireIdentifiers "columns" "constraint columns must be identifiers only" constraint.columns

structure LegacySqlConstraintMetadata extends LegacySqlConstraintMetadataFields where
  accepted : toLegacySqlConstraintMetadataFields.errors = []

/-! ## Tables -/

structure LegacySqlTableMetadataFields where
  schemaName        : String
  tableName         : String
  relationKind      : LegacySqlRelationKind := .table
  rowCountEstimate  : Option Int := none
  columns           : List LegacySqlColumnMetadata
  primaryKeyColumns : List String := []
  foreignKeys       : List LegacySqlForeignKeyMetadata := []
  indexes           : List LegacySqlIndexMetadata := []
  constraints       : List LegacySqlConstraintMetadata := []

namespace LegacySqlTableMetadataFields

def tableRef (table : LegacySqlTableMetadataFields) : String :=
  table.schemaName ++ "." ++ table.tableName

def validateIdentifier : (field value : String) → List FieldError :=
  requireFullmatch isSqlIdentifier "table metadata must use identifiers only"

/-- The names are identifiers, whose letters are ASCII. -/
def requireColumns (value : List LegacySqlColumnMetadata) : List FieldError :=
  if value = [] then
    [⟨"columns", .message "table metadata requires at least one column"⟩]
  else if ¬ (value.map (·.ordinalPosition)).Nodup then
    [⟨"columns", .message "column ordinal positions must be unique"⟩]
  else if ¬ (value.map (·.name.toLower)).Nodup then
    [⟨"columns", .message "column names must be unique per table"⟩]
  else []

def errors (table : LegacySqlTableMetadataFields) : List FieldError :=
  validateIdentifier "schema_name" table.schemaName ++
    validateIdentifier "table_name" table.tableName ++
    requireOptional (requireIntAtLeast "row_count_estimate" 0) table.rowCountEstimate ++
    requireColumns table.columns ++
    requireIdentifiers "primary_key_columns" "primary key columns must be identifiers only"
      table.primaryKeyColumns

/-- Are all these names of columns? -/
def hasColumns (table : LegacySqlTableMetadataFields) (names : List String) : Bool :=
  names.all fun name => table.columns.any fun column => column.name == name

/-- `require_referenced_columns_exist`. -/
def requireReferencedColumnsExist (table : LegacySqlTableMetadataFields) : Except Exn Unit := do
  let model := "LegacySqlTableMetadata"
  requireModel model (table.hasColumns table.primaryKeyColumns = true)
    "primary key columns must exist in table columns"
  requireModel model (table.foreignKeys.all fun key => table.hasColumns key.columns)
    "foreign key columns must exist in table columns"
  requireModel model (table.indexes.all fun index => table.hasColumns index.columns)
    "index columns must exist in table columns"
  requireModel model (table.constraints.all fun constraint => table.hasColumns constraint.columns)
    "constraint columns must exist in table columns"

def validate (table : LegacySqlTableMetadataFields) : Except Exn Unit := do
  let table ← accept "LegacySqlTableMetadata" table.errors table
  table.requireReferencedColumnsExist

/-- What an accepted table's own fields pass. -/
theorem errors_of_validate {table : LegacySqlTableMetadataFields} (h : table.validate = .ok ()) :
    table.errors = [] := by
  unfold validate at h
  obtain ⟨fields, haccept, -⟩ := Except.bind_eq_ok.mp h
  exact (accept_eq_ok.mp haccept).1

theorem identifiers_of_errors {table : LegacySqlTableMetadataFields} (h : table.errors = []) :
    isSqlIdentifier table.schemaName = true ∧ isSqlIdentifier table.tableName = true := by
  simp only [errors, validateIdentifier, List.append_eq_nil_iff, requireFullmatch_eq_nil] at h
  exact ⟨h.1.1.1.1, h.1.1.1.2⟩

end LegacySqlTableMetadataFields

structure LegacySqlTableMetadata extends LegacySqlTableMetadataFields where
  accepted : toLegacySqlTableMetadataFields.validate = .ok ()

/-! ## Snapshots -/

structure LegacySqlSchemaSnapshotFields where
  connectionFingerprintHash : String
  /-- The ISO text of the date that the JSON form shows. -/
  inspectedAtUtc            : String
  tables                    : List LegacySqlTableMetadata

namespace LegacySqlSchemaSnapshotFields

def requireUniqueTables (value : List LegacySqlTableMetadata) : List FieldError :=
  if value = [] then
    [⟨"tables", .message "schema snapshot requires at least one table"⟩]
  else if ¬ (value.map (·.tableRef.toLower)).Nodup then
    [⟨"tables", .message "table refs must be unique"⟩]
  else []

theorem requireUniqueTables_eq_nil {value : List LegacySqlTableMetadata} :
    requireUniqueTables value = [] ↔ value ≠ [] ∧ (value.map (·.tableRef.toLower)).Nodup := by
  unfold requireUniqueTables
  by_cases hempty : value = []
  · simp [hempty]
  · by_cases hunique : (value.map (·.tableRef.toLower)).Nodup <;> simp [hempty, hunique]

def errors (snapshot : LegacySqlSchemaSnapshotFields) : List FieldError :=
  requireFullmatch isKbRef "connection_fingerprint_hash must be namespaced"
      "connection_fingerprint_hash" snapshot.connectionFingerprintHash ++
    requireUniqueTables snapshot.tables

end LegacySqlSchemaSnapshotFields

structure LegacySqlSchemaSnapshot extends LegacySqlSchemaSnapshotFields where
  accepted : toLegacySqlSchemaSnapshotFields.errors = []

namespace LegacySqlSchemaSnapshot

theorem unique_tables (snapshot : LegacySqlSchemaSnapshot) :
    snapshot.tables ≠ [] ∧ (snapshot.tables.map (·.tableRef.toLower)).Nodup := by
  have haccepted := snapshot.accepted
  rw [LegacySqlSchemaSnapshotFields.errors, List.append_eq_nil_iff] at haccepted
  exact LegacySqlSchemaSnapshotFields.requireUniqueTables_eq_nil.mp haccepted.2

end LegacySqlSchemaSnapshot

/-! ## Exceptions -/

/-- The exceptions of discovery, metadata worker and mapping. -/
inductive LegacySqlExn where
  | discoveryError (text : String)
  | metadataWorkerError (text : String)
  | mappingEvidenceError (text : String)
  | model (exn : Exn)
  deriving DecidableEq, Repr

/-- What a model raises. -/
def ofModel {α : Type} (result : Except Exn α) : Except LegacySqlExn α :=
  result.mapError .model

theorem ofModel_eq_ok {α : Type} {result : Except Exn α} {value : α} :
    ofModel result = .ok value ↔ result = .ok value := by
  constructor
  · intro h
    cases result with
    | error exn => cases h
    | ok result =>
      cases h
      rfl
  · rintro rfl
    rfl

end Collabio
