import Mathlib.Data.Prod.Lex
import Mathlib.Data.String.Basic
import Mathlib.Tactic
import Collabio.Library.Grouping
import Collabio.Platform.LegacySqlSnapshots

/-!
# Snapshots from the rows of a metadata database

The queries of the metadata worker answer with rows; `_build_snapshot` puts the rows of a table
together under a text that is made of its two names. What Python makes of a cell is a parameter.

* `columnsByTable`, `primaryKeysByTable`, `constraintsByTable` — the groups;
* `buildTable`    — a table of the groups under its text;
* `buildSnapshot` — all tables.
-/

namespace Collabio

/-! ## Rows -/

/-- What Python makes of a cell: `str(value)`, `int(value)`, and its truth if it is a truth value
or an integer. -/
structure CellReading (Cell : Type) where
  str   : Cell → String
  int   : Cell → Except Exn Int
  truth : Cell → Option Bool

/-- `row.get(key)` for each key: nothing, null or a cell. -/
abbrev SqlRow (Cell : Type) := String → Option (Option Cell)

/-- The answers to the queries; no answer is an empty one. -/
structure RowsByQuery (Cell : Type) where
  tables      : List (SqlRow Cell)
  columns     : List (SqlRow Cell)
  primaryKeys : List (SqlRow Cell) := []
  foreignKeys : List (SqlRow Cell) := []
  indexes     : List (SqlRow Cell) := []
  rowCounts   : List (SqlRow Cell) := []

namespace SqlRow

variable {Cell : Type} (reading : CellReading Cell) (row : SqlRow Cell)

/-- `_text`. -/
def text (key : String) (default : Option String := none) : Except LegacySqlExn String := do
  let missing := LegacySqlExn.metadataWorkerError
    ("metadata row is missing required field: " ++ key)
  let value ← match row key, default with
    | some (some cell), _ => .ok (reading.str cell)
    | some none, _ => .error missing
    | none, some value => .ok value
    | none, none => .error missing
  let text := Text.strip value
  if text = "" then
    .error (.metadataWorkerError ("metadata row field must not be empty: " ++ key))
  else return text

/-- `_int`. -/
def int (key : String) : Except LegacySqlExn Int :=
  match row key with
  | some (some cell) => ofModel (reading.int cell)
  | _ => .error (.metadataWorkerError ("metadata row is missing required integer field: " ++ key))

/-- `_optional_int`. -/
def optionalInt (key : String) : Except LegacySqlExn (Option Int) :=
  match row key with
  | some (some cell) => do
    let parsed ← ofModel (reading.int cell)
    return if 0 ≤ parsed then some parsed else none
  | _ => .ok none

/-- `_bool`. -/
def bool (key : String) (default : Option Bool := none) : Except LegacySqlExn Bool :=
  let missing := LegacySqlExn.metadataWorkerError
    ("metadata row is missing required boolean field: " ++ key)
  match row key, default with
  | some (some cell), _ =>
    match reading.truth cell with
    | some value => .ok value
    | none =>
      let normalized := (Text.strip (reading.str cell)).toLower
      if normalized ∈ ["yes", "true", "1"] then .ok true
      else if normalized ∈ ["no", "false", "0"] then .ok false
      else .error (.metadataWorkerError ("metadata row boolean field is invalid: " ++ key))
  | some none, _ => .error missing
  | none, some value => .ok value
  | none, none => .error missing

/-- The two names of the table that a row is about. -/
def tableNames : Except LegacySqlExn (String × String) := do
  let schemaName ← row.text reading "schema_name"
  let tableName ← row.text reading "table_name"
  return (schemaName, tableName)

/-- The text of two names. -/
def refOf (names : String × String) : String := names.1 ++ "." ++ names.2

/-- `_table_ref`. -/
def tableRef : Except LegacySqlExn String := (row.tableNames reading).map refOf

end SqlRow

/-! ## Models -/

def LegacySqlColumnMetadata.make (fields : LegacySqlColumnMetadataFields) :
    Except LegacySqlExn LegacySqlColumnMetadata :=
  if h : fields.errors = [] then .ok ⟨fields, h⟩
  else .error (.model (.validationError "LegacySqlColumnMetadata" fields.errors))

def LegacySqlForeignKeyMetadata.make (fields : LegacySqlForeignKeyMetadataFields) :
    Except LegacySqlExn LegacySqlForeignKeyMetadata :=
  if h : fields.errors = [] then .ok ⟨fields, h⟩
  else .error (.model (.validationError "LegacySqlForeignKeyMetadata" fields.errors))

def LegacySqlIndexMetadata.make (fields : LegacySqlIndexMetadataFields) :
    Except LegacySqlExn LegacySqlIndexMetadata :=
  if h : fields.errors = [] then .ok ⟨fields, h⟩
  else .error (.model (.validationError "LegacySqlIndexMetadata" fields.errors))

def LegacySqlTableMetadata.make (fields : LegacySqlTableMetadataFields) :
    Except LegacySqlExn LegacySqlTableMetadata :=
  match h : fields.validate with
  | .ok () => .ok ⟨fields, h⟩
  | .error exn => .error (.model exn)

def LegacySqlSchemaSnapshot.make (fields : LegacySqlSchemaSnapshotFields) :
    Except LegacySqlExn LegacySqlSchemaSnapshot :=
  if h : fields.errors = [] then .ok ⟨fields, h⟩
  else .error (.model (.validationError "LegacySqlSchemaSnapshot" fields.errors))

/-! ## Groups -/

section

variable {Cell : Type} (reading : CellReading Cell)

def readTableKind (row : SqlRow Cell) : Except LegacySqlExn (String × LegacySqlRelationKind) := do
  let relationKind ← row.text reading "relation_kind" "table"
  let tableRef ← row.tableRef reading
  return (tableRef, if relationKind.toLower = "view" then .view else .table)

/-- `_table_kinds`. -/
def tableKinds (rows : List (SqlRow Cell)) :
    Except LegacySqlExn (Dict String LegacySqlRelationKind) := do
  let kinds ← rows.mapM (readTableKind reading)
  return Dict.ofPairs kinds

def readColumn (row : SqlRow Cell) : Except LegacySqlExn (String × LegacySqlColumnMetadata) := do
  let tableRef ← row.tableRef reading
  let name ← row.text reading "column_name"
  let ordinalPosition ← row.int reading "ordinal_position"
  let dataType ← row.text reading "data_type"
  let nullable ← row.bool reading "is_nullable"
  let maxLength ← row.optionalInt reading "max_length"
  let numericPrecision ← row.optionalInt reading "numeric_precision"
  let numericScale ← row.optionalInt reading "numeric_scale"
  let isIdentity ← row.bool reading "is_identity" false
  let defaultPresent ← row.bool reading "default_present" false
  let column ← LegacySqlColumnMetadata.make {
    name, ordinalPosition, dataType, nullable, maxLength, numericPrecision, numericScale,
    isIdentity, defaultPresent }
  return (tableRef, column)

/-- `_columns_by_table`. -/
def columnsByTable (rows : List (SqlRow Cell)) :
    Except LegacySqlExn (Dict String (List LegacySqlColumnMetadata)) := do
  let columns ← rows.mapM (readColumn reading)
  return (Dict.group columns).mapValues (sortBy (·.ordinalPosition))

def readKeyColumn (row : SqlRow Cell) : Except LegacySqlExn (String × Int × String) := do
  let tableRef ← row.tableRef reading
  let ordinalPosition ← row.int reading "ordinal_position"
  let columnName ← row.text reading "column_name"
  return (tableRef, ordinalPosition, columnName)

/-- The columns of a primary key, sorted as pairs. -/
def primaryKeyOf (columns : List (Int × String)) : List String :=
  (sortBy (fun column : Int × String => (toLex column : ℤ ×ₗ String)) columns).map Prod.snd

/-- `_primary_keys_by_table`. -/
def primaryKeysByTable (rows : List (SqlRow Cell)) :
    Except LegacySqlExn (Dict String (List String)) := do
  let columns ← rows.mapM (readKeyColumn reading)
  return (Dict.group columns).mapValues primaryKeyOf

def readOrdinal (row : SqlRow Cell) : Except LegacySqlExn (Int × SqlRow Cell) := do
  let ordinalPosition ← row.int reading "ordinal_position"
  return (ordinalPosition, row)

/-- The rows of a constraint, by their ordinal. -/
def orderedRows (rows : List (SqlRow Cell)) : Except LegacySqlExn (List (SqlRow Cell)) := do
  let ordinals ← rows.mapM (readOrdinal reading)
  return (sortBy Prod.fst ordinals).map Prod.snd

/-- The first of them; a group has one. -/
def firstRow (orderedRows : List (SqlRow Cell)) : Except LegacySqlExn (SqlRow Cell) :=
  match orderedRows with
  | row :: _ => .ok row
  | [] => .error (.model (.lookupError "list index out of range"))

/-- A foreign key of its rows in order. -/
def foreignKeyOfOrdered (name : String) (ordered : List (SqlRow Cell)) :
    Except LegacySqlExn LegacySqlForeignKeyMetadata := do
  let first ← firstRow ordered
  let columns ← ordered.mapM (·.text reading "column_name")
  let referencedSchema ← first.text reading "referenced_schema"
  let referencedTable ← first.text reading "referenced_table"
  let referencedColumns ← ordered.mapM (·.text reading "referenced_column")
  LegacySqlForeignKeyMetadata.make {
    name, columns, referencedSchema, referencedTable, referencedColumns }

/-- An index of its rows in order. -/
def indexOfOrdered (name : String) (ordered : List (SqlRow Cell)) :
    Except LegacySqlExn LegacySqlIndexMetadata := do
  let columns ← ordered.mapM (·.text reading "column_name")
  let first ← firstRow ordered
  let unique ← first.bool reading "is_unique" false
  LegacySqlIndexMetadata.make { name, columns, unique }

/-- A row with the table and the constraint that it belongs to. -/
def readConstraintRow (nameKey : String) (row : SqlRow Cell) :
    Except LegacySqlExn ((String × String) × SqlRow Cell) := do
  let tableRef ← row.tableRef reading
  let name ← row.text reading nameKey
  return ((tableRef, name), row)

/-- The constraint of a group of rows, under its table. -/
def readConstraint {C : Type} (ofOrdered : String → List (SqlRow Cell) → Except LegacySqlExn C)
    (entry : (String × String) × List (SqlRow Cell)) : Except LegacySqlExn (String × C) := do
  let ordered ← orderedRows reading entry.2
  let constraint ← ofOrdered entry.1.2 ordered
  return (entry.1.1, constraint)

/-- The constraints of all tables, each under its table: the rows of each are put in order, and
the constraint is made of them. -/
def readConstraints {C : Type} (nameKey : String)
    (ofOrdered : String → List (SqlRow Cell) → Except LegacySqlExn C) (rows : List (SqlRow Cell)) :
    Except LegacySqlExn (List (String × C)) := do
  let grouped ← rows.mapM (readConstraintRow reading nameKey)
  (Dict.group grouped).items.mapM (readConstraint reading ofOrdered)

/-- `_foreign_keys_by_table`. -/
def foreignKeysByTable (rows : List (SqlRow Cell)) :
    Except LegacySqlExn (Dict String (List LegacySqlForeignKeyMetadata)) := do
  let foreignKeys ← readConstraints reading "foreign_key_name" (foreignKeyOfOrdered reading)
    rows
  return Dict.group foreignKeys

/-- `_indexes_by_table`. -/
def indexesByTable (rows : List (SqlRow Cell)) :
    Except LegacySqlExn (Dict String (List LegacySqlIndexMetadata)) := do
  let indexes ← readConstraints reading "index_name" (indexOfOrdered reading) rows
  return Dict.group indexes

def readRowCount (row : SqlRow Cell) : Except LegacySqlExn (String × Int) := do
  let tableRef ← row.tableRef reading
  let rowCountEstimate ← row.int reading "row_count_estimate"
  return (tableRef, rowCountEstimate)

/-- `_row_counts_by_table`. -/
def rowCountsByTable (rows : List (SqlRow Cell)) : Except LegacySqlExn (Dict String Int) := do
  let rowCounts ← rows.mapM (readRowCount reading)
  return Dict.ofPairs rowCounts

/-! ## The snapshot -/

/-- `table_ref.split(".", 1)`. -/
def splitRef (tableRef : String) : String × String :=
  let (schemaName, rest) := tableRef.toList.span (· != '.')
  (String.ofList schemaName, String.ofList rest.tail)

/-- The groups of a snapshot. -/
structure SnapshotGroups where
  columns     : Dict String (List LegacySqlColumnMetadata)
  primaryKeys : Dict String (List String)
  foreignKeys : Dict String (List LegacySqlForeignKeyMetadata)
  indexes     : Dict String (List LegacySqlIndexMetadata)
  rowCounts   : Dict String Int

/-- One turn of the loop over the tables. -/
def buildTable (groups : SnapshotGroups) (entry : String × LegacySqlRelationKind) :
    Except LegacySqlExn LegacySqlTableMetadata :=
  let (tableRef, relationKind) := entry
  let columns := (groups.columns.get? tableRef).getD []
  if columns = [] then
    .error (.metadataWorkerError ("metadata query returned table without columns: " ++ tableRef))
  else
    let (schemaName, tableName) := splitRef tableRef
    LegacySqlTableMetadata.make {
      schemaName, tableName, relationKind, columns
      rowCountEstimate := groups.rowCounts.get? tableRef
      primaryKeyColumns := (groups.primaryKeys.get? tableRef).getD []
      foreignKeys := (groups.foreignKeys.get? tableRef).getD []
      indexes := (groups.indexes.get? tableRef).getD [] }

/-- `_build_snapshot`; `inspectedAtUtc` is the time that the snapshot gets. -/
def buildSnapshot (connectionFingerprintHash inspectedAtUtc : String) (rows : RowsByQuery Cell) :
    Except LegacySqlExn LegacySqlSchemaSnapshot := do
  let tableKinds ← tableKinds reading rows.tables
  let columns ← columnsByTable reading rows.columns
  let primaryKeys ← primaryKeysByTable reading rows.primaryKeys
  let foreignKeys ← foreignKeysByTable reading rows.foreignKeys
  let indexes ← indexesByTable reading rows.indexes
  let rowCounts ← rowCountsByTable reading rows.rowCounts
  let tables ← tableKinds.sorted.items.mapM
    (buildTable { columns, primaryKeys, foreignKeys, indexes, rowCounts })
  LegacySqlSchemaSnapshot.make { connectionFingerprintHash, inspectedAtUtc, tables }

end

end Collabio
