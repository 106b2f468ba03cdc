import Mathlib.Tactic
import Collabio.Library.Dict
import Collabio.Library.Effect
import Collabio.Library.Text
import Collabio.Storage.ContentHash

/-!
# The migrator

`apply_migrations` runs in one transaction: it prepares the table of applied migrations, then
goes through the catalog, checks and refreshes what is recorded and runs what is not.

* `Database`              — the table, the roles that may read it, and everything else;
* `applyMigrations`, `verifyMigrationStartupState` — the two entry points;
* `applyCatalog_spec`     — what a loop that returns has done;
* `applyCatalog_of_recorded` — a loop over recorded migrations runs nothing;
* `migrations_applied`    — apply, verify and apply again.
-/

namespace Collabio

structure SqlMigration where
  version       : String
  name          : String
  moduleId      : String
  evidenceRefs  : List String
  sql           : String
  blocksStartup : Bool := true
  deriving DecidableEq, Repr

/-- `MigrationStartupBlocked`, and the errors of the database. -/
inductive MigrationError where
  | startupBlocked (text : String)
  | databaseError (text : String)
  deriving DecidableEq, Repr

/-- A row of `collabio.schema_migrations`; `none` is null, or a column that an older table
does not have. -/
structure MigrationRow where
  name          : String
  moduleId      : Option String
  checksum      : String
  evidenceRefs  : Option Json
  blocksStartup : Option Bool
  appliedAtUtc  : String

/-- What a migration's SQL works on. -/
structure Outside (R : Type) where
  rest    : R
  roles   : List String := []
  /-- The roles that may use the schema and read the table. -/
  readers : List String := []
  deriving DecidableEq, Repr

structure Database (R : Type) where
  outside  : Outside R
  table    : Option (Dict String MigrationRow) := none
  /-- The table has all its columns, with their defaults and constraints. -/
  upgraded : Bool := false

structure MigrationRunResult where
  appliedVersions : List String
  skippedVersions : List String
  deriving DecidableEq, Repr

/-- `sorted(refs)`. -/
def sortedRefs (refs : List String) : List String := refs.mergeSort fun a b => decide (a ≤ b)

/-! ## The table -/

/-- GRANT, if the role exists. -/
def Outside.grantReader {R : Type} (role : String) (outside : Outside R) : Outside R :=
  if role ∈ outside.roles ∧ role ∉ outside.readers then
    { outside with readers := outside.readers ++ [role] }
  else outside

def Outside.grantReaders {R : Type} (outside : Outside R) : Outside R :=
  (outside.grantReader "collabio_app").grantReader "collabio_worker"

/-- The UPDATEs of columns that were null. -/
def MigrationRow.withDefaults (row : MigrationRow) : MigrationRow :=
  { row with
    moduleId := row.moduleId.or (some "core")
    evidenceRefs := row.evidenceRefs.or (some (.arr []))
    blocksStartup := row.blocksStartup.or (some true) }

/-- The rows that `ensure_schema_migrations_table` leaves. -/
def Database.ensuredRows {R : Type} (database : Database R) : Dict String MigrationRow :=
  (database.table.getD ∅).mapValues MigrationRow.withDefaults

/-- `ensure_schema_migrations_table`. -/
def ensureSchemaMigrationsTable {R : Type} (database : Database R) : Database R where
  outside := database.outside.grantReaders
  table := some database.ensuredRows
  upgraded := true

section

variable (H : HashFunctions)

def SqlMigration.checksum (migration : SqlMigration) : String :=
  computeContentHash H (Text.encodeUtf8 migration.sql)

/-- `migration_evidence_json`, as the column stores it. -/
def SqlMigration.evidenceJson (migration : SqlMigration) : Json :=
  .arr ((sortedRefs migration.evidenceRefs).map .str)

/-- The UPDATE of `backfill_migration_metadata`. -/
def MigrationRow.backfilled (row : MigrationRow) (migration : SqlMigration) : MigrationRow :=
  { row with
    name := migration.name
    moduleId := some migration.moduleId
    evidenceRefs := some migration.evidenceJson
    blocksStartup := some migration.blocksStartup }

/-- The row of a migration that was run; `now()` is the start of the transaction. -/
def SqlMigration.row (migration : SqlMigration) (now : String) : MigrationRow where
  name := migration.name
  moduleId := some migration.moduleId
  checksum := migration.checksum H
  evidenceRefs := some migration.evidenceJson
  blocksStartup := some migration.blocksStartup
  appliedAtUtc := now

/-! ## Applying -/

/-- The loop's state. -/
structure MigrationLoop (R : Type) where
  outside : Outside R
  rows    : Dict String MigrationRow
  applied : List String := []
  skipped : List String := []

/-- The loop over the catalog; `execute` is the database's way with a migration's SQL. -/
def applyCatalog {R : Type} (execute : String → Outside R → Except MigrationError (Outside R))
    (now : String) : List SqlMigration → MigrationLoop R →
      Except MigrationError (MigrationLoop R)
  | [], loop => .ok loop
  | migration :: catalog, loop =>
    match loop.rows.get? migration.version with
    | some row =>
      if row.checksum ≠ migration.checksum H then
        .error (.startupBlocked ("Migration " ++ migration.version ++
          " checksum mismatch: stored " ++ row.checksum ++ ", current " ++ migration.checksum H))
      else applyCatalog execute now catalog { loop with
        rows := loop.rows.set migration.version (row.backfilled migration)
        skipped := loop.skipped ++ [migration.version] }
    | none =>
      match execute migration.sql loop.outside with
      | .error error => .error error
      | .ok outside => applyCatalog execute now catalog { loop with
          outside := outside
          rows := loop.rows.set migration.version (migration.row H now)
          applied := loop.applied ++ [migration.version] }

/-- `apply_migrations`: the connection's block rolls back when it raises. -/
def applyMigrations {R : Type} (execute : String → Outside R → Except MigrationError (Outside R))
    (now : String) (catalog : List SqlMigration) :
    Eff MigrationError (Database R) MigrationRunResult := fun database =>
  let ensured := ensureSchemaMigrationsTable database
  match applyCatalog H execute now catalog
      { outside := ensured.outside, rows := database.ensuredRows } with
  | .error error => (.error error, database)
  | .ok loop => (.ok ⟨loop.applied, loop.skipped⟩,
      { ensured with outside := loop.outside, table := some loop.rows })

/-! ## Verifying -/

/-- The text of a JSON string. -/
def jsonText : Json → Option String
  | .str text => some text
  | _ => none

/-- `stored_evidence_refs`. -/
def storedEvidenceRefs : Option Json → Except MigrationError (List String)
  | none => .ok []
  | some (.arr items) =>
    match items.mapM jsonText with
    | some refs => .ok (sortedRefs refs)
    | none => .error (.startupBlocked
        "Stored migration evidence_refs must be a JSON string array")
  | some _ => .error (.startupBlocked "Stored migration evidence_refs must be a JSON string array")

/-- The checks of one migration of the catalog. -/
def verifyMigration (stored : Dict String MigrationRow) (migration : SqlMigration) :
    Except MigrationError Unit :=
  match stored.get? migration.version with
  | none =>
    if migration.blocksStartup then
      .error (.startupBlocked ("Startup migration is missing: " ++ migration.version))
    else .ok ()
  | some row => do
    let mismatch : MigrationError :=
      .startupBlocked ("Migration " ++ migration.version ++ " metadata mismatch")
    if row.name ≠ migration.name ∨ row.moduleId ≠ some migration.moduleId ∨
        row.checksum ≠ migration.checksum H then .error mismatch
    let refs ← storedEvidenceRefs row.evidenceRefs
    if refs ≠ sortedRefs migration.evidenceRefs ∨
        row.blocksStartup.getD false ≠ migration.blocksStartup then .error mismatch

/-- The stored versions that block the start and that the catalog does not have. -/
def unknownBlockingVersions (stored : Dict String MigrationRow) (catalog : List SqlMigration) :
    List String :=
  sortedRefs ((stored.items.filter fun entry =>
    decide (entry.1 ∉ catalog.map (·.version)) && entry.2.blocksStartup.getD false).map Prod.fst)

/-- `verify_migration_startup_state`; on an older table its query fails. -/
def verifyMigrationStartupState {R : Type} (catalog : List SqlMigration) (database : Database R) :
    Except MigrationError Unit :=
  match database.table with
  | none => .error (.startupBlocked "schema_migrations table is missing")
  | some stored => do
    if ¬ database.upgraded then .error (.databaseError "column does not exist")
    catalog.forM (verifyMigration H stored)
    if unknownBlockingVersions stored catalog ≠ [] then
      .error (.startupBlocked ("Unknown startup-blocking migrations stored: " ++
        ", ".intercalate (unknownBlockingVersions stored catalog)))

/-! ## What the loop does -/

variable {H}

/-- The row is that of the migration, with the metadata that the catalog has now. -/
structure Records (H : HashFunctions) (migration : SqlMigration) (row : MigrationRow) : Prop where
  checksum : row.checksum = migration.checksum H
  metadata : row.backfilled migration = row

/-- The catalog's migrations that have no row. -/
def pendingIn (rows : Dict String MigrationRow) (catalog : List SqlMigration) :
    List SqlMigration :=
  catalog.filter fun migration => (rows.get? migration.version).isNone

/-- The SQL of some migrations, one after the other. -/
def executeAll {R : Type} (execute : String → Outside R → Except MigrationError (Outside R)) :
    List SqlMigration → Outside R → Except MigrationError (Outside R)
  | [], outside => .ok outside
  | migration :: migrations, outside => do
    let outside ← execute migration.sql outside
    executeAll execute migrations outside

variable {R : Type} {execute : String → Outside R → Except MigrationError (Outside R)}
  {now : String} {catalog : List SqlMigration} {loop loop' : MigrationLoop R}

/-- One more row does not change what is pending among the other versions. -/
theorem pendingIn_set {rows : Dict String MigrationRow} {version : String} (row : MigrationRow)
    (h : version ∉ catalog.map (·.version)) :
    pendingIn (rows.set version row) catalog = pendingIn rows catalog := by
  refine List.filter_congr fun migration hmem => ?_
  have hne : migration.version ≠ version := by
    rintro rfl
    exact h (List.mem_map_of_mem hmem)
  rw [Dict.get?_set_ne _ _ hne]

/-- What a loop that returns has done: it ran what was pending, in order, and every migration
of the catalog is recorded. -/
structure Applied (H : HashFunctions)
    (execute : String → Outside R → Except MigrationError (Outside R))
    (catalog : List SqlMigration) (loop loop' : MigrationLoop R) : Prop where
  recorded : ∀ migration ∈ catalog, ∃ row,
    loop'.rows.get? migration.version = some row ∧ Records H migration row
  others   : ∀ version ∉ catalog.map (·.version),
    loop'.rows.get? version = loop.rows.get? version
  applied  : loop'.applied = loop.applied ++ (pendingIn loop.rows catalog).map (·.version)
  executed : executeAll execute (pendingIn loop.rows catalog) loop.outside = .ok loop'.outside

theorem Applied.cons {migration : SqlMigration} {between : MigrationLoop R}
    {row : MigrationRow} (hrecords : Records H migration row)
    (hfresh : migration.version ∉ catalog.map (·.version))
    (hrows : between.rows = loop.rows.set migration.version row)
    (h : Applied H execute catalog between loop')
    (happlied : loop'.applied =
      loop.applied ++ (pendingIn loop.rows (migration :: catalog)).map (·.version))
    (hexecuted : executeAll execute (pendingIn loop.rows (migration :: catalog)) loop.outside =
      .ok loop'.outside) :
    Applied H execute (migration :: catalog) loop loop' := by
  refine ⟨?_, ?_, happlied, hexecuted⟩
  · intro other hmem
    rcases List.mem_cons.mp hmem with rfl | hmem
    · exact ⟨row, by rw [h.others _ hfresh, hrows, Dict.get?_set_self], hrecords⟩
    · exact h.recorded other hmem
  · intro version hversion
    rw [List.map_cons, List.mem_cons, not_or] at hversion
    rw [h.others version hversion.2, hrows, Dict.get?_set_ne _ _ hversion.1]

theorem applyCatalog_spec (hdistinct : (catalog.map (·.version)).Nodup)
    (h : applyCatalog H execute now catalog loop = .ok loop') :
    Applied H execute catalog loop loop' := by
  induction catalog generalizing loop with
  | nil =>
    cases h
    exact ⟨by simp, fun _ _ => rfl, by simp [pendingIn], rfl⟩
  | cons migration catalog ih =>
    rw [List.map_cons, List.nodup_cons] at hdistinct
    rw [applyCatalog] at h
    -- the version is recorded already: its checksum agrees, or the apply raises
    cases hget : loop.rows.get? migration.version with
    | some row =>
      rw [hget] at h
      dsimp only at h
      split at h
      · cases h
      · rename_i hchecksum
        -- its columns are filled in, and it is pending no longer
        have hrest := ih hdistinct.2 h
        have hpending : pendingIn loop.rows (migration :: catalog) = pendingIn
            (loop.rows.set migration.version (row.backfilled migration)) catalog := by
          rw [pendingIn_set _ hdistinct.1, pendingIn, List.filter_cons_of_neg (by simp [hget])]
          rfl
        have hrecords : Records H migration (row.backfilled migration) :=
          ⟨not_not.mp hchecksum, rfl⟩
        refine hrest.cons hrecords hdistinct.1 rfl ?_ ?_
        · rw [hpending]
          exact hrest.applied
        · rw [hpending]
          exact hrest.executed
    | none =>
      rw [hget] at h
      dsimp only at h
      -- the version is pending: its script runs, and it is recorded
      cases hexecute : execute migration.sql loop.outside with
      | error error =>
        rw [hexecute] at h
        cases h
      | ok outside =>
        rw [hexecute] at h
        have hrest := ih hdistinct.2 h
        have hpending : pendingIn loop.rows (migration :: catalog) = migration :: pendingIn
            (loop.rows.set migration.version (migration.row H now)) catalog := by
          rw [pendingIn_set _ hdistinct.1, pendingIn, List.filter_cons_of_pos (by simp [hget])]
          rfl
        have hrecords : Records H migration (migration.row H now) := ⟨rfl, rfl⟩
        refine hrest.cons hrecords hdistinct.1 rfl ?_ ?_
        · rw [hpending, hrest.applied]
          simp
        · rw [hpending, executeAll, hexecute]
          exact hrest.executed

theorem Dict.set_of_get? {K V : Type} [DecidableEq K] {d : Dict K V} {k : K} {v : V}
    (h : d.get? k = some v) : d.set k v = d := by
  have hmem : k ∈ d.items.map Prod.fst := List.mem_map_of_mem (f := Prod.fst) (Dict.mem_items.mpr h)
  have hitems : Dict.replaceItem k v d.items = d.items := by
    rw [Dict.replaceItem]
    conv_rhs => rw [← List.map_id d.items]
    refine List.map_congr_left fun entry hentry => ?_
    split
    · rename_i hkey
      have hvalue := Dict.mem_items.mp (show (k, entry.2) ∈ d.items by rw [← hkey]; exact hentry)
      rw [h, Option.some.injEq] at hvalue
      rw [hvalue, ← hkey]
      rfl
    · rfl
  rw [Dict.set, dif_pos hmem]
  simp only [hitems]

/-- A loop over a catalog that is recorded runs nothing and changes no row. -/
theorem applyCatalog_of_recorded
    (h : ∀ migration ∈ catalog, ∃ row,
      loop.rows.get? migration.version = some row ∧ Records H migration row) :
    applyCatalog H execute now catalog loop =
      .ok { loop with skipped := loop.skipped ++ catalog.map (·.version) } := by
  induction catalog generalizing loop with
  | nil => simp [applyCatalog]
  | cons migration catalog ih =>
    obtain ⟨row, hget, hrecords⟩ := h migration List.mem_cons_self
    rw [applyCatalog, hget]
    dsimp only
    rw [if_neg (not_not.mpr hrecords.checksum), hrecords.metadata, Dict.set_of_get? hget]
    have hrest := @ih { loop with skipped := loop.skipped ++ [migration.version] }
      fun other hmem => h other (List.mem_cons_of_mem _ hmem)
    rw [hrest]
    simp

/-! ## Verify -/

theorem sortedRefs_sortedRefs (refs : List String) :
    sortedRefs (sortedRefs refs) = sortedRefs refs := by
  refine List.mergeSort_of_pairwise (List.pairwise_mergeSort ?_ ?_ refs)
  · intro a b c hab hbc
    simp only [decide_eq_true_eq] at hab hbc ⊢
    exact String.le_trans hab hbc
  · intro a b
    simpa using String.le_total a b

theorem storedEvidenceRefs_evidenceJson (migration : SqlMigration) :
    storedEvidenceRefs (some migration.evidenceJson) = .ok (sortedRefs migration.evidenceRefs) := by
  have htexts : ∀ refs : List String, (refs.map Json.str).mapM jsonText = some refs := by
    intro refs
    induction refs with
    | nil => rfl
    | cons ref refs ih => simp [List.mapM_cons, ih, jsonText]
  rw [SqlMigration.evidenceJson, storedEvidenceRefs, htexts]
  exact congrArg Except.ok (sortedRefs_sortedRefs _)

/-- A recorded migration passes its checks. -/
theorem verifyMigration_of_records {stored : Dict String MigrationRow} {migration : SqlMigration}
    {row : MigrationRow} (hget : stored.get? migration.version = some row)
    (h : Records H migration row) : verifyMigration H stored migration = .ok () := by
  have hname : row.name = migration.name := by rw [← h.metadata]; rfl
  have hmodule : row.moduleId = some migration.moduleId := by rw [← h.metadata]; rfl
  have hrefs : row.evidenceRefs = some migration.evidenceJson := by rw [← h.metadata]; rfl
  have hblocks : row.blocksStartup = some migration.blocksStartup := by rw [← h.metadata]; rfl
  rw [verifyMigration, hget]
  dsimp only
  rw [if_neg (by simp [hname, hmodule, h.checksum]), hrefs, storedEvidenceRefs_evidenceJson]
  dsimp only [bind, Except.bind, pure, Except.pure]
  rw [if_neg (by simp [hblocks])]

theorem get?_ensuredRows (database : Database R) (version : String) :
    database.ensuredRows.get? version =
      ((database.table.getD ∅).get? version).map MigrationRow.withDefaults := by
  rw [Database.ensuredRows, Dict.mapValues, Dict.get?, Dict.get?, List.find?_map, Option.map_map,
    Option.map_map]
  rfl

/-- The versions that the database has recorded. -/
def Database.appliedVersions (database : Database R) : List String :=
  (database.table.getD ∅).keys

theorem mem_appliedVersions {database : Database R} {version : String} :
    version ∈ database.appliedVersions ↔ (database.ensuredRows.get? version).isSome := by
  rw [Database.appliedVersions, Dict.mem_keys, get?_ensuredRows, Option.isSome_map,
    Option.isSome_iff_exists]

/-- The migrations of the catalog that the database has not recorded. -/
def Database.pending (database : Database R) (catalog : List SqlMigration) : List SqlMigration :=
  catalog.filter (·.version ∉ database.appliedVersions)

theorem pendingIn_ensuredRows (database : Database R) :
    pendingIn database.ensuredRows catalog = database.pending catalog := by
  refine List.filter_congr fun migration _ => ?_
  rw [Bool.eq_iff_iff, decide_eq_true_eq, mem_appliedVersions]
  simp

/-- Verify passes over rows that record the catalog and nothing else. -/
theorem verify_of_recorded {database : Database R} {rows : Dict String MigrationRow}
    (htable : database.table = some rows) (hupgraded : database.upgraded = true)
    (hrecorded : ∀ migration ∈ catalog, ∃ row,
      rows.get? migration.version = some row ∧ Records H migration row)
    (honly : ∀ version ∈ rows.keys, version ∈ catalog.map (·.version)) :
    verifyMigrationStartupState H catalog database = .ok () := by
  have hunknown : unknownBlockingVersions rows catalog = [] := by
    have hnone : rows.items.filter (fun entry => decide (entry.1 ∉ catalog.map (·.version)) &&
        entry.2.blocksStartup.getD false) = [] := by
      rw [List.filter_eq_nil_iff]
      intro entry hentry
      have hkey := honly entry.1 (List.mem_map_of_mem hentry)
      simp [hkey]
    rw [unknownBlockingVersions, hnone, List.map_nil, sortedRefs, List.mergeSort_nil]
  have hcatalog : catalog.forM (verifyMigration H rows) = .ok () := by
    rw [Except.forM_eq_ok]
    intro migration hmem
    obtain ⟨row, hget, hrecords⟩ := hrecorded migration hmem
    exact verifyMigration_of_records hget hrecords
  rw [verifyMigrationStartupState, htable]
  dsimp only
  rw [if_neg (by simp [hupgraded]), hcatalog, hunknown]
  rfl

/-- Rows that record the catalog and nothing else have no nulls. -/
theorem mapValues_withDefaults {rows : Dict String MigrationRow}
    (hrecorded : ∀ migration ∈ catalog, ∃ row,
      rows.get? migration.version = some row ∧ Records H migration row)
    (honly : ∀ version ∈ rows.keys, version ∈ catalog.map (·.version)) :
    rows.mapValues MigrationRow.withDefaults = rows := by
  have hitems : rows.items.map (fun entry => (entry.1, entry.2.withDefaults)) = rows.items := by
    conv_rhs => rw [← List.map_id rows.items]
    refine List.map_congr_left fun entry hentry => ?_
    obtain ⟨migration, hmem, hversion⟩ := List.mem_map.mp
      (honly entry.1 (List.mem_map_of_mem hentry))
    obtain ⟨row, hget, hrecords⟩ := hrecorded migration hmem
    have hrow : rows.get? entry.1 = some entry.2 := Dict.mem_items.mp hentry
    rw [← hversion, hget, Option.some.injEq] at hrow
    have hsame : row.withDefaults = row := by
      rw [← hrecords.metadata]
      rfl
    rw [← hrow, hsame, hrow]
    rfl
  rw [Dict.mapValues]
  simp only [hitems]

theorem applyMigrations_apply (database : Database R) :
    applyMigrations H execute now catalog database =
      match applyCatalog H execute now catalog
        { outside := database.outside.grantReaders, rows := database.ensuredRows } with
      | .error error => (.error error, database)
      | .ok loop => (.ok ⟨loop.applied, loop.skipped⟩,
          { outside := loop.outside, table := some loop.rows, upgraded := true }) := rfl

/-- **The migrator.** Of a catalog with distinct versions, on a database whose recorded
versions are all in it: an apply that raises leaves the database as it was; one that returns
has run the pending migrations, each once and in the catalog's order, verify passes then, and
a second apply runs nothing and changes nothing but the read grants of roles that the first
one's migrations have created. -/
theorem migrations_applied (H : HashFunctions)
    (execute : String → Outside R → Except MigrationError (Outside R)) (now later : String)
    {catalog : List SqlMigration} (hdistinct : (catalog.map (·.version)).Nodup)
    {database : Database R}
    (hsubset : ∀ version ∈ database.appliedVersions, version ∈ catalog.map (·.version)) :
    (∀ error database', applyMigrations H execute now catalog database =
      (.error error, database') → database' = database) ∧
    ∀ result database', applyMigrations H execute now catalog database =
        (.ok result, database') →
      result.appliedVersions = (database.pending catalog).map (·.version) ∧
      executeAll execute (database.pending catalog) database.outside.grantReaders =
        .ok database'.outside ∧
      verifyMigrationStartupState H catalog database' = .ok () ∧
      applyMigrations H execute later catalog database' =
        (.ok ⟨[], catalog.map (·.version)⟩,
          { database' with outside := database'.outside.grantReaders }) := by
  constructor
  · intro error database' h
    rw [applyMigrations_apply] at h
    split at h <;> cases h
    rfl
  · intro result database' h
    rw [applyMigrations_apply] at h
    cases hloop : applyCatalog H execute now catalog
        { outside := database.outside.grantReaders, rows := database.ensuredRows } with
    | error error =>
      rw [hloop] at h
      cases h
    | ok loop =>
      rw [hloop] at h
      cases h
      have happlied := applyCatalog_spec hdistinct hloop
      -- only versions of the catalog are recorded: the loop adds no others
      have honly : ∀ version ∈ loop.rows.keys, version ∈ catalog.map (·.version) := by
        intro version hversion
        by_contra hnot
        obtain ⟨row, hrow⟩ := Dict.mem_keys.mp hversion
        rw [happlied.others version hnot] at hrow
        exact hnot (hsubset version (mem_appliedVersions.mpr (by rw [hrow]; rfl)))
      refine ⟨?_, ?_, verify_of_recorded rfl rfl happlied.recorded honly, ?_⟩
      · rw [happlied.applied, pendingIn_ensuredRows]
        rfl
      · rw [← pendingIn_ensuredRows]
        exact happlied.executed
      · have hrows := mapValues_withDefaults happlied.recorded honly
        have hensured : Database.ensuredRows
            ⟨loop.outside, some loop.rows, true⟩ = loop.rows := hrows
        -- every version is recorded now, so that a second loop skips them all
        have hagain : applyCatalog H execute later catalog
            { outside := loop.outside.grantReaders, rows := loop.rows } =
              .ok { outside := loop.outside.grantReaders, rows := loop.rows
                    skipped := catalog.map (·.version) } :=
          applyCatalog_of_recorded happlied.recorded
        rw [applyMigrations_apply, hensured, hagain]

end

/-! ## A catalog whose migration creates a role -/

def sampleRoleMigration : SqlMigration where
  version := "0002"
  name := "pgvector_lifecycle_worker_role"
  moduleId := "core"
  evidenceRefs := ["adr:pgvector-rls"]
  sql := "CREATE ROLE collabio_worker"

/-- A database that knows this one statement. -/
def sampleExecute (sql : String) (outside : Outside Unit) :
    Except MigrationError (Outside Unit) :=
  if sql = "CREATE ROLE collabio_worker" then
    .ok { outside with roles := outside.roles ++ ["collabio_worker"] }
  else .error (.databaseError "syntax error")

theorem sample_migrations_applied :
    (∀ error database', applyMigrations default sampleExecute "t1" [sampleRoleMigration]
        { outside := { rest := () } } = (.error error, database') →
      database' = { outside := { rest := () } }) ∧
    ∀ result database', applyMigrations default sampleExecute "t1" [sampleRoleMigration]
        { outside := { rest := () } } = (.ok result, database') →
      result.appliedVersions = (Database.pending { outside := { rest := () } }
        [sampleRoleMigration]).map (·.version) ∧
      executeAll sampleExecute (Database.pending { outside := { rest := () } }
        [sampleRoleMigration]) (Outside.grantReaders { rest := () }) = .ok database'.outside ∧
      verifyMigrationStartupState default [sampleRoleMigration] database' = .ok () ∧
      applyMigrations default sampleExecute "t2" [sampleRoleMigration] database' =
        (.ok ⟨[], [sampleRoleMigration].map (·.version)⟩,
          { database' with outside := database'.outside.grantReaders }) :=
  migrations_applied default sampleExecute "t1" "t2" (by decide)
    (fun _ hversion => absurd hversion List.not_mem_nil)

/-- The second apply returns, runs no migration, and grants the new role. -/
theorem second_apply_grants :
    let first := (applyMigrations default sampleExecute "t1" [sampleRoleMigration]
      { outside := { rest := () } }).2
    let second := applyMigrations default sampleExecute "t2" [sampleRoleMigration] first
    second.1 = .ok ⟨[], ["0002"]⟩ ∧ first.outside.readers = [] ∧
      second.2.outside.readers = ["collabio_worker"] := by
  decide +kernel

end Collabio
