import Mathlib.Tactic
import Collabio.Platform.LegacySqlSnapshotSpec

/-!
# Snapshots of unambiguous rows

What stands under the text of a table is made of the table's own rows, in the order of their
ordinals; the order in which the rows come is forgotten.

* `madeOf_under`, `ordered_reads` — a table's groups, in the order of their ordinals;
* `isFaithful_of_unambiguous`     — the snapshot is faithful;
* `isStable_of_unambiguous`       — and does not depend on the order of the rows.
-/

namespace Collabio

variable {Cell : Type} {reading : CellReading Cell} {tables rows : List (SqlRow Cell)}

/-! ## The rows under a text -/

/-- Under the text of a table stand its own rows only. -/
theorem filter_isUnder (hown : OwnRows reading tables rows) {tableRow : SqlRow Cell}
    (htable : tableRow ∈ tables) {names : String × String}
    (hnames : tableRow.tableNames reading = .ok names) :
    rows.filter (·.isUnder reading (SqlRow.refOf names)) =
      rows.filter (·.isAbout reading names) := by
  refine List.filter_congr fun row hrow => ?_
  rw [Bool.eq_iff_iff]
  constructor
  · intro h
    have hsame : row.tableRef reading = tableRow.tableRef reading := by
      rw [SqlRow.isUnder_iff.mp h, SqlRow.tableRef_of_names hnames]
    rw [SqlRow.isAbout_iff, hown tableRow htable row hrow hsame, hnames]
  · exact SqlRow.isUnder_of_isAbout

/-- If as many rows are about a table as stand under its text, all of them are. -/
theorem names_of_length {names : String × String}
    (h : (rows.filter (·.isAbout reading names)).length =
      (rows.filter (·.isUnder reading (SqlRow.refOf names))).length) {row : SqlRow Cell}
    (hrow : row ∈ rows) (href : row.tableRef reading = .ok (SqlRow.refOf names)) :
    row.tableNames reading = .ok names :=
  SqlRow.isAbout_iff.mp
    (List.of_length_filter_eq (fun _ => SqlRow.isUnder_of_isAbout) h hrow
      (SqlRow.isUnder_iff.mpr href))

variable {V : Type} {read : SqlRow Cell → Except LegacySqlExn (String × V)}
  {found : List (String × V)}

/-- What is read of the rows under a text. -/
theorem mapM_under (href : ∀ row found, read row = .ok found → row.tableRef reading = .ok found.1)
    (h : rows.mapM read = .ok found) (tableRef : String) :
    ∃ under, (rows.filter (·.isUnder reading tableRef)).mapM read = .ok under ∧
      under.map Prod.snd = Dict.valuesOf tableRef found := by
  refine ⟨found.filter (·.1 = tableRef), Except.filter_mapM h fun row _ value hvalue => ?_, rfl⟩
  rw [Bool.eq_iff_iff, SqlRow.isUnder_iff, href row value hvalue, Except.ok.injEq,
    decide_eq_true_eq]

theorem length_valuesOf (href : ∀ row found, read row = .ok found →
      row.tableRef reading = .ok found.1) (h : rows.mapM read = .ok found) (tableRef : String) :
    (Dict.valuesOf tableRef found).length =
      (rows.filter (·.isUnder reading tableRef)).length := by
  obtain ⟨under, hunder, hvalues⟩ := mapM_under href h tableRef
  rw [← hvalues, List.length_map, Except.length_of_mapM hunder]

/-- Rows with distinct ordinals are read in their order, if what is read is sorted by a key that
rises with the ordinals. -/
theorem ordered_reads {O : Type*} [LinearOrder O] (key : V → O)
    (hint : ∀ row found, read row = .ok found → ∃ i, row.int reading "ordinal_position" = .ok i)
    (hkey : ∀ a b x y, a.Before reading b → read a = .ok x → read b = .ok y → key x.2 < key y.2)
    (hdistinct : DistinctOrdinals reading rows) (h : rows.mapM read = .ok found) :
    ∃ ordered found', InOrder reading rows ordered ∧ ordered.mapM read = .ok found' ∧
      sortBy key (found.map Prod.snd) = found'.map Prod.snd := by
  have hordinals : ∃ ordinals, rows.mapM (readOrdinal reading) = .ok ordinals := by
    refine Except.mapM_isOk fun row hrow => ?_
    obtain ⟨value, hvalue⟩ := Except.isOk_of_mapM h row hrow
    obtain ⟨i, hi⟩ := hint row value hvalue
    exact ⟨(i, row), readOrdinal_eq_ok.mpr ⟨hi, rfl⟩⟩
  obtain ⟨ordinals, hordinals⟩ := hordinals
  obtain ⟨hperm, hbefore⟩ := orderedRows_inOrder hdistinct
    (orderedRows_eq_ok.mpr ⟨ordinals, hordinals, rfl⟩)
  obtain ⟨found', hfound', hsame⟩ := Except.mapM_perm h hperm.symm
  refine ⟨_, found', ⟨hperm, hbefore⟩, hfound', sortBy_eq_of_strict (hsame.symm.map _) ?_⟩
  rw [List.pairwise_map]
  exact (Except.mapM_eq_ok.mp hfound').pairwise (fun a b x y hab hx hy => hkey a b x y hab hx hy)
    hbefore

/-! ## Rows and what they give -/

variable {row : SqlRow Cell}

theorem readTableKind_ref {entry : String × LegacySqlRelationKind}
    (h : readTableKind reading row = .ok entry) : row.tableRef reading = .ok entry.1 := by
  unfold readTableKind at h
  obtain ⟨relationKind, -, h⟩ := Except.bind_eq_ok.mp h
  obtain ⟨tableRef, href, h⟩ := Except.bind_eq_ok.mp h
  cases h
  exact href

theorem readColumn_spec {column : String × LegacySqlColumnMetadata}
    (h : readColumn reading row = .ok column) : row.tableRef reading = .ok column.1 ∧
      row.int reading "ordinal_position" = .ok column.2.ordinalPosition := by
  unfold readColumn at h
  simp only [Except.bind_eq_ok] at h
  obtain ⟨tableRef, href, name, -, ordinal, hordinal, _, -, _, -, _, -, _, -, _, -, _, -, _, -,
    made, hmade, h⟩ := h
  cases h
  unfold LegacySqlColumnMetadata.make at hmade
  split at hmade
  · cases hmade
    exact ⟨href, hordinal⟩
  · cases hmade

theorem readKeyColumn_spec {column : String × Int × String}
    (h : readKeyColumn reading row = .ok column) : row.tableRef reading = .ok column.1 ∧
      row.int reading "ordinal_position" = .ok column.2.1 ∧
      row.text reading "column_name" = .ok column.2.2 := by
  unfold readKeyColumn at h
  obtain ⟨tableRef, href, h⟩ := Except.bind_eq_ok.mp h
  obtain ⟨ordinal, hordinal, h⟩ := Except.bind_eq_ok.mp h
  obtain ⟨name, hname, h⟩ := Except.bind_eq_ok.mp h
  cases h
  exact ⟨href, hordinal, hname⟩

theorem readRowCount_ref {count : String × Int} (h : readRowCount reading row = .ok count) :
    row.tableRef reading = .ok count.1 := by
  unfold readRowCount at h
  obtain ⟨tableRef, href, h⟩ := Except.bind_eq_ok.mp h
  obtain ⟨value, -, h⟩ := Except.bind_eq_ok.mp h
  cases h
  exact href

theorem readConstraintRow_eq_ok {nameKey tableRef name : String} :
    readConstraintRow reading nameKey row = .ok ((tableRef, name), row) ↔
      row.tableRef reading = .ok tableRef ∧ row.text reading nameKey = .ok name := by
  unfold readConstraintRow
  rw [Except.bind_eq_ok]
  constructor
  · rintro ⟨ref, href, h⟩
    obtain ⟨name', hname, h⟩ := Except.bind_eq_ok.mp h
    cases h
    exact ⟨href, hname⟩
  · rintro ⟨href, hname⟩
    exact ⟨tableRef, href, Except.bind_eq_ok.mpr ⟨name, hname, rfl⟩⟩

/-- The group of a table's text and a name. -/
theorem filter_inGroup {nameKey : String} (tableRef name : String) :
    rows.filter (inGroup reading nameKey (tableRef, name)) =
      (rows.filter (·.isUnder reading tableRef)).filter (·.isNamed reading nameKey name) := by
  rw [List.filter_filter]
  refine List.filter_congr fun row _ => ?_
  rw [Bool.eq_iff_iff, inGroup_iff, readConstraintRow_eq_ok, Bool.and_eq_true,
    SqlRow.isUnder_iff, SqlRow.isNamed_iff, and_comm]

/-! ## Constraints -/

variable {C : Type} {kind : ConstraintKind Cell C} {constraints : List (String × C)}

/-- The constraints under a text are made of the rows under it. -/
theorem madeOf_under
    (h : readConstraints reading kind.nameKey kind.ofOrdered rows = .ok constraints)
    (tableRef : String) (hdistinct : ∀ name, DistinctOrdinals reading
      ((rows.filter (·.isUnder reading tableRef)).filter (·.isNamed reading kind.nameKey name))) :
    kind.MadeOf reading (rows.filter (·.isUnder reading tableRef))
      (Dict.valuesOf tableRef constraints) := by
  obtain ⟨names, hnodup, hmem, hmade⟩ := readConstraints_under h tableRef
  refine ⟨names, hnodup, fun name => ?_, hmade.imp ?_⟩
  · rw [hmem]
    constructor
    · rintro ⟨row, hrow, hgroup⟩
      obtain ⟨href, hname⟩ := readConstraintRow_eq_ok.mp (inGroup_iff.mp hgroup)
      exact ⟨row, List.mem_filter.mpr ⟨hrow, SqlRow.isUnder_iff.mpr href⟩,
        SqlRow.isNamed_iff.mpr hname⟩
    · rintro ⟨row, hrow, hname⟩
      obtain ⟨hrow, href⟩ := List.mem_filter.mp hrow
      exact ⟨row, hrow, inGroup_iff.mpr (readConstraintRow_eq_ok.mpr
        ⟨SqlRow.isUnder_iff.mp href, SqlRow.isNamed_iff.mp hname⟩)⟩
  · rintro name constraint ⟨ordered, hordered, hconstraint⟩
    rw [filter_inGroup] at hordered
    exact ⟨ordered, orderedRows_inOrder (hdistinct name) hordered, hconstraint⟩

/-- If the constraints under a table's text are made of the table's own rows, no other row stands
under it: each constraint has as many columns as rows. -/
theorem names_of_madeOf
    (h : readConstraints reading kind.nameKey kind.ofOrdered rows = .ok constraints)
    {names : String × String} (hmade : kind.MadeOf reading
      (rows.filter (·.isAbout reading names)) (Dict.valuesOf (SqlRow.refOf names) constraints))
    (hrow : row ∈ rows) (href : row.tableRef reading = .ok (SqlRow.refOf names)) :
    row.tableNames reading = .ok names := by
  obtain ⟨keyNames, -, hmem, hunder⟩ := readConstraints_under h (SqlRow.refOf names)
  obtain ⟨ownNames, -, -, hown⟩ := hmade
  -- the row has a name, or the constraints could not be made
  have hnamed : ∃ name, row.text reading kind.nameKey = .ok name := by
    unfold readConstraints at h
    obtain ⟨grouped, hgrouped, -⟩ := Except.bind_eq_ok.mp h
    obtain ⟨⟨⟨ref, name⟩, row'⟩, hread⟩ := Except.isOk_of_mapM hgrouped row hrow
    have hsame : row' = row := readConstraintRow_snd hread
    subst hsame
    exact ⟨name, (readConstraintRow_eq_ok.mp hread).2⟩
  obtain ⟨name, hname⟩ := hnamed
  have hgroup : inGroup reading kind.nameKey (SqlRow.refOf names, name) row = true :=
    inGroup_iff.mpr (readConstraintRow_eq_ok.mpr ⟨href, hname⟩)
  obtain ⟨constraint, hconstraint, hof⟩ :=
    hunder.exists_of_mem_left ((hmem name).mpr ⟨row, hrow, hgroup⟩)
  obtain ⟨name', -, ordered, ⟨hordered, -⟩, hmade⟩ := hown.exists_of_mem_right hconstraint
  -- the constraint has one name and one number of columns
  obtain ⟨hname₁, hlength₁⟩ := hof.keeps
  obtain ⟨hname₂, hlength₂⟩ := kind.keeps _ _ _ hmade
  rw [hname₁] at hname₂
  subst hname₂
  rw [filter_inGroup] at hlength₁
  have hcount := hordered.length_eq.symm.trans (hlength₂.symm.trans hlength₁)
  rw [List.filter_filter, List.filter_filter] at hcount
  have hboth := List.of_length_filter_eq (fun other hother => by
    rw [Bool.and_eq_true] at hother ⊢
    exact ⟨hother.1, SqlRow.isUnder_of_isAbout hother.2⟩) hcount hrow (by
      rw [Bool.and_eq_true, SqlRow.isNamed_iff, SqlRow.isUnder_iff]
      exact ⟨hname, href⟩)
  rw [Bool.and_eq_true, SqlRow.isAbout_iff] at hboth
  exact hboth.2

/-! ## Tables and entries -/

namespace SnapshotReads

variable {reads : SnapshotReads} {snapshot : LegacySqlSchemaSnapshot}

theorem mem_entries {entry : String × LegacySqlRelationKind} : entry ∈ reads.entries ↔
    (Dict.valuesOf entry.1 reads.kinds).getLast? = some entry.2 := by
  unfold entries
  rw [Dict.mem_items_sorted, Dict.mem_items, Dict.get?_ofPairs]

theorem entries_nodup (reads : SnapshotReads) : (reads.entries.map Prod.fst).Nodup :=
  (Dict.ofPairs reads.kinds).sorted.nodup

theorem kind_unique {tableRef : String} {kind kind' : LegacySqlRelationKind}
    (h : (tableRef, kind) ∈ reads.entries) (h' : (tableRef, kind') ∈ reads.entries) :
    kind = kind' := by
  rw [mem_entries] at h h'
  rw [h] at h'
  exact Option.some.inj h'

theorem tableFields_names (entry : String × LegacySqlRelationKind) :
    (reads.tableFields entry).names = splitRef entry.1 := rfl

end SnapshotReads

/-- There is an entry for the text of each row of the tables. -/
theorem ReadsOf.mem_refs {rows : RowsByQuery Cell} {reads : SnapshotReads}
    (hreads : ReadsOf reading rows reads) {tableRef : String} :
    (∃ kind, (tableRef, kind) ∈ reads.entries) ↔
      ∃ row ∈ rows.tables, row.tableRef reading = .ok tableRef := by
  simp only [SnapshotReads.mem_entries]
  rw [← Option.isSome_iff_exists, List.getLast?_isSome]
  constructor
  · intro hne
    obtain ⟨kind, hkind⟩ := List.exists_mem_of_ne_nil _ hne
    obtain ⟨row, hrow, hread⟩ := Except.mem_of_mem_mapM hreads.kinds (Dict.mem_valuesOf.mp hkind)
    exact ⟨row, hrow, readTableKind_ref hread⟩
  · rintro ⟨row, hrow, href⟩
    obtain ⟨⟨ref, kind⟩, hentry, hread⟩ := Except.mem_mapM_of_mem hreads.kinds hrow
    rw [readTableKind_ref hread] at href
    cases href
    exact List.ne_nil_of_mem (Dict.mem_valuesOf.mpr hentry)

/-- The snapshot's tables are made of what is read. -/
structure BuiltOf (reading : CellReading Cell) (rows : RowsByQuery Cell) (reads : SnapshotReads)
    (snapshot : LegacySqlSchemaSnapshot) : Prop extends ReadsOf reading rows reads where
  tables : snapshot.tables.map (·.toLegacySqlTableMetadataFields) =
    reads.entries.map reads.tableFields

namespace BuiltOf

variable {rows : RowsByQuery Cell} {reads : SnapshotReads} {snapshot : LegacySqlSchemaSnapshot}

theorem table_of_entry (h : BuiltOf reading rows reads snapshot)
    {entry : String × LegacySqlRelationKind} (hentry : entry ∈ reads.entries) :
    ∃ table ∈ snapshot.tables,
      table.toLegacySqlTableMetadataFields = reads.tableFields entry := by
  have hmem := List.mem_map_of_mem (f := reads.tableFields) hentry
  rw [← h.tables] at hmem
  exact List.mem_map.mp hmem

theorem entry_of_table (h : BuiltOf reading rows reads snapshot) {table : LegacySqlTableMetadata}
    (htable : table ∈ snapshot.tables) : ∃ entry ∈ reads.entries,
      table.toLegacySqlTableMetadataFields = reads.tableFields entry := by
  have hmem := List.mem_map_of_mem (f := (·.toLegacySqlTableMetadataFields)) htable
  rw [h.tables] at hmem
  obtain ⟨entry, hentry, hfields⟩ := List.mem_map.mp hmem
  exact ⟨entry, hentry, hfields.symm⟩

/-- A row of the tables has an entry, and a table under its text. -/
theorem table_of_row (h : BuiltOf reading rows reads snapshot) {row : SqlRow Cell}
    (hrow : row ∈ rows.tables) {names : String × String}
    (hnames : row.tableNames reading = .ok names) :
    ∃ kind, (SqlRow.refOf names, kind) ∈ reads.entries ∧ ∃ table ∈ snapshot.tables,
      table.toLegacySqlTableMetadataFields = reads.tableFields (SqlRow.refOf names, kind) := by
  obtain ⟨kind, hkind⟩ := h.mem_refs.mpr ⟨row, hrow, SqlRow.tableRef_of_names hnames⟩
  exact ⟨kind, hkind, h.table_of_entry hkind⟩

/-- An entry stands for a row of the tables. -/
theorem row_of_entry (h : BuiltOf reading rows reads snapshot)
    {entry : String × LegacySqlRelationKind} (hentry : entry ∈ reads.entries) :
    ∃ row ∈ rows.tables, ∃ names, row.tableNames reading = .ok names ∧
      SqlRow.refOf names = entry.1 := by
  obtain ⟨row, hrow, href⟩ := h.mem_refs.mp ⟨entry.2, hentry⟩
  obtain ⟨names, hnames, hsame⟩ := SqlRow.tableRef_eq_ok.mp href
  exact ⟨row, hrow, names, hnames, hsame⟩

theorem names_tables (h : BuiltOf reading rows reads snapshot) :
    snapshot.tables.map (·.names) = reads.entries.map fun entry => splitRef entry.1 := by
  have hnames := congrArg (List.map LegacySqlTableMetadataFields.names) h.tables
  rw [List.map_map, List.map_map] at hnames
  exact hnames

/-- The names under which an entry's table stands give its text again. -/
theorem refOf_names (h : BuiltOf reading rows reads snapshot)
    {entry : String × LegacySqlRelationKind} (hentry : entry ∈ reads.entries) :
    SqlRow.refOf (splitRef entry.1) = entry.1 := by
  obtain ⟨-, -, names, -, hsame⟩ := h.row_of_entry hentry
  rw [← hsame]
  exact refOf_splitRef names

theorem once (h : BuiltOf reading rows reads snapshot) :
    (snapshot.tables.map (·.names)).Nodup := by
  rw [h.names_tables, List.nodup_iff_pairwise_ne, List.pairwise_map]
  refine (List.Pairwise.and_mem.mp (List.pairwise_map.mp reads.entries_nodup)).imp ?_
  rintro entry entry' ⟨hentry, hentry', hne⟩ hsame
  refine hne ?_
  rw [← h.refOf_names hentry, hsame, h.refOf_names hentry']

end BuiltOf

/-! ## Faithful -/

section

variable {rows : RowsByQuery Cell} {reads : SnapshotReads} {snapshot : LegacySqlSchemaSnapshot}

theorem primaryKey_ordered {rows : List (SqlRow Cell)} {found : List (String × Int × String)}
    (hdistinct : DistinctOrdinals reading rows)
    (h : rows.mapM (readKeyColumn reading) = .ok found) :
    ∃ ordered, InOrder reading rows ordered ∧
      ordered.mapM (·.text reading "column_name") = .ok (primaryKeyOf (found.map Prod.snd)) := by
  obtain ⟨ordered, found', horder, hfound', hsorted⟩ := ordered_reads
    (fun column : Int × String => (toLex column : ℤ ×ₗ String))
    (fun row found hread => ⟨_, (readKeyColumn_spec hread).2.1⟩)
    (fun a b x y hab hx hy => by
      obtain ⟨i, j, hi, hj, hlt⟩ := hab
      rw [(readKeyColumn_spec hx).2.1] at hi
      rw [(readKeyColumn_spec hy).2.1] at hj
      cases hi
      cases hj
      exact Prod.Lex.toLex_lt_toLex.mpr (.inl hlt)) hdistinct h
  refine ⟨ordered, horder, ?_⟩
  rw [primaryKeyOf, hsorted, Except.mapM_eq_ok, List.forall₂_map_right_iff,
    List.forall₂_map_right_iff]
  exact (Except.mapM_eq_ok.mp hfound').imp fun _ _ hread => (readKeyColumn_spec hread).2.2

theorem columns_ordered {rows : List (SqlRow Cell)}
    {found : List (String × LegacySqlColumnMetadata)} (hdistinct : DistinctOrdinals reading rows)
    (h : rows.mapM (readColumn reading) = .ok found) :
    ∃ ordered found', InOrder reading rows ordered ∧
      ordered.mapM (readColumn reading) = .ok found' ∧
      sortBy (·.ordinalPosition) (found.map Prod.snd) = found'.map Prod.snd := by
  refine ordered_reads _ (fun row found hread => ⟨_, (readColumn_spec hread).2⟩)
    (fun a b x y hab hx hy => ?_) hdistinct h
  obtain ⟨i, j, hi, hj, hlt⟩ := hab
  rw [(readColumn_spec hx).2] at hi
  rw [(readColumn_spec hy).2] at hj
  cases hi
  cases hj
  exact hlt

/-- A table of an entry whose rows are its own is faithful. -/
theorem tableIsFaithful (h : BuiltOf reading rows reads snapshot)
    (hdistinct : OrdinalsDistinct reading rows) (hunambiguous : Unambiguous reading rows)
    {row : SqlRow Cell} (hrow : row ∈ rows.tables) {names : String × String}
    (hnames : row.tableNames reading = .ok names) {kind : LegacySqlRelationKind}
    {table : LegacySqlTableMetadata}
    (htable : table.toLegacySqlTableMetadataFields =
      reads.tableFields (SqlRow.refOf names, kind)) : TableIsFaithful reading rows table := by
  -- the text of an undotted schema is split into the row's own names
  have hsame : table.names = names := by
    rw [htable, SnapshotReads.tableFields_names,
      splitRef_refOf (hunambiguous.undotted _ hrow _ hnames)]
  refine ⟨?_, ?_, ?_, ?_⟩
  · obtain ⟨under, hunder, hvalues⟩ := mapM_under (fun _ _ hread => (readColumn_spec hread).1)
      h.columns (SqlRow.refOf names)
    -- under the table's text stand its own rows only
    rw [filter_isUnder hunambiguous.columns hrow hnames] at hunder
    obtain ⟨ordered, found, horder, hfound, hsorted⟩ :=
      columns_ordered (hdistinct.columns names) hunder
    rw [hsame, htable]
    refine ⟨ordered, found, horder, hfound, ?_⟩
    rw [← hsorted, hvalues]
    rfl
  · obtain ⟨under, hunder, hvalues⟩ := mapM_under (fun _ _ hread => (readKeyColumn_spec hread).1)
      h.keyColumns (SqlRow.refOf names)
    rw [filter_isUnder hunambiguous.primaryKeys hrow hnames] at hunder
    obtain ⟨ordered, horder, hfound⟩ := primaryKey_ordered (hdistinct.primaryKeys names) hunder
    rw [hsame, htable]
    refine ⟨ordered, horder, ?_⟩
    rw [hfound, hvalues]
    rfl
  · have hmade := madeOf_under h.foreignKeys (SqlRow.refOf names) fun name => by
      rw [filter_isUnder hunambiguous.foreignKeys hrow hnames]
      exact hdistinct.foreignKeys names name
    rw [filter_isUnder hunambiguous.foreignKeys hrow hnames] at hmade
    rw [hsame, htable]
    exact hmade
  · have hmade := madeOf_under h.indexes (SqlRow.refOf names) fun name => by
      rw [filter_isUnder hunambiguous.indexes hrow hnames]
      exact hdistinct.indexes names name
    rw [filter_isUnder hunambiguous.indexes hrow hnames] at hmade
    rw [hsame, htable]
    exact hmade

theorem isFaithful_of_unambiguous (h : BuiltOf reading rows reads snapshot)
    (hdistinct : OrdinalsDistinct reading rows) (hunambiguous : Unambiguous reading rows) :
    IsFaithful reading rows snapshot := by
  refine ⟨h.once, fun names => ?_, fun table htable => ?_⟩
  · rw [h.names_tables, List.mem_map]
    constructor
    · rintro ⟨entry, hentry, rfl⟩
      obtain ⟨row, hrow, names, hnames, hsame⟩ := h.row_of_entry hentry
      refine ⟨row, hrow, SqlRow.isAbout_iff.mpr ?_⟩
      rw [← hsame, splitRef_refOf (hunambiguous.undotted row hrow names hnames), hnames]
    · rintro ⟨row, hrow, habout⟩
      have hnames := SqlRow.isAbout_iff.mp habout
      obtain ⟨kind, hentry, -⟩ := h.table_of_row hrow hnames
      exact ⟨_, hentry, splitRef_refOf (hunambiguous.undotted row hrow names hnames)⟩
  · obtain ⟨⟨tableRef, kind⟩, hentry, hfields⟩ := h.entry_of_table htable
    obtain ⟨row, hrow, names, hnames, hsame⟩ := h.row_of_entry hentry
    dsimp only at hsame
    subst hsame
    exact tableIsFaithful h hdistinct hunambiguous hrow hnames hfields

end

/-! ## Stable -/

/-- The checks of a table do not depend on the order of its foreign keys and indexes. -/
theorem LegacySqlTableMetadataFields.validate_perm {table : LegacySqlTableMetadataFields}
    {foreignKeys : List LegacySqlForeignKeyMetadata} {indexes : List LegacySqlIndexMetadata}
    (hforeign : table.foreignKeys.Perm foreignKeys) (hindexes : table.indexes.Perm indexes)
    (h : table.validate = .ok ()) :
    LegacySqlTableMetadataFields.validate { table with foreignKeys, indexes } = .ok () := by
  unfold validate at h ⊢
  obtain ⟨fields, haccept, hcolumns⟩ := Except.bind_eq_ok.mp h
  obtain ⟨herrors, rfl⟩ := accept_eq_ok.mp haccept
  refine Except.bind_eq_ok.mpr ⟨_, accept_eq_ok.mpr ⟨herrors, rfl⟩, ?_⟩
  unfold requireReferencedColumnsExist at hcolumns ⊢
  rw [hforeign.all_eq, hindexes.all_eq] at hcolumns
  exact hcolumns

section

variable {rows rows' : RowsByQuery Cell} {reads reads' : SnapshotReads}
  {snapshot : LegacySqlSchemaSnapshot} {connectionFingerprintHash inspectedAtUtc : String}

/-- What is read of the same rows in another order. -/
structure SameReads (rows : RowsByQuery Cell) (reading : CellReading Cell)
    (reads reads' : SnapshotReads) : Prop where
  kinds       : reads.kinds.Perm reads'.kinds
  columns     : reads.columns.Perm reads'.columns
  keyColumns  : reads.keyColumns.Perm reads'.keyColumns
  rowCounts   : reads.rowCounts.Perm reads'.rowCounts
  foreignKeys : ∀ tableRef, (∀ name, DistinctOrdinals reading
      (rows.foreignKeys.filter (inGroup reading "foreign_key_name" (tableRef, name)))) →
    (Dict.valuesOf tableRef reads.foreignKeys).Perm (Dict.valuesOf tableRef reads'.foreignKeys)
  indexes     : ∀ tableRef, (∀ name, DistinctOrdinals reading
      (rows.indexes.filter (inGroup reading "index_name" (tableRef, name)))) →
    (Dict.valuesOf tableRef reads.indexes).Perm (Dict.valuesOf tableRef reads'.indexes)

theorem ReadsOf.perm (hreads : ReadsOf reading rows reads) (hperm : rows.Perm rows')
    (hkeys : (foreignKeyKind reading).FirstRowsUsable reading rows.foreignKeys)
    (hindexes : (indexKind reading).FirstRowsUsable reading rows.indexes) :
    ∃ reads', ReadsOf reading rows' reads' ∧ SameReads rows reading reads reads' := by
  obtain ⟨kinds, hkinds, hkindsPerm⟩ := Except.mapM_perm hreads.kinds hperm.tables
  obtain ⟨columns, hcolumns, hcolumnsPerm⟩ := Except.mapM_perm hreads.columns hperm.columns
  obtain ⟨keyColumns, hkey, hkeyPerm⟩ := Except.mapM_perm hreads.keyColumns hperm.primaryKeys
  obtain ⟨rowCounts, hcounts, hcountsPerm⟩ := Except.mapM_perm hreads.rowCounts hperm.rowCounts
  obtain ⟨foreignKeys, hforeign, hforeignPerm⟩ :=
    readConstraints_perm hperm.foreignKeys hkeys hreads.foreignKeys
  obtain ⟨indexes, hindex, hindexPerm⟩ :=
    readConstraints_perm hperm.indexes hindexes hreads.indexes
  exact ⟨⟨kinds, columns, keyColumns, foreignKeys, indexes, rowCounts⟩,
    ⟨hkinds, hcolumns, hkey, hforeign, hindex, hcounts⟩,
    hkindsPerm, hcolumnsPerm, hkeyPerm, hcountsPerm, hforeignPerm, hindexPerm⟩

/-- Rows that agree on the kinds give the same entries in any order. -/
theorem entries_perm (hreads : ReadsOf reading rows reads)
    (hunambiguous : Unambiguous reading rows) (hsame : reads.kinds.Perm reads'.kinds) :
    reads.entries = reads'.entries := by
  refine Dict.sorted_items_congr fun tableRef => ?_
  rw [Dict.get?_ofPairs, Dict.get?_ofPairs]
  refine (Dict.valuesOf_perm hsame).getLast?_eq fun kind hkind kind' hkind' => ?_
  obtain ⟨row, hrow, hread⟩ := Except.mem_of_mem_mapM hreads.kinds (Dict.mem_valuesOf.mp hkind)
  obtain ⟨row', hrow', hread'⟩ := Except.mem_of_mem_mapM hreads.kinds (Dict.mem_valuesOf.mp hkind')
  have hagree := hunambiguous.kinds row hrow row' hrow'
    ((readTableKind_ref hread).trans (readTableKind_ref hread').symm)
  rw [hread, hread'] at hagree
  cases hagree
  rfl

/-- Rows that agree on the row counts of a table give it the same one in any order. -/
theorem rowCount_perm (hreads : ReadsOf reading rows reads)
    (hunambiguous : Unambiguous reading rows) (hsame : reads.rowCounts.Perm reads'.rowCounts)
    {tableRow : SqlRow Cell} (htable : tableRow ∈ rows.tables) {tableRef : String}
    (href : tableRow.tableRef reading = .ok tableRef) :
    (Dict.valuesOf tableRef reads.rowCounts).getLast? =
      (Dict.valuesOf tableRef reads'.rowCounts).getLast? := by
  refine (Dict.valuesOf_perm hsame).getLast?_eq fun count hcount count' hcount' => ?_
  obtain ⟨row, hrow, hread⟩ :=
    Except.mem_of_mem_mapM hreads.rowCounts (Dict.mem_valuesOf.mp hcount)
  obtain ⟨row', hrow', hread'⟩ :=
    Except.mem_of_mem_mapM hreads.rowCounts (Dict.mem_valuesOf.mp hcount')
  have hagree := hunambiguous.rowCounts tableRow htable row hrow row' hrow'
    ((readRowCount_ref hread).trans href.symm) ((readRowCount_ref hread').trans href.symm)
  rw [hread, hread'] at hagree
  cases hagree
  rfl

theorem primaryKeyOf_perm {columns columns' : List (Int × String)} (h : columns.Perm columns') :
    primaryKeyOf columns = primaryKeyOf columns' := by
  unfold primaryKeyOf
  rw [sortBy_congr_of_injective (fun _ _ hsame => toLex.injective hsame) h]

/-- The groups of a table's text have distinct ordinals, if its own rows do. -/
theorem distinct_inGroup {rows : List (SqlRow Cell)} {nameKey : String}
    (hown : OwnRows reading tables rows) {tableRow : SqlRow Cell} (htable : tableRow ∈ tables)
    {names : String × String} (hnames : tableRow.tableNames reading = .ok names)
    (hdistinct : ∀ name, DistinctOrdinals reading
      ((rows.filter (·.isAbout reading names)).filter (·.isNamed reading nameKey name)))
    (name : String) : DistinctOrdinals reading
      (rows.filter (inGroup reading nameKey (SqlRow.refOf names, name))) := by
  rw [filter_inGroup, filter_isUnder hown htable hnames]
  exact hdistinct name

/-- The table of an entry, made of the rows in another order. -/
theorem table_perm (h : BuiltOf reading rows reads snapshot)
    (hdistinct : OrdinalsDistinct reading rows) (hunambiguous : Unambiguous reading rows)
    (hsame : SameReads rows reading reads reads') {entry : String × LegacySqlRelationKind}
    (hentry : entry ∈ reads.entries) {table : LegacySqlTableMetadata}
    (htable : table.toLegacySqlTableMetadataFields = reads.tableFields entry) :
    ∃ table' : LegacySqlTableMetadata, table.SameUpToOrder table' ∧
      table'.toLegacySqlTableMetadataFields = reads'.tableFields entry := by
  obtain ⟨row, hrow, names, hnames, href⟩ := h.row_of_entry hentry
  have hforeign : (Dict.valuesOf entry.1 reads.foreignKeys).Perm
      (Dict.valuesOf entry.1 reads'.foreignKeys) := by
    refine hsame.foreignKeys _ ?_
    rw [← href]
    exact distinct_inGroup hunambiguous.foreignKeys hrow hnames (hdistinct.foreignKeys names)
  have hindexes : (Dict.valuesOf entry.1 reads.indexes).Perm
      (Dict.valuesOf entry.1 reads'.indexes) := by
    refine hsame.indexes _ ?_
    rw [← href]
    exact distinct_inGroup hunambiguous.indexes hrow hnames (hdistinct.indexes names)
  have hcolumns : sortBy (·.ordinalPosition) (Dict.valuesOf entry.1 reads.columns) =
      sortBy (·.ordinalPosition) (Dict.valuesOf entry.1 reads'.columns) := by
    refine sortBy_congr ?_ (Dict.valuesOf_perm hsame.columns)
    -- the table was accepted, so that no two of its columns have one ordinal
    have haccepted := table.columns_accepted.2
    rw [htable, List.nodup_iff_pairwise_ne, List.pairwise_map] at haccepted
    exact (sortBy_perm _ _).pairwise haccepted fun hne => hne.symm
  have hkey := primaryKeyOf_perm (Dict.valuesOf_perm hsame.keyColumns (k := entry.1))
  have hcount := rowCount_perm h.toReadsOf hunambiguous hsame.rowCounts hrow
    ((SqlRow.tableRef_of_names hnames).trans (congrArg Except.ok href))
  have hfields : reads'.tableFields entry = { reads.tableFields entry with
      foreignKeys := Dict.valuesOf entry.1 reads'.foreignKeys
      indexes := Dict.valuesOf entry.1 reads'.indexes } := by
    unfold SnapshotReads.tableFields
    rw [hcolumns, hkey, hcount]
  have haccepted : (reads'.tableFields entry).validate = .ok () := by
    rw [hfields]
    exact LegacySqlTableMetadataFields.validate_perm hforeign hindexes (htable ▸ table.accepted)
  refine ⟨⟨_, haccepted⟩, ?_, rfl⟩
  constructor
  · rw [htable]
    rfl
  · rw [htable]
    rfl
  · rw [htable]
    exact hcount
  · rw [htable]
    exact hcolumns
  · rw [htable]
    exact hkey
  · rw [htable]
    exact hforeign
  · rw [htable]
    exact hindexes
  · rw [htable]
    rfl

/-- Tables with the same names make a snapshot where the others do. -/
theorem snapshot_errors_congr {tables tables' : List LegacySqlTableMetadata}
    (hsame : List.Forall₂ LegacySqlTableMetadata.SameUpToOrder tables tables')
    (h : LegacySqlSchemaSnapshotFields.errors
      { connectionFingerprintHash, inspectedAtUtc, tables } = []) :
    LegacySqlSchemaSnapshotFields.errors
      { connectionFingerprintHash, inspectedAtUtc, tables := tables' } = [] := by
  have hrefs : tables.map (·.tableRef.toLower) = tables'.map (·.tableRef.toLower) := by
    rw [← List.forall₂_eq_eq_eq, List.forall₂_map_left_iff, List.forall₂_map_right_iff]
    refine hsame.imp fun table table' htable => ?_
    obtain ⟨hschema, hname⟩ := Prod.ext_iff.mp htable.names
    have hschema' : table.schemaName = table'.schemaName := hschema
    have hname' : table.tableName = table'.tableName := hname
    rw [LegacySqlTableMetadataFields.tableRef, LegacySqlTableMetadataFields.tableRef, hschema',
      hname']
  unfold LegacySqlSchemaSnapshotFields.errors at h ⊢
  rw [List.append_eq_nil_iff, LegacySqlSchemaSnapshotFields.requireUniqueTables_eq_nil] at h ⊢
  obtain ⟨hhash, hne, hunique⟩ := h
  refine ⟨hhash, ?_, hrefs ▸ hunique⟩
  rintro rfl
  rw [List.forall₂_nil_right_iff] at hsame
  exact hne hsame

theorem isStable_of_unambiguous (h : BuiltOf reading rows reads snapshot)
    (hhash : snapshot.connectionFingerprintHash = connectionFingerprintHash)
    (htime : snapshot.inspectedAtUtc = inspectedAtUtc)
    (hdistinct : OrdinalsDistinct reading rows) (hunambiguous : Unambiguous reading rows) :
    IsStable reading connectionFingerprintHash inspectedAtUtc rows snapshot := by
  intro rows' hperm
  obtain ⟨reads', hreads', hsame⟩ := h.toReadsOf.perm hperm hunambiguous.firstOfKeys
    hunambiguous.firstOfIndexes
  have hentries := entries_perm h.toReadsOf hunambiguous hsame.kinds
  -- the tables come from the entries, one from each and in their order
  have htables : List.Forall₂ (fun table entry => entry ∈ reads.entries ∧
      table.toLegacySqlTableMetadataFields = reads.tableFields entry)
      snapshot.tables reads.entries := by
    have hfields := h.tables
    rw [← List.forall₂_eq_eq_eq, List.forall₂_map_left_iff, List.forall₂_map_right_iff] at hfields
    refine ((List.forall₂_and_left _ _).mpr ⟨fun _ hentry => hentry, hfields.flip⟩).flip
  -- so a snapshot of the other order is made from the same entries, table by table
  obtain ⟨tables', hboth, hmade⟩ := htables.exists_between
    (S := LegacySqlTableMetadata.SameUpToOrder)
    (T := fun table' entry => table'.toLegacySqlTableMetadataFields = reads'.tableFields entry)
    fun table entry hfields => table_perm h hdistinct hunambiguous hsame hfields.1 hfields.2
  have haccepted : LegacySqlSchemaSnapshotFields.errors
      { connectionFingerprintHash, inspectedAtUtc, tables := tables' } = [] :=
    snapshot_errors_congr hboth (by
      rw [← hhash, ← htime]
      exact snapshot.accepted)
  refine ⟨⟨_, haccepted⟩, buildSnapshot_eq_ok.mpr ⟨reads', hreads', rfl, rfl, ?_⟩,
    hhash, htime, hboth⟩
  rw [← hentries, ← List.forall₂_eq_eq_eq, List.forall₂_map_left_iff, List.forall₂_map_right_iff]
  exact hmade

end

end Collabio
