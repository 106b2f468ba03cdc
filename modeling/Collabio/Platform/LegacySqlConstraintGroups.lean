import Mathlib.Tactic
import Collabio.Platform.LegacySqlSnapshotRows

/-!
# Constraints and their rows

A foreign key or an index is made of the rows of one group, in the order of their ordinals; the
first row says more than the others.

* `orderedRows_inOrder`, `orderedRows_congr` — rows in order, and what their order does not
  depend on;
* `ConstraintKind`         — what foreign keys and indexes have in common;
* `readConstraints_under`  — the constraints of one table;
* `readConstraints_perm`   — the same rows in another order.
-/

namespace Collabio

variable {Cell : Type} (reading : CellReading Cell)

/-! ## Rows in order -/

/-- The first row's ordinal is at most the second's. -/
def SqlRow.AtMost (a b : SqlRow Cell) : Prop :=
  ∃ i j, a.int reading "ordinal_position" = .ok i ∧ b.int reading "ordinal_position" = .ok j ∧ i ≤ j

/-- The first row's ordinal is less than the second's. -/
def SqlRow.Before (a b : SqlRow Cell) : Prop :=
  ∃ i j, a.int reading "ordinal_position" = .ok i ∧ b.int reading "ordinal_position" = .ok j ∧ i < j

/-- Rows of which no two have the same ordinal. -/
def DistinctOrdinals (rows : List (SqlRow Cell)) : Prop :=
  rows.Pairwise fun a b => a.int reading "ordinal_position" ≠ b.int reading "ordinal_position"

/-- The same rows, by rising ordinals. -/
def InOrder (rows ordered : List (SqlRow Cell)) : Prop :=
  ordered.Perm rows ∧ ordered.Pairwise (SqlRow.Before reading)

variable {reading} {rows rows' ordered : List (SqlRow Cell)}

theorem readOrdinal_eq_ok {row : SqlRow Cell} {found : Int × SqlRow Cell} :
    readOrdinal reading row = .ok found ↔
      row.int reading "ordinal_position" = .ok found.1 ∧ found.2 = row := by
  obtain ⟨i, row'⟩ := found
  unfold readOrdinal
  rw [Except.bind_eq_ok]
  constructor
  · rintro ⟨j, hj, h⟩
    cases h
    exact ⟨hj, rfl⟩
  · rintro ⟨hi, rfl⟩
    exact ⟨i, hi, rfl⟩

theorem orderedRows_eq_ok : orderedRows reading rows = .ok ordered ↔
    ∃ ordinals, rows.mapM (readOrdinal reading) = .ok ordinals ∧
      ordered = (sortBy Prod.fst ordinals).map Prod.snd := by
  unfold orderedRows
  rw [Except.bind_eq_ok]
  refine exists_congr fun ordinals => and_congr_right fun _ => ?_
  constructor
  · intro h
    cases h
    rfl
  · rintro rfl
    rfl

theorem snd_of_readOrdinals {ordinals : List (Int × SqlRow Cell)}
    (h : rows.mapM (readOrdinal reading) = .ok ordinals) : ordinals.map Prod.snd = rows := by
  rw [Except.mapM_eq_ok] at h
  induction h with
  | nil => rfl
  | cons hrow _ ih => rw [List.map_cons, ih, (readOrdinal_eq_ok.mp hrow).2]

theorem int_of_readOrdinals {ordinals : List (Int × SqlRow Cell)}
    (h : rows.mapM (readOrdinal reading) = .ok ordinals) :
    ∀ found ∈ ordinals, found.2.int reading "ordinal_position" = .ok found.1 := by
  intro found hfound
  obtain ⟨row, -, hrow⟩ := Except.mem_of_mem_mapM h hfound
  obtain ⟨hint, hsame⟩ := readOrdinal_eq_ok.mp hrow
  rw [hsame, hint]

theorem orderedRows_perm (h : orderedRows reading rows = .ok ordered) : ordered.Perm rows := by
  obtain ⟨ordinals, hordinals, rfl⟩ := orderedRows_eq_ok.mp h
  have hperm := (sortBy_perm Prod.fst ordinals).map Prod.snd
  rwa [snd_of_readOrdinals hordinals] at hperm

theorem orderedRows_atMost (h : orderedRows reading rows = .ok ordered) :
    ordered.Pairwise (SqlRow.AtMost reading) := by
  obtain ⟨ordinals, hordinals, rfl⟩ := orderedRows_eq_ok.mp h
  have hint := int_of_readOrdinals hordinals
  rw [List.pairwise_map]
  refine (List.Pairwise.and_mem.mp (sortBy_ordered Prod.fst ordinals)).imp ?_
  rintro found found' ⟨hmem, hmem', hle⟩
  exact ⟨_, _, hint _ ((sortBy_perm _ _).mem_iff.mp hmem),
    hint _ ((sortBy_perm _ _).mem_iff.mp hmem'), hle⟩

/-- Distinct ordinals rise strictly. -/
theorem orderedRows_inOrder (hdistinct : DistinctOrdinals reading rows)
    (h : orderedRows reading rows = .ok ordered) : InOrder reading rows ordered := by
  have hperm := orderedRows_perm h
  refine ⟨hperm, ?_⟩
  have hdistinct' : ordered.Pairwise fun a b =>
      a.int reading "ordinal_position" ≠ b.int reading "ordinal_position" :=
    hperm.symm.pairwise hdistinct fun hab => hab.symm
  refine (orderedRows_atMost h).imp₂ ?_ hdistinct'
  rintro a b ⟨i, j, hi, hj, hle⟩ hne
  refine ⟨i, j, hi, hj, lt_of_le_of_ne hle fun hsame => hne ?_⟩
  rw [hi, hj, hsame]

/-- Rows that can be put in order can be so in any order they come. -/
theorem orderedRows_isOk (hperm : rows.Perm rows') (h : orderedRows reading rows = .ok ordered) :
    ∃ ordered', orderedRows reading rows' = .ok ordered' := by
  obtain ⟨ordinals, hordinals, -⟩ := orderedRows_eq_ok.mp h
  obtain ⟨ordinals', hordinals', -⟩ := Except.mapM_perm hordinals hperm
  exact ⟨_, orderedRows_eq_ok.mpr ⟨ordinals', hordinals', rfl⟩⟩

theorem SqlRow.Before.not_symm {a b : SqlRow Cell} (h : a.Before reading b) :
    ¬ b.Before reading a := by
  obtain ⟨i, j, hi, hj, hlt⟩ := h
  rintro ⟨j', i', hj', hi', hlt'⟩
  rw [hi] at hi'
  rw [hj] at hj'
  cases hi'
  cases hj'
  omega

/-- With distinct ordinals, the order in which the rows come is forgotten. -/
theorem orderedRows_congr (hdistinct : DistinctOrdinals reading rows) (hperm : rows.Perm rows')
    (h : orderedRows reading rows = .ok ordered) : orderedRows reading rows' = .ok ordered := by
  obtain ⟨ordered', h'⟩ := orderedRows_isOk hperm h
  have hdistinct' : DistinctOrdinals reading rows' := hperm.pairwise hdistinct fun hab => hab.symm
  obtain ⟨hsame, hbefore⟩ := orderedRows_inOrder hdistinct h
  obtain ⟨hsame', hbefore'⟩ := orderedRows_inOrder hdistinct' h'
  rw [h', (hsame'.trans (hperm.symm.trans hsame.symm)).eq_of_pairwise
    (fun _ _ _ _ hab hba => absurd hba hab.not_symm) hbefore' hbefore]

/-- A row that no other one precedes stays in front: the sorting is stable. -/
theorem orderedRows_head {row : SqlRow Cell}
    (hfirst : ∀ other ∈ rows, row.AtMost reading other)
    (h : orderedRows reading (row :: rows) = .ok ordered) :
    ∃ rest, ordered = row :: rest := by
  obtain ⟨ordinals, hordinals, rfl⟩ := orderedRows_eq_ok.mp h
  rw [Except.mapM_eq_ok] at hordinals
  cases hordinals with
  | @cons _ found _ ordinals hrow hrest =>
    obtain ⟨hint, hsame⟩ := readOrdinal_eq_ok.mp hrow
    have hint' := int_of_readOrdinals (Except.mapM_eq_ok.mpr hrest)
    have hrows := snd_of_readOrdinals (Except.mapM_eq_ok.mpr hrest)
    have hleast : ∀ other ∈ ordinals, found.1 ≤ other.1 := by
      intro other hother
      obtain ⟨i, j, hi, hj, hle⟩ := hfirst other.2 (hrows ▸ List.mem_map_of_mem hother)
      rw [hint] at hi
      rw [hint' other hother] at hj
      cases hi
      cases hj
      exact hle
    refine ⟨(sortBy Prod.fst ordinals).map Prod.snd, ?_⟩
    rw [sortBy_cons_of_forall_le hleast, List.map_cons, hsame]

/-! ## Constraints -/

variable (Cell) in
/-- How constraints of a kind are made of their rows in order. -/
structure ConstraintKind (C : Type) where
  nameKey     : String
  ofOrdered   : String → List (SqlRow Cell) → Except LegacySqlExn C
  nameOf      : C → String
  columnsOf   : C → List String
  NameUsable  : String → Prop
  RowUsable   : SqlRow Cell → Prop
  FirstUsable : SqlRow Cell → Prop
  isOk        : ∀ name ordered, (∃ constraint, ofOrdered name ordered = .ok constraint) ↔
                  NameUsable name ∧ (∀ row ∈ ordered, RowUsable row) ∧
                    ∃ first ∈ ordered.head?, FirstUsable first
  keeps       : ∀ name ordered constraint, ofOrdered name ordered = .ok constraint →
                  nameOf constraint = name ∧ (columnsOf constraint).length = ordered.length

variable {C : Type} {kind : ConstraintKind Cell C}

variable (reading kind) in
/-- The constraint of a group: its rows are put in order, and it is made of them. -/
def ConstraintKind.IsOf (name : String) (rows : List (SqlRow Cell)) (constraint : C) : Prop :=
  ∃ ordered, orderedRows reading rows = .ok ordered ∧
    kind.ofOrdered name ordered = .ok constraint

variable (reading kind) in
/-- Every row that no other one of its group precedes can be the first. -/
def ConstraintKind.FirstRowsUsable (rows : List (SqlRow Cell)) : Prop :=
  ∀ row ∈ rows, ∀ key, readConstraintRow reading kind.nameKey row = .ok (key, row) →
    (∀ other ∈ rows, readConstraintRow reading kind.nameKey other = .ok (key, other) →
      row.AtMost reading other) → kind.FirstUsable row

theorem readConstraint_eq_ok {entry : (String × String) × List (SqlRow Cell)}
    {found : String × C} : readConstraint reading kind.ofOrdered entry = .ok found ↔
      found.1 = entry.1.1 ∧ kind.IsOf reading entry.1.2 entry.2 found.2 := by
  obtain ⟨tableRef, constraint⟩ := found
  unfold readConstraint ConstraintKind.IsOf
  rw [Except.bind_eq_ok]
  constructor
  · rintro ⟨ordered, hordered, h⟩
    obtain ⟨constraint', hconstraint, h⟩ := Except.bind_eq_ok.mp h
    cases h
    exact ⟨rfl, ordered, hordered, hconstraint⟩
  · rintro ⟨rfl, ordered, hordered, hconstraint⟩
    exact ⟨ordered, hordered, Except.bind_eq_ok.mpr ⟨constraint, hconstraint, rfl⟩⟩

theorem readConstraintRow_snd {nameKey : String} {row : SqlRow Cell}
    {found : (String × String) × SqlRow Cell}
    (h : readConstraintRow reading nameKey row = .ok found) : found.2 = row := by
  unfold readConstraintRow at h
  obtain ⟨tableRef, -, h⟩ := Except.bind_eq_ok.mp h
  obtain ⟨name, -, h⟩ := Except.bind_eq_ok.mp h
  cases h
  rfl

/-- The constraint of a group is determined by the group. -/
theorem ConstraintKind.IsOf.unique {name : String} {constraint constraint' : C}
    (h : kind.IsOf reading name rows constraint) (h' : kind.IsOf reading name rows constraint') :
    constraint = constraint' := by
  obtain ⟨ordered, hordered, hconstraint⟩ := h
  obtain ⟨ordered', hordered', hconstraint'⟩ := h'
  rw [hordered] at hordered'
  cases hordered'
  rw [hconstraint] at hconstraint'
  cases hconstraint'
  rfl

theorem ConstraintKind.IsOf.congr {name : String} {constraint : C}
    (hdistinct : DistinctOrdinals reading rows) (hperm : rows.Perm rows')
    (h : kind.IsOf reading name rows constraint) : kind.IsOf reading name rows' constraint := by
  obtain ⟨ordered, hordered, hconstraint⟩ := h
  exact ⟨ordered, orderedRows_congr hdistinct hperm hordered, hconstraint⟩

theorem ConstraintKind.IsOf.keeps {name : String} {constraint : C}
    (h : kind.IsOf reading name rows constraint) :
    kind.nameOf constraint = name ∧ (kind.columnsOf constraint).length = rows.length := by
  obtain ⟨ordered, hordered, hconstraint⟩ := h
  obtain ⟨hname, hlength⟩ := kind.keeps name ordered constraint hconstraint
  exact ⟨hname, hlength.trans (orderedRows_perm hordered).length_eq⟩

/-- A group in another order still makes a constraint, if whichever row comes first can. -/
theorem ConstraintKind.isOf_perm {name : String} {constraint : C} (hperm : rows.Perm rows')
    (hfirst : ∀ row ∈ rows', (∀ other ∈ rows', row.AtMost reading other) → kind.FirstUsable row)
    (h : kind.IsOf reading name rows constraint) :
    ∃ constraint', kind.IsOf reading name rows' constraint' := by
  obtain ⟨ordered, hordered, hconstraint⟩ := h
  obtain ⟨hname, hrows, first, hhead, -⟩ := (kind.isOk name ordered).mp ⟨constraint, hconstraint⟩
  obtain ⟨ordered', hordered'⟩ := orderedRows_isOk hperm hordered
  have hsame : ordered'.Perm ordered :=
    (orderedRows_perm hordered').trans (hperm.symm.trans (orderedRows_perm hordered).symm)
  -- rows that could be put in order before are put in order again, with another first row
  cases hcases : ordered' with
  | nil =>
    rw [hcases] at hsame
    rw [List.nil_perm.mp hsame] at hhead
    cases hhead
  | cons first' rest =>
    have hatMost := orderedRows_atMost hordered'
    have hmem := orderedRows_perm hordered'
    rw [hcases] at hatMost hmem hsame
    obtain ⟨hrest, -⟩ := List.pairwise_cons.mp hatMost
    have hleast : ∀ other ∈ rows', first'.AtMost reading other := by
      intro other hother
      rcases List.mem_cons.mp (hmem.mem_iff.mpr hother) with rfl | hother
      · -- its ordinal could be read, or it would not stand here
        obtain ⟨ordinals, hordinals, -⟩ := orderedRows_eq_ok.mp hordered'
        obtain ⟨found, hfound⟩ := Except.isOk_of_mapM hordinals _ hother
        have hint := (readOrdinal_eq_ok.mp hfound).1
        exact ⟨_, _, hint, hint, le_rfl⟩
      · exact hrest other hother
    have husable := hfirst first' (hmem.mem_iff.mp List.mem_cons_self) hleast
    -- the first row apart, nothing depends on the order
    have hrows' : ∀ row ∈ ordered', kind.RowUsable row := by
      intro row hrow
      rw [hcases] at hrow
      exact hrows row (hsame.mem_iff.mp hrow)
    have hhead' : first' ∈ ordered'.head? := by
      rw [hcases]
      rfl
    obtain ⟨constraint', hconstraint'⟩ := (kind.isOk name ordered').mpr
      ⟨hname, hrows', first', hhead', husable⟩
    exact ⟨constraint', ordered', hordered', hconstraint'⟩

/-! ## The constraints of a table -/

variable (reading) in
/-- The row belongs to the constraint of this table and name. -/
def inGroup (nameKey : String) (key : String × String) (row : SqlRow Cell) : Bool :=
  (readConstraintRow reading nameKey row).toOption.map Prod.fst = some key

theorem inGroup_iff {nameKey : String} {key : String × String} {row : SqlRow Cell} :
    inGroup reading nameKey key row = true ↔
      readConstraintRow reading nameKey row = .ok (key, row) := by
  unfold inGroup
  rw [decide_eq_true_eq]
  cases hread : readConstraintRow reading nameKey row with
  | error exn =>
    constructor
    · intro h
      cases h
    · intro h
      cases h
  | ok found =>
    have hrow := readConstraintRow_snd hread
    constructor
    · intro h
      have hkey : found.1 = key := Option.some.inj h
      rw [← hkey, ← hrow]
    · intro h
      cases h
      rfl

/-- The group of a key, as rows. -/
theorem valuesOf_grouped {nameKey : String} {grouped : List ((String × String) × SqlRow Cell)}
    (h : rows.mapM (readConstraintRow reading nameKey) = .ok grouped) (key : String × String) :
    Dict.valuesOf key grouped = rows.filter (inGroup reading nameKey key) := by
  rw [Except.mapM_eq_ok] at h
  induction h with
  | nil => rfl
  | @cons row found rows grouped hread _ ih =>
    unfold Dict.valuesOf at ih ⊢
    have hrow := readConstraintRow_snd hread
    obtain ⟨found, row'⟩ := found
    dsimp only at hrow
    subst hrow
    by_cases hkey : found = key
    · subst hkey
      rw [List.filter_cons_of_pos (by simp), List.map_cons, ih,
        List.filter_cons_of_pos (inGroup_iff.mpr hread)]
    · have hnot : ¬ inGroup reading nameKey key row' = true := by
        rw [inGroup_iff, hread]
        intro h
        cases h
        exact hkey rfl
      rw [List.filter_cons_of_neg (by simpa using hkey), ih, List.filter_cons_of_neg hnot]

/-- A group is made of the rows of its key, and of at least one. -/
theorem mem_items_grouped {nameKey : String} {grouped : List ((String × String) × SqlRow Cell)}
    (h : rows.mapM (readConstraintRow reading nameKey) = .ok grouped) {key : String × String}
    {values : List (SqlRow Cell)} :
    (key, values) ∈ (Dict.group grouped).items ↔
      values = rows.filter (inGroup reading nameKey key) ∧ values ≠ [] := by
  rw [Dict.mem_items, Dict.get?_group, valuesOf_grouped h]

/-- The constraints under a table: one for each name that a row of the table gives. -/
theorem readConstraints_under {constraints : List (String × C)}
    (h : readConstraints reading kind.nameKey kind.ofOrdered rows = .ok constraints)
    (tableRef : String) :
    ∃ names : List String, names.Nodup ∧
      (∀ name, name ∈ names ↔
        ∃ row ∈ rows, inGroup reading kind.nameKey (tableRef, name) row = true) ∧
      List.Forall₂ (fun name constraint => kind.IsOf reading name
        (rows.filter (inGroup reading kind.nameKey (tableRef, name))) constraint)
        names (Dict.valuesOf tableRef constraints) := by
  unfold readConstraints at h
  obtain ⟨grouped, hgrouped, hconstraints⟩ := Except.bind_eq_ok.mp h
  refine ⟨((Dict.group grouped).items.filter (·.1.1 = tableRef)).map (·.1.2), ?_, ?_, ?_⟩
  · -- under one table, the names are what tells the keys apart
    rw [List.nodup_iff_pairwise_ne, List.pairwise_map]
    have hkeys := List.pairwise_map.mp ((Dict.group grouped).nodup)
    refine (List.Pairwise.and_mem.mp (hkeys.filter _)).imp ?_
    rintro ⟨⟨ref, name⟩, values⟩ ⟨⟨ref', name'⟩, values'⟩ ⟨hmem, hmem', hne⟩ hname
    have href : ref = tableRef := by simpa using (List.mem_filter.mp hmem).2
    have href' : ref' = tableRef := by simpa using (List.mem_filter.mp hmem').2
    exact hne (Prod.ext (href.trans href'.symm) hname)
  · intro name
    rw [List.mem_map]
    constructor
    · rintro ⟨⟨⟨ref, name⟩, values⟩, hmem, rfl⟩
      obtain ⟨hentry, href⟩ := List.mem_filter.mp hmem
      have hsame : ref = tableRef := by simpa using href
      subst hsame
      obtain ⟨rfl, hne⟩ := (mem_items_grouped hgrouped).mp hentry
      obtain ⟨row, hrow⟩ := List.exists_mem_of_ne_nil _ hne
      exact ⟨row, (List.mem_filter.mp hrow).1, (List.mem_filter.mp hrow).2⟩
    · rintro ⟨row, hrow, hgroup⟩
      have hmem : row ∈ rows.filter (inGroup reading kind.nameKey (tableRef, name)) :=
        List.mem_filter.mpr ⟨hrow, hgroup⟩
      have hentry := (mem_items_grouped hgrouped).mpr ⟨rfl, List.ne_nil_of_mem hmem⟩
      exact ⟨_, List.mem_filter.mpr ⟨hentry, by simp⟩, rfl⟩
  · have hunder := Except.filter_mapM hconstraints (p := (·.1.1 = tableRef))
      (q := (·.1 = tableRef)) fun entry _ found hfound => by
        rw [(readConstraint_eq_ok.mp hfound).1]
    rw [Except.mapM_eq_ok] at hunder
    unfold Dict.valuesOf
    rw [List.forall₂_map_left_iff, List.forall₂_map_right_iff]
    -- what stands under the table is what is read of its own groups
    have hmem : ∀ entry ∈ (Dict.group grouped).items.filter (·.1.1 = tableRef),
        entry.2 = rows.filter (inGroup reading kind.nameKey (tableRef, entry.1.2)) := by
      rintro ⟨⟨ref, name⟩, values⟩ hentry
      obtain ⟨hitem, href⟩ := List.mem_filter.mp hentry
      have hsame : ref = tableRef := by simpa using href
      subst hsame
      exact ((mem_items_grouped hgrouped).mp hitem).1
    refine ((List.forall₂_and_left _ _).mpr ⟨hmem, hunder⟩).imp ?_
    rintro entry found ⟨hvalues, hfound⟩
    rw [← hvalues]
    exact (readConstraint_eq_ok.mp hfound).2

/-- The same rows in another order: if every row that may come first can, the constraints are
made again, and those of a table whose groups have distinct ordinals are the same. -/
theorem readConstraints_perm {constraints : List (String × C)} (hperm : rows.Perm rows')
    (hfirst : kind.FirstRowsUsable reading rows)
    (h : readConstraints reading kind.nameKey kind.ofOrdered rows = .ok constraints) :
    ∃ constraints', readConstraints reading kind.nameKey kind.ofOrdered rows' = .ok constraints' ∧
      ∀ tableRef, (∀ name, DistinctOrdinals reading
          (rows.filter (inGroup reading kind.nameKey (tableRef, name)))) →
        (Dict.valuesOf tableRef constraints).Perm (Dict.valuesOf tableRef constraints') := by
  have hmade : ∃ constraints',
      readConstraints reading kind.nameKey kind.ofOrdered rows' = .ok constraints' := by
    unfold readConstraints at h ⊢
    obtain ⟨grouped, hgrouped, hconstraints⟩ := Except.bind_eq_ok.mp h
    obtain ⟨grouped', hgrouped', hpairs⟩ := Except.mapM_perm hgrouped hperm
    simp only [Except.bind_eq_ok]
    rw [exists_comm]
    refine ⟨grouped', ?_⟩
    simp only [hgrouped', true_and]
    refine Except.mapM_isOk ?_
    rintro ⟨key, values⟩ hentry
    obtain ⟨hvalues, hne⟩ := Dict.get?_group.mp (Dict.mem_items.mp hentry)
    -- the group had a constraint before
    have hbefore : (Dict.valuesOf key grouped).Perm values := by
      rw [hvalues]
      exact Dict.valuesOf_perm hpairs
    have hne' : Dict.valuesOf key grouped ≠ [] := by
      intro hnil
      rw [hnil] at hbefore
      exact hne (List.nil_perm.mp hbefore)
    obtain ⟨found, hfound⟩ := Except.isOk_of_mapM hconstraints (key, Dict.valuesOf key grouped)
      (Dict.mem_items.mpr (Dict.get?_group.mpr ⟨rfl, hne'⟩))
    have hmem : ∀ row ∈ values, row ∈ rows ∧
        readConstraintRow reading kind.nameKey row = .ok (key, row) := by
      intro row hrow
      rw [← hbefore.mem_iff, valuesOf_grouped hgrouped, List.mem_filter] at hrow
      exact ⟨hrow.1, inGroup_iff.mp hrow.2⟩
    obtain ⟨constraint, hconstraint⟩ := ConstraintKind.isOf_perm hbefore (fun row hrow hleast => by
      refine hfirst row (hmem row hrow).1 key (hmem row hrow).2 fun other hother hkey =>
        hleast other ?_
      rw [← hbefore.mem_iff, valuesOf_grouped hgrouped, List.mem_filter]
      exact ⟨hother, inGroup_iff.mpr hkey⟩) (readConstraint_eq_ok.mp hfound).2
    exact ⟨(key.1, constraint), readConstraint_eq_ok.mpr ⟨rfl, hconstraint⟩⟩
  obtain ⟨constraints', h'⟩ := hmade
  refine ⟨constraints', h', fun tableRef hdistinct => ?_⟩
  obtain ⟨names, hnodup, hmem, hunder⟩ := readConstraints_under h tableRef
  obtain ⟨names', hnodup', hmem', hunder'⟩ := readConstraints_under h' tableRef
  have hnames : names'.Perm names := by
    rw [List.perm_ext_iff_of_nodup hnodup' hnodup]
    intro name
    rw [hmem, hmem']
    exact exists_congr fun row => and_congr_left fun _ => hperm.symm.mem_iff
  obtain ⟨constraints'', hsame, hvalues⟩ := List.perm_comp_forall₂ hnames hunder
  have hboth : Dict.valuesOf tableRef constraints' = constraints'' := by
    refine List.right_unique_forall₂' (R := fun name constraint => kind.IsOf reading name
      (rows'.filter (inGroup reading kind.nameKey (tableRef, name))) constraint)
      (fun _ _ _ hfound hfound' => hfound.unique hfound') hunder' (hsame.imp ?_)
    intro name constraint hfound
    exact hfound.congr (hdistinct name) (hperm.filter _)
  rw [hboth]
  exact hvalues.symm

/-- If the constraints can be made, a row at the front that no other one of its group precedes can
be the first. -/
theorem firstUsable_of_head {constraints : List (String × C)} {row : SqlRow Cell}
    {key : String × String}
    (h : readConstraints reading kind.nameKey kind.ofOrdered (row :: rows) = .ok constraints)
    (hkey : readConstraintRow reading kind.nameKey row = .ok (key, row))
    (hleast : ∀ other ∈ rows, readConstraintRow reading kind.nameKey other = .ok (key, other) →
      row.AtMost reading other) : kind.FirstUsable row := by
  obtain ⟨tableRef, name⟩ := key
  obtain ⟨names, -, hmem, hunder⟩ := readConstraints_under h tableRef
  have hgroup : inGroup reading kind.nameKey (tableRef, name) row = true := inGroup_iff.mpr hkey
  have hname : name ∈ names := (hmem name).mpr ⟨row, List.mem_cons_self, hgroup⟩
  obtain ⟨constraint, -, ordered, hordered, hconstraint⟩ := hunder.exists_of_mem_left hname
  rw [List.filter_cons_of_pos hgroup] at hordered
  obtain ⟨rest, rfl⟩ := orderedRows_head (fun other hother => by
    obtain ⟨hother, hsame⟩ := List.mem_filter.mp hother
    exact hleast other hother (inGroup_iff.mp hsame)) hordered
  obtain ⟨-, -, first, hhead, husable⟩ := (kind.isOk _ _).mp ⟨_, hconstraint⟩
  cases hhead
  exact husable

end Collabio
