import Mathlib.Tactic

/-!
# Tables with a unique key, written by transactions

A table in which no two rows have the same key, as its concurrent writers see it. A row
belongs to the transaction that inserted it, and the others see it once that
transaction is committed. A unique index is stricter than what is seen: an insert of a
key that another transaction holds without having committed waits for its end, and one
of a key that is there already is a violation.

* `UniqueTable`     — the rows, with the proof that their keys are distinct;
* `insert`, `commit`, `rollback` — what a transaction does;
* `delete`          — a DELETE, which sees the committed rows only;
* `written_insert`, `written_commit`, `written_rollback` — what they do to the rows of
  each writer, and that they leave the others' alone.
-/

/-- A row, its writer, and whether the writer's transaction is committed. -/
structure TableRow (α : Type*) where
  writer    : ℕ
  value     : α
  committed : Bool
  deriving DecidableEq, Repr

/-- Rows with distinct keys. -/
structure UniqueTable {α K : Type*} (key : α → K) where
  rows   : List (TableRow α)
  unique : (rows.map fun row => key row.value).Nodup

namespace UniqueTable

variable {α K : Type*} {key : α → K}

def empty : UniqueTable key := ⟨[], List.nodup_nil⟩

/-- What a statement outside these transactions sees. -/
def visible (t : UniqueTable key) : List α := (t.rows.filter (·.committed)).map (·.value)

/-- The rows of one transaction. -/
def written (t : UniqueTable key) (writer : ℕ) : List (TableRow α) :=
  t.rows.filter (·.writer = writer)

/-- How an insert ends, or that it does not end yet. -/
inductive Insertion (key : α → K) where
  | inserted (t : UniqueTable key)
  | violation
  | waiting

/-- The row that stands in the way of a key. -/
def conflict? [DecidableEq K] (t : UniqueTable key) (value : α) : Option (TableRow α) :=
  t.rows.find? fun row => key row.value = key value

theorem unique_insert [DecidableEq K] {t : UniqueTable key} {value : α}
    (h : t.conflict? value = none) (writer : ℕ) :
    ((t.rows ++ [TableRow.mk writer value false]).map fun row => key row.value).Nodup := by
  rw [List.map_append, List.nodup_append]
  refine ⟨t.unique, List.nodup_singleton _, ?_⟩
  intro k hk k' hk' hsame
  obtain ⟨row, hrow, rfl⟩ := List.mem_map.mp hk
  obtain rfl : k' = key value := by simpa using hk'
  have hfree := List.find?_eq_none.mp h row hrow
  exact hfree (decide_eq_true hsame)

def insert [DecidableEq K] (t : UniqueTable key) (writer : ℕ) (value : α) : Insertion key :=
  match h : t.conflict? value with
  | none => .inserted ⟨t.rows ++ [⟨writer, value, false⟩], unique_insert h writer⟩
  | some row => if row.committed ∨ row.writer = writer then .violation else .waiting

/-- From now on everyone sees the transaction's rows. -/
def commit (t : UniqueTable key) (writer : ℕ) : UniqueTable key where
  rows := t.rows.map fun row => if row.writer = writer then { row with committed := true } else row
  unique := by
    rw [List.map_map]
    have hkeys : (fun row : TableRow α => key row.value) ∘ (fun row : TableRow α =>
        if row.writer = writer then { row with committed := true } else row) =
          fun row : TableRow α => key row.value := by
      funext row
      dsimp only [Function.comp_apply]
      split <;> rfl
    rw [hkeys]
    exact t.unique

/-- The rows that the transaction has not committed go. -/
def rollback (t : UniqueTable key) (writer : ℕ) : UniqueTable key where
  rows := t.rows.filter fun row => row.committed ∨ row.writer ≠ writer
  unique := t.unique.sublist ((List.filter_sublist).map _)

/-- The committed rows that a condition names go. -/
def delete (t : UniqueTable key) (doomed : α → Bool) : UniqueTable key where
  rows := t.rows.filter fun row => !(row.committed && doomed row.value)
  unique := t.unique.sublist ((List.filter_sublist).map _)

/-! ## Rows of a writer -/

theorem mem_written {t : UniqueTable key} {row : TableRow α} {writer : ℕ} :
    row ∈ t.written writer ↔ row ∈ t.rows ∧ row.writer = writer := by
  rw [written, List.mem_filter, decide_eq_true_iff]

@[simp] theorem written_empty (writer : ℕ) : (empty : UniqueTable key).written writer = [] := rfl

/-- A row is one of its writer's. -/
theorem mem_rows {t : UniqueTable key} {row : TableRow α} :
    row ∈ t.rows ↔ row ∈ t.written row.writer := by
  rw [mem_written]
  exact (and_iff_left rfl).symm

/-- **The key is unique**: rows of one key are one row. -/
theorem eq_of_key {t : UniqueTable key} {row row' : TableRow α} (h : row ∈ t.rows)
    (h' : row' ∈ t.rows) (hkey : key row.value = key row'.value) : row = row' :=
  List.inj_on_of_nodup_map t.unique h h' hkey

theorem mem_visible {t : UniqueTable key} {value : α} :
    value ∈ t.visible ↔ ∃ row ∈ t.rows, row.committed = true ∧ row.value = value := by
  unfold visible
  simp only [List.mem_map, List.mem_filter, and_assoc]

theorem mem_delete {t : UniqueTable key} {doomed : α → Bool} {row : TableRow α} :
    row ∈ (t.delete doomed).rows ↔
      row ∈ t.rows ∧ ¬ (row.committed = true ∧ doomed row.value = true) := by
  unfold delete
  rw [List.mem_filter, Bool.not_eq_true', Bool.eq_false_iff, ne_eq, Bool.and_eq_true]

/-! ## Committed rows -/

/-- A committed row survives the end of every transaction. -/
theorem committed_commit {t : UniqueTable key} {row : TableRow α} (hrow : row ∈ t.rows)
    (hcommitted : row.committed = true) (writer : ℕ) : row ∈ (t.commit writer).rows := by
  refine List.mem_map.mpr ⟨row, hrow, ?_⟩
  split
  · rw [← hcommitted]
  · rfl

theorem committed_rollback {t : UniqueTable key} {row : TableRow α} (hrow : row ∈ t.rows)
    (hcommitted : row.committed = true) (writer : ℕ) : row ∈ (t.rollback writer).rows :=
  List.mem_filter.mpr ⟨hrow, decide_eq_true (Or.inl hcommitted)⟩

theorem mem_of_inserted [DecidableEq K] {t t' : UniqueTable key} {writer : ℕ} {value : α}
    (h : t.insert writer value = .inserted t') {row : TableRow α} (hrow : row ∈ t.rows) :
    row ∈ t'.rows := by
  unfold insert at h
  split at h
  · cases h
    exact List.mem_append_left _ hrow
  · split at h <;> cases h

/-- **A row keeps others of its key out.** -/
theorem not_inserted_of_mem [DecidableEq K] {t t' : UniqueTable key} {writer : ℕ} {value : α}
    {row : TableRow α} (hrow : row ∈ t.rows) (hkey : key row.value = key value) :
    t.insert writer value ≠ .inserted t' := by
  intro h
  unfold insert at h
  split at h
  · rename_i hfree
    exact List.find?_eq_none.mp hfree row hrow (decide_eq_true hkey)
  · split at h <;> cases h

/-- Where there is no row of its key, a value is inserted. -/
theorem inserted_of_not_mem [DecidableEq K] {t : UniqueTable key} {value : α}
    (h : ∀ row ∈ t.rows, key row.value ≠ key value) (writer : ℕ) :
    ∃ t', t.insert writer value = .inserted t' := by
  unfold insert
  split
  · exact ⟨_, rfl⟩
  · rename_i row hconflict
    have hsame : key row.value = key value := by simpa using List.find?_some hconflict
    exact absurd hsame (h row (List.mem_of_find?_eq_some hconflict))

/-! ## What is written -/

theorem written_insert [DecidableEq K] {t t' : UniqueTable key} {writer : ℕ} {value : α}
    (h : t.insert writer value = .inserted t') (other : ℕ) :
    t'.written other =
      t.written other ++ if writer = other then [⟨writer, value, false⟩] else [] := by
  unfold insert at h
  split at h
  · cases h
    rw [written, List.filter_append]
    by_cases hsame : writer = other <;> simp [written, hsame]
  · split at h <;> cases h

theorem written_commit (t : UniqueTable key) (writer other : ℕ) :
    (t.commit writer).written other =
      if writer = other then (t.written other).map fun row => { row with committed := true }
      else t.written other := by
  have hrows : ∀ rows : List (TableRow α),
      (rows.map fun row => if row.writer = writer then { row with committed := true }
        else row).filter (·.writer = other) =
      if writer = other then
        (rows.filter (·.writer = other)).map fun row => { row with committed := true }
      else rows.filter (·.writer = other) := by
    intro rows
    induction rows with
    | nil => simp
    | cons row rows ih =>
      rw [List.map_cons, List.filter_cons, List.filter_cons, ih]
      by_cases hother : writer = other
      · subst hother
        by_cases hrow : row.writer = writer <;> simp [hrow]
      · by_cases hrow : row.writer = writer
        · simp [hother, hrow]
        · simp [hother, hrow]
  exact hrows t.rows

theorem written_rollback (t : UniqueTable key) (writer other : ℕ) :
    (t.rollback writer).written other =
      if writer = other then (t.written other).filter (·.committed) else t.written other := by
  unfold written rollback
  dsimp only
  rw [List.filter_filter]
  by_cases hother : writer = other
  · subst hother
    rw [if_pos rfl, List.filter_filter]
    refine List.filter_congr fun row _ => ?_
    by_cases hrow : row.writer = writer <;> simp [hrow]
  · rw [if_neg hother]
    refine List.filter_congr fun row _ => ?_
    by_cases hrow : row.writer = other
    · simp [hrow, Ne.symm hother]
    · simp [hrow]

end UniqueTable
