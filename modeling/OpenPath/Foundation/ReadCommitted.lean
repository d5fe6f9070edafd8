/-
# A table that transactions share

Several transactions write one table. What a transaction has written is its own
until it commits; the unique values of the rows that it inserts, changes or
deletes are held meanwhile, and another transaction that wants to write one of
them waits. A statement sees the rows that are committed at its moment, with the
writes of its own transaction: this is how a database serves statements under
READ COMMITTED.
-/

import Mathlib.Data.List.Basic
import Mathlib.Data.List.Pairwise

namespace OpenPath.Foundation

/-- The committed rows, and the unique values that open transactions hold. -/
structure Table (Key Row : Type*) where
  rows : List Row
  held : List Key
  deriving DecidableEq

/-- What an open transaction has written in a table. -/
structure Writes (Key Row : Type*) where
  removed : List Row := []
  added : List Row := []
  held : List Key := []
  deriving DecidableEq

namespace Table

variable {Key Row : Type*} [DecidableEq Row]

/-- The rows that a statement of the transaction sees. -/
def sees (table : Table Key Row) (own : Writes Key Row) : List Row :=
  table.rows.filter (· ∉ own.removed) ++ own.added

variable {table : Table Key Row} {own : Writes Key Row} {row : Row}

theorem mem_sees :
    row ∈ table.sees own ↔ (row ∈ table.rows ∧ row ∉ own.removed) ∨ row ∈ own.added := by
  simp [sees]

@[simp] theorem sees_nil (table : Table Key Row) : table.sees {} = table.rows := by
  simp [sees]

variable (keys : Row → List Key)

/-- No two rows share a unique value. -/
def Unique (rows : List Row) : Prop :=
  rows.Pairwise fun one other => List.Disjoint (keys one) (keys other)

/-- A unique value tells a row. -/
theorem Unique.eq_of_mem {keys : Row → List Key} {rows : List Row} {other : Row} {key : Key}
    (hunique : Unique keys rows) (hrow : row ∈ rows) (hother : other ∈ rows)
    (hkey : key ∈ keys row) (hsame : key ∈ keys other) : row = other := by
  have hsymm : Std.Symm fun one other => List.Disjoint (keys one) (keys other) :=
    ⟨fun _ _ hdisjoint => List.disjoint_symm hdisjoint⟩
  by_contra hne
  exact List.Pairwise.forall hunique hrow hother hne hkey hsame

/-- An open transaction holds the values of the rows that it has written, and the
rows that it sees are distinct. -/
structure Owned (table : Table Key Row) (own : Writes Key Row) : Prop where
  held : own.held ⊆ table.held
  removed_rows : own.removed ⊆ table.rows
  removed : ∀ row ∈ own.removed, keys row ⊆ own.held
  added : ∀ row ∈ own.added, keys row ⊆ own.held
  unique : Unique keys (table.sees own)

/-- Two transactions hold different values. -/
def Apart (own other : Writes Key Row) : Prop :=
  List.Disjoint own.held other.held

theorem Owned.empty {keys : Row → List Key} (hunique : Unique keys table.rows) : Owned keys table {} where
  held := List.nil_subset _
  removed_rows := List.nil_subset _
  removed := by simp
  added := by simp
  unique := by simpa using hunique

variable [DecidableEq Key]

/-- No other transaction holds one of the values. -/
def Free (table : Table Key Row) (own : Writes Key Row) (values : List Key) : Prop :=
  ∀ key ∈ values, key ∈ table.held → key ∈ own.held

instance (table : Table Key Row) (own : Writes Key Row) (values : List Key) :
    Decidable (table.Free own values) :=
  inferInstanceAs (Decidable (∀ key ∈ values, key ∈ table.held → key ∈ own.held))

/-- Take rows away and put others in their place. The statement waits while
another transaction holds a value of one of them. -/
def write (gone new : List Row) (table : Table Key Row) (own : Writes Key Row) :
    Option (Table Key Row × Writes Key Row) :=
  if table.Free own ((gone ++ new).flatMap keys) then
    some
      ({ table with held := table.held ++ (gone ++ new).flatMap keys },
        { removed := own.removed ++ gone.filter (· ∈ table.rows)
          added := own.added.filter (· ∉ gone) ++ new
          held := own.held ++ (gone ++ new).flatMap keys })
  else none

/-- A deletion looks at the rows of its snapshot, and skips those that are gone by
the time it has them. -/
def delete (snapshot : List Row) (table : Table Key Row) (own : Writes Key Row) :
    Option (Table Key Row × Writes Key Row) :=
  table.write keys (snapshot.filter (· ∈ table.sees own)) [] own

/-- The rows that stand in the way of an insertion. -/
def conflicts (row : Row) (table : Table Key Row) (own : Writes Key Row) : List Row :=
  (table.sees own).filter fun other => (keys other).any (· ∈ keys row)

/-- The transaction ends without its writes. -/
def rollback (table : Table Key Row) (own : Writes Key Row) : Table Key Row :=
  { table with held := table.held.filter (· ∉ own.held) }

/-- The transaction ends with its writes. -/
def commit (table : Table Key Row) (own : Writes Key Row) : Table Key Row where
  rows := table.sees own
  held := table.held.filter (· ∉ own.held)

@[simp] theorem rows_commit (table : Table Key Row) (own : Writes Key Row) :
    (table.commit own).rows = table.sees own := rfl

/-- A write that is a transaction of its own. -/
def alone (gone new : List Row) (table : Table Key Row) : Option (Table Key Row) :=
  (table.write keys gone new {}).map fun outcome => outcome.1.commit outcome.2

variable {keys} {after : Table Key Row} {later : Writes Key Row} {gone new : List Row}

theorem write_eq_some (hwrite : table.write keys gone new own = some (after, later)) :
    table.Free own ((gone ++ new).flatMap keys) ∧ after.rows = table.rows ∧
      after.held = table.held ++ (gone ++ new).flatMap keys ∧
      later.removed = own.removed ++ gone.filter (· ∈ table.rows) ∧
      later.added = own.added.filter (· ∉ gone) ++ new ∧
      later.held = own.held ++ (gone ++ new).flatMap keys := by
  unfold write at hwrite
  split at hwrite
  · rename_i hfree
    obtain ⟨rfl, rfl⟩ := Prod.mk.inj (Option.some.inj hwrite)
    exact ⟨hfree, rfl, rfl, rfl, rfl, rfl⟩
  · cases hwrite

theorem sees_write (hwrite : table.write keys gone new own = some (after, later)) :
    after.sees later = (table.sees own).filter (· ∉ gone) ++ new := by
  obtain ⟨-, hrows, -, hremoved, hadded, -⟩ := write_eq_some hwrite
  have hkept : table.rows.filter (· ∉ later.removed) =
      (table.rows.filter (· ∉ own.removed)).filter (· ∉ gone) := by
    rw [List.filter_filter]
    apply List.filter_congr
    intro row hrow
    simp only [hremoved, List.mem_append, List.mem_filter, hrow, decide_true, and_true, not_or,
      Bool.decide_and, Bool.and_comm]
  rw [sees, sees, hrows, hkept, hadded, List.filter_append, List.append_assoc]

/-- A transaction keeps what it owns over a write that puts in no value which
stands elsewhere. -/
theorem Owned.write {table after : Table Key Row} {own later : Writes Key Row}
    {gone new : List Row} (howned : Owned keys table own) (hnew : Unique keys new)
    (hfresh : ∀ row ∈ table.sees own, row ∉ gone →
      ∀ other ∈ new, List.Disjoint (keys row) (keys other))
    (hwrite : table.write keys gone new own = some (after, later)) : Owned keys after later := by
  have hsees := sees_write hwrite
  obtain ⟨-, hrows, hheld, hremoved, hadded, hlater⟩ := write_eq_some hwrite
  have hmine : ∀ row ∈ gone ++ new, keys row ⊆ later.held := by
    intro row hrow key hkey
    rw [hlater]
    exact List.mem_append_right _ (List.mem_flatMap.mpr ⟨row, hrow, hkey⟩)
  have hbefore : own.held ⊆ later.held := by
    rw [hlater]
    exact List.subset_append_left _ _
  refine ⟨?_, ?_, ?_, ?_, ?_⟩
  · rw [hheld, hlater]
    exact List.append_subset.mpr ⟨List.subset_append_of_subset_left _ howned.held,
      List.subset_append_right _ _⟩
  · rw [hrows, hremoved]
    refine List.append_subset.mpr ⟨howned.removed_rows, ?_⟩
    intro row hrow
    simpa using (List.mem_filter.mp hrow).2
  · intro row hrow
    rw [hremoved] at hrow
    rcases List.mem_append.mp hrow with hold | hgone
    · exact List.Subset.trans (howned.removed row hold) hbefore
    · exact hmine row (List.mem_append_left _ (List.mem_filter.mp hgone).1)
  · intro row hrow
    rw [hadded] at hrow
    rcases List.mem_append.mp hrow with hold | hin
    · exact List.Subset.trans (howned.added row (List.mem_filter.mp hold).1) hbefore
    · exact hmine row (List.mem_append_right _ hin)
  · rw [hsees]
    refine List.pairwise_append.mpr ⟨howned.unique.filter _, hnew, ?_⟩
    intro row hrow other hother
    obtain ⟨hseen, hstays⟩ := List.mem_filter.mp hrow
    exact hfresh row hseen (by simpa using hstays) other hother

theorem Owned.write_other {other : Writes Key Row} (howned : Owned keys table other)
    (hwrite : table.write keys gone new own = some (after, later)) : Owned keys after other := by
  obtain ⟨-, hrows, hheld, -⟩ := write_eq_some hwrite
  refine ⟨?_, hrows ▸ howned.removed_rows, howned.removed, howned.added, ?_⟩
  · rw [hheld]
    exact List.subset_append_of_subset_left _ howned.held
  · rw [sees, hrows]
    exact howned.unique

/-- A write takes no value that another transaction holds. -/
theorem Apart.write {table after : Table Key Row} {own later other : Writes Key Row}
    {gone new : List Row} (hapart : Apart own other) (howned : Owned keys table other)
    (hwrite : table.write keys gone new own = some (after, later)) : Apart later other := by
  obtain ⟨hfree, -, -, -, -, hlater⟩ := write_eq_some hwrite
  intro key hkey hother
  rw [hlater] at hkey
  rcases List.mem_append.mp hkey with hold | hnew
  · exact hapart hold hother
  · exact hapart (hfree key hnew (howned.held hother)) hother

/-- The end of a transaction leaves what another one holds. -/
theorem held_subset_filter {other : Writes Key Row} (hapart : Apart own other)
    (howned : Owned keys table other) :
    other.held ⊆ table.held.filter (· ∉ own.held) := by
  intro key hkey
  exact List.mem_filter.mpr ⟨howned.held hkey, by simpa using fun hown => hapart hown hkey⟩

theorem Owned.rollback_other {other : Writes Key Row} (howned : Owned keys table other)
    (hapart : Apart own other) :
    Owned keys (table.rollback own) other where
  held := held_subset_filter hapart howned
  removed_rows := howned.removed_rows
  removed := howned.removed
  added := howned.added
  unique := howned.unique

/-- The commit of one transaction leaves what another one owns. -/
theorem Owned.commit_other {other : Writes Key Row} (hkeys : ∀ row, keys row ≠ [])
    (howned : Owned keys table other) (hown : Owned keys table own) (hapart : Apart own other) :
    Owned keys (table.commit own) other where
  held := held_subset_filter hapart howned
  removed_rows := by
    intro row hrow
    refine mem_sees.mpr (Or.inl ⟨howned.removed_rows hrow, ?_⟩)
    intro hmine
    obtain ⟨key, hkey⟩ := List.exists_mem_of_ne_nil _ (hkeys row)
    exact hapart (hown.removed row hmine hkey) (howned.removed row hrow hkey)
  removed := howned.removed
  added := howned.added
  unique := by
    have hboth := List.pairwise_append.mp howned.unique
    refine List.pairwise_append.mpr ⟨hown.unique.filter _, hboth.2.1, ?_⟩
    intro row hrow fresh hfresh
    obtain ⟨hseen, hstays⟩ := List.mem_filter.mp hrow
    rcases mem_sees.mp hseen with ⟨hcommitted, -⟩ | hadded
    · exact hboth.2.2 row (List.mem_filter.mpr ⟨hcommitted, hstays⟩) fresh hfresh
    · intro key hkey hother
      exact hapart (hown.added row hadded hkey) (howned.added fresh hfresh hother)

/-! ## Writes that are transactions of their own -/

theorem rows_alone (halone : table.alone keys gone new = some after) :
    after.rows = table.rows.filter (· ∉ gone) ++ new := by
  obtain ⟨⟨middle, own⟩, hwrite, rfl⟩ := Option.map_eq_some_iff.mp halone
  rw [rows_commit, sees_write hwrite, sees_nil]

theorem Unique.alone (hunique : Unique keys table.rows) (hnew : Unique keys new)
    (hfresh : ∀ row ∈ table.rows, row ∉ gone → ∀ other ∈ new, List.Disjoint (keys row) (keys other))
    (halone : table.alone keys gone new = some after) : Unique keys after.rows := by
  obtain ⟨⟨middle, own⟩, hwrite, rfl⟩ := Option.map_eq_some_iff.mp halone
  refine ((Owned.empty hunique).write hnew ?_ hwrite).unique
  simpa using hfresh

theorem Owned.alone_other {other : Writes Key Row} (hkeys : ∀ row, keys row ≠ [])
    (howned : Owned keys table other) (hunique : Unique keys table.rows) (hnew : Unique keys new)
    (hfresh : ∀ row ∈ table.rows, row ∉ gone → ∀ other ∈ new, List.Disjoint (keys row) (keys other))
    (halone : table.alone keys gone new = some after) : Owned keys after other := by
  obtain ⟨⟨middle, own⟩, hwrite, rfl⟩ := Option.map_eq_some_iff.mp halone
  have hown : Owned keys middle own :=
    (Owned.empty hunique).write hnew (by simpa using hfresh) hwrite
  have hapart : Apart own other := Apart.write (by simp [Apart]) howned hwrite
  exact (howned.write_other hwrite).commit_other hkeys hown hapart

/-! ## What one step can do to a table -/

variable (keys)

/-- A step of a transaction: it leaves the table alone, writes, ends, or is a
transaction of its own. What it puts in shares no value with what it sees. -/
inductive Step : Table Key Row → Writes Key Row → Table Key Row → Writes Key Row → Prop
  | same (table : Table Key Row) (own : Writes Key Row) : Step table own table own
  | write {table after : Table Key Row} {own later : Writes Key Row} {gone new : List Row}
      (hnew : Unique keys new)
      (hfresh : ∀ row ∈ table.sees own, row ∉ gone →
        ∀ other ∈ new, List.Disjoint (keys row) (keys other))
      (hwrite : table.write keys gone new own = some (after, later)) : Step table own after later
  | commit (table : Table Key Row) (own : Writes Key Row) : Step table own (table.commit own) {}
  | rollback (table : Table Key Row) (own : Writes Key Row) :
      Step table own (table.rollback own) {}
  | alone {table after : Table Key Row} {gone new : List Row} (hnew : Unique keys new)
      (hfresh : ∀ row ∈ table.rows, row ∉ gone →
        ∀ other ∈ new, List.Disjoint (keys row) (keys other))
      (halone : table.alone keys gone new = some after) : Step table {} after {}

variable {keys}

/-- The rows stay distinct, and the transaction goes on owning what it has written. -/
theorem Step.owned (hunique : Unique keys table.rows) (howned : Owned keys table own)
    (hstep : Step keys table own after later) :
    Unique keys after.rows ∧ Owned keys after later := by
  cases hstep with
  | same => exact ⟨hunique, howned⟩
  | write hnew hfresh hwrite =>
      refine ⟨?_, howned.write hnew hfresh hwrite⟩
      rw [(write_eq_some hwrite).2.1]
      exact hunique
  | commit => exact ⟨howned.unique, Owned.empty howned.unique⟩
  | rollback => exact ⟨hunique, Owned.empty hunique⟩
  | alone hnew hfresh halone =>
      have hafter := hunique.alone hnew hfresh halone
      exact ⟨hafter, Owned.empty hafter⟩

/-- What any other transaction owns stays, and the two hold different values. -/
theorem Step.other {other : Writes Key Row} (hkeys : ∀ row, keys row ≠ [])
    (hunique : Unique keys table.rows) (howned : Owned keys table own)
    (hother : Owned keys table other) (hapart : Apart own other)
    (hstep : Step keys table own after later) : Owned keys after other ∧ Apart later other := by
  cases hstep with
  | same => exact ⟨hother, hapart⟩
  | write hnew hfresh hwrite => exact ⟨hother.write_other hwrite, hapart.write hother hwrite⟩
  | commit => exact ⟨hother.commit_other hkeys howned hapart, List.disjoint_nil_left _⟩
  | rollback => exact ⟨hother.rollback_other hapart, List.disjoint_nil_left _⟩
  | alone hnew hfresh halone =>
      exact ⟨hother.alone_other hkeys hunique hnew hfresh halone, List.disjoint_nil_left _⟩

/-- A row that nothing stands in the way of. -/
theorem disjoint_of_conflicts (hnone : table.conflicts keys row own = []) :
    ∀ other ∈ table.sees own, List.Disjoint (keys other) (keys row) := by
  intro other hother key hkey hrow
  have hnot := List.filter_eq_nil_iff.mp hnone other hother
  exact hnot (List.any_eq_true.mpr ⟨key, hkey, by simpa using hrow⟩)

end Table

end OpenPath.Foundation
