import Mathlib

/-!
Rows under unique keys, as a hash map or a table with a primary key holds them.
Rows are dropped by a condition and listed in no particular order; a column has
a least value if there is any row.
-/

namespace Misaka.KeyedRows

abbrev Rows (Key Row : Type) := Finmap fun _ : Key => Row

section Rows
variable {Key Row : Type} (keep : Key → Row → Bool) (rows : Rows Key Row)

theorem retained_keys_unique :
    (rows.entries.filter fun entry => keep entry.1 entry.2).NodupKeys := by
  rw [← Multiset.nodup_keys]
  exact Multiset.nodup_of_le (Multiset.map_le_map (Multiset.filter_le _ _))
    rows.nodupKeys.nodup_keys

def retain : Rows Key Row :=
  ⟨rows.entries.filter fun entry => keep entry.1 entry.2, retained_keys_unique keep rows⟩

def values : Multiset Row := rows.entries.map Sigma.snd

variable [DecidableEq Key]

theorem lookup_retain (keep : Key → Row → Bool) (rows : Rows Key Row) (key : Key) :
    (retain keep rows).lookup key = (rows.lookup key).filter (keep key) := by
  apply Option.ext
  intro row
  rw [← Option.mem_def, Finmap.mem_lookup_iff, retain, Multiset.mem_filter, Option.filter_eq_some_iff,
    ← Option.mem_def, Finmap.mem_lookup_iff]

theorem mem_values {rows : Rows Key Row} {row : Row} :
    row ∈ values rows ↔ ∃ key, rows.lookup key = some row := by
  unfold values
  rw [Multiset.mem_map]
  constructor
  · rintro ⟨⟨key, found⟩, member, rfl⟩
    exact ⟨key, Finmap.mem_lookup_iff.mpr member⟩
  · rintro ⟨key, found⟩
    exact ⟨⟨key, row⟩, Finmap.mem_lookup_iff.mp found, rfl⟩

theorem mem_values_retain {keep : Key → Row → Bool} {rows : Rows Key Row} {row : Row} :
    row ∈ values (retain keep rows) ↔ ∃ key, rows.lookup key = some row ∧ keep key row = true := by
  rw [mem_values]
  apply exists_congr
  intro key
  rw [lookup_retain, Option.filter_eq_some_iff]
end Rows

section Columns
variable {Value : Type} [LinearOrder Value] {column : Multiset Value}

def least (column : Multiset Value) : Option Value := (column.sort (· ≤ ·)).head?

theorem least_none (empty : least column = none) : column = 0 := by
  have sorted := Multiset.sort_eq column (· ≤ ·)
  rw [List.head?_eq_none_iff.mp empty] at sorted
  exact sorted.symm

theorem least_some {first : Value} (found : least column = some first) :
    first ∈ column ∧ ∀ value ∈ column, first ≤ value := by
  have sorted := Multiset.pairwise_sort column (· ≤ ·)
  unfold least at found
  cases rows : column.sort (· ≤ ·) with
  | nil =>
    rw [rows] at found
    cases found
  | cons head rest =>
    rw [rows] at found sorted
    cases found
    have listed : ∀ value, value ∈ column ↔ value ∈ first :: rest := by
      intro value
      rw [← rows, Multiset.mem_sort]
    constructor
    · exact (listed first).mpr List.mem_cons_self
    · intro value known
      rcases List.mem_cons.mp ((listed value).mp known) with rfl | later
      · exact le_rfl
      · exact (List.pairwise_cons.mp sorted).1 value later
end Columns
end Misaka.KeyedRows
