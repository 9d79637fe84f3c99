import Mathlib.Data.List.Perm.Basic

/-!
# Tables in Partitions

A table whose rows have a key is a table in partitions, one for each key. Rows
that are written into it may replace the whole table, or only the partitions
that they have a row for. `overlay` does the second, and `Replaces` says what is
to be expected of it, partition by partition and without regard to the order of
rows.

Up to that order there is only one table that meets the expectation. Writing
that drops everything meets it too, if there is nothing to drop but partitions
that are written anyway.

## Main definitions

* `slice`, `Touches`: The rows of a partition, and whether there are any.
* `overlay`: The partitions of the rows in place of those of the table.
* `Replaces`: These partitions are replaced, and no others are changed.

## Theorems

* `perm_of_slice`: Tables are the same when their partitions are.
* `replaces_iff_perm_overlay`: `overlay` is the one way to do it.
* `replaces_iff_of_perm`: When it is enough to keep nothing.
-/

namespace SyncMaster

namespace Partitions

variable {Row Key : Type} [DecidableEq Key] (keyOf : Row → Key)

/-- The rows of a partition. -/
def slice (key : Key) (rows : List Row) : List Row :=
  rows.filter (fun row => keyOf row == key)

/-- The rows have one in the partition. -/
def Touches (rows : List Row) (key : Key) : Prop :=
  ∃ row ∈ rows, keyOf row = key

instance (rows : List Row) (key : Key) : Decidable (Touches keyOf rows key) :=
  inferInstanceAs (Decidable (∃ row ∈ rows, keyOf row = key))

/-- The partitions of the rows in place of those of the table. -/
def overlay (table rows : List Row) : List Row :=
  table.filter (fun old => !decide (Touches keyOf rows (keyOf old))) ++ rows

/-- The partitions that the rows touch are replaced, and no others are changed. -/
structure Replaces (table rows result : List Row) : Prop where
  touched : ∀ key, Touches keyOf rows key →
    (slice keyOf key result).Perm (slice keyOf key rows)
  kept : ∀ key, ¬ Touches keyOf rows key →
    (slice keyOf key result).Perm (slice keyOf key table)

section Slices

variable {keyOf} {key : Key} {table rows result other : List Row}

theorem slice_eq_nil_iff : slice keyOf key rows = [] ↔ ¬ Touches keyOf rows key := by
  unfold slice Touches
  simp only [List.filter_eq_nil_iff, beq_iff_eq, not_exists, not_and]

/-- Tables are the same, up to the order of rows, when their partitions are. -/
theorem perm_of_slice (h : ∀ key, (slice keyOf key result).Perm (slice keyOf key other)) :
    result.Perm other := by
  classical
  refine List.perm_iff_count.mpr (fun row => ?_)
  -- All copies of a row are in one partition.
  have hcount : ∀ rows, (slice keyOf (keyOf row) rows).count row = rows.count row :=
    fun rows => List.count_filter (beq_self_eq_true (keyOf row))
  rw [← hcount result, ← hcount other]
  exact (h (keyOf row)).count_eq row

theorem slice_perm (h : result.Perm other) (key : Key) :
    (slice keyOf key result).Perm (slice keyOf key other) :=
  h.filter _

/-- What is kept of a table has the partitions that the rows do not touch. -/
theorem slice_overlay (key : Key) (table rows : List Row) :
    slice keyOf key (overlay keyOf table rows) =
      (if Touches keyOf rows key then [] else slice keyOf key table) ++ slice keyOf key rows := by
  unfold overlay slice
  rw [List.filter_append, List.filter_filter]
  refine congrArg (· ++ _) ?_
  by_cases htouches : Touches keyOf rows key
  · rw [if_pos htouches, List.filter_eq_nil_iff]
    intro old _ hboth
    rw [Bool.and_eq_true, beq_iff_eq, Bool.not_eq_true', decide_eq_false_iff_not] at hboth
    rw [hboth.1] at hboth
    exact hboth.2 htouches
  · rw [if_neg htouches]
    refine List.filter_congr (fun old _ => ?_)
    by_cases hkey : keyOf old = key
    · rw [hkey, decide_eq_false htouches, beq_self_eq_true]
      rfl
    · rw [beq_eq_false_iff_ne.mpr hkey]
      rfl

theorem replaces_overlay (table rows : List Row) :
    Replaces keyOf table rows (overlay keyOf table rows) where
  touched key h := by
    rw [slice_overlay, if_pos h, List.nil_append]
  kept key h := by
    rw [slice_overlay, if_neg h, slice_eq_nil_iff.mpr h, List.append_nil]

theorem replaces_of_perm (hresult : result.Perm other) (h : Replaces keyOf table rows result) :
    Replaces keyOf table rows other where
  touched key hkey := (slice_perm hresult.symm key).trans (h.touched key hkey)
  kept key hkey := (slice_perm hresult.symm key).trans (h.kept key hkey)

/-- There is one way to do it, up to the order of rows. -/
theorem replaces_iff_perm_overlay :
    Replaces keyOf table rows result ↔ result.Perm (overlay keyOf table rows) := by
  constructor
  · intro h
    have hoverlay : Replaces keyOf table rows (overlay keyOf table rows) :=
      replaces_overlay table rows
    have hslices : ∀ key, (slice keyOf key result).Perm
        (slice keyOf key (overlay keyOf table rows)) := by
      intro key
      by_cases htouches : Touches keyOf rows key
      · exact (h.touched key htouches).trans (hoverlay.touched key htouches).symm
      · exact (h.kept key htouches).trans (hoverlay.kept key htouches).symm
    exact perm_of_slice hslices
  · intro h
    exact replaces_of_perm h.symm (replaces_overlay table rows)

/-- Nothing but the rows is left, and that is enough just when they touch every
    partition of the table. -/
theorem replaces_iff_of_perm (hresult : result.Perm rows) :
    Replaces keyOf table rows result ↔ ∀ old ∈ table, Touches keyOf rows (keyOf old) := by
  constructor
  · intro h old hold
    by_contra htouches
    have hkept := (slice_perm hresult.symm (keyOf old)).trans (h.kept (keyOf old) htouches)
    rw [slice_eq_nil_iff.mpr htouches] at hkept
    have hmem : old ∈ slice keyOf (keyOf old) table :=
      List.mem_filter.mpr ⟨hold, beq_self_eq_true (keyOf old)⟩
    exact List.not_mem_nil (hkept.mem_iff.mpr hmem)
  · intro h
    refine ⟨fun key _ => slice_perm hresult key, fun key htouches => ?_⟩
    -- A partition that the rows do not touch is empty, before and after.
    have htable : ¬ Touches keyOf table key := by
      intro htable
      rcases htable with ⟨old, hold, hkey⟩
      exact htouches (hkey ▸ h old hold)
    rw [slice_eq_nil_iff.mpr htable, ← slice_eq_nil_iff.mpr htouches]
    exact slice_perm hresult key

end Slices

end Partitions

end SyncMaster
