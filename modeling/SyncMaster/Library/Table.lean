import Mathlib.Data.List.Forall2
import Mathlib.Data.List.Nodup
import Mathlib.Order.Basic

/-!
# Tables of Keyed Rows

A table is the list of its rows, each with a key. The three statements that
change a table are an insertion at the end, an update of the rows that meet a
condition and a deletion of the rows that meet one.

`Distinct` is the primary key constraint: no two rows share a key. It is what
makes a lookup by key and a membership in the table the same thing
(`find_eq_some_iff`). Keys handed out by a counter are distinct because the
counter stays above them, and `Below` is that bound.

A *view* is the part of a table that some condition selects. The frame lemmas
say when a statement leaves a view as it was: none of the rows it touches may
be in the view, before or after.

## Main definitions

* `find`: The row with a key.
* `update`, `delete`: The rows that meet a condition changed, or dropped.
* `Distinct`: No two rows share a key.
* `Below`: Every key is under a bound.
* `References`: Every child row has its parent.
* `Continues`: No key is used twice, and a row keeps what a view shows of it.

## Theorems

* `find_eq_some_iff`: Looking a key up is membership, when keys are distinct.
* `find_insert`, `find_update`, `find_delete`: What each statement leaves to be
  found.
* `distinct_insert`, `distinct_update`, `distinct_sublist`: Each statement keeps
  the keys distinct.
* `below_insert`, `below_update`, `below_sublist`: And under the counter.
* `references_insert_child`, `references_cascade` and the others: Each statement
  keeps the foreign keys.
* `continues_insert`, `continues_replace`, `continues_sublist`: What each statement
  continues.
* `view_eq_of_continues`: What a key stands for.
* `view_insert`, `view_update`, `view_delete`: Each statement leaves alone the
  views it does not touch.
* `filter_view`, `any_of_filter_eq`, `find_of_filter_eq`, `flatMap_view`: What can
  be asked of a view instead of the table.
* `any_of_forall₂`, `find_of_forall₂`, `filter_of_forall₂`, `delete_of_forall₂`,
  `update_of_forall₂`: Tables whose rows are related one by one.
-/

namespace SyncMaster

namespace Table

variable {Row Key : Type*}

section Lookup

variable [DecidableEq Key] (key : Row → Key)

/-- The row with the given key. -/
def find (rows : List Row) (k : Key) : Option Row :=
  rows.find? (fun r => decide (key r = k))

theorem mem_of_find {rows : List Row} {k : Key} {r : Row}
    (h : find key rows k = some r) : r ∈ rows ∧ key r = k := by
  refine ⟨List.mem_of_find?_eq_some h, ?_⟩
  have hkey := List.find?_some h
  exact of_decide_eq_true hkey

theorem find_eq_none_iff {rows : List Row} {k : Key} :
    find key rows k = none ↔ ∀ r ∈ rows, key r ≠ k := by
  simp only [find, List.find?_eq_none, decide_eq_true_eq, ne_eq]

end Lookup

/-- The rows that meet the condition changed by `f`. -/
def update (p : Row → Bool) (f : Row → Row) (rows : List Row) : List Row :=
  rows.map (fun r => if p r then f r else r)

/-- The rows that do not meet the condition. -/
def delete (p : Row → Bool) (rows : List Row) : List Row :=
  rows.filter (fun r => !p r)

theorem mem_update {p : Row → Bool} {f : Row → Row} {rows : List Row} {r : Row} :
    r ∈ update p f rows ↔ ∃ r₀ ∈ rows, (if p r₀ then f r₀ else r₀) = r := by
  simp only [update, List.mem_map]

/-- What holds of every row, and of the row that comes in. -/
theorem forall_insert {P : Row → Prop} {rows : List Row} {r : Row} (h : ∀ s ∈ rows, P s)
    (hr : P r) : ∀ s ∈ rows ++ [r], P s := by
  intro s hs
  rcases List.mem_append.mp hs with hold | hnew
  · exact h s hold
  · rw [List.mem_singleton.mp hnew]
    exact hr

theorem forall_update {P : Row → Prop} {p : Row → Bool} {rows : List Row} {r : Row}
    (h : ∀ s ∈ rows, P s) (hr : P r) : ∀ s ∈ update p (fun _ => r) rows, P s := by
  intro s hs
  rcases mem_update.mp hs with ⟨s₀, hs₀, rfl⟩
  split
  · exact hr
  · exact h s₀ hs₀

theorem delete_sublist (p : Row → Bool) (rows : List Row) : List.Sublist (delete p rows) rows :=
  List.filter_sublist

theorem mem_delete {p : Row → Bool} {rows : List Row} {r : Row} :
    r ∈ delete p rows ↔ r ∈ rows ∧ p r = false := by
  simp only [delete, List.mem_filter, Bool.not_eq_true']

/-- The row that a filter finds is the only one. -/
theorem eq_of_filter_eq {p : Row → Bool} {rows : List Row} {r s : Row} (h : rows.filter p = [r])
    (hs : s ∈ rows) (hp : p s = true) : r = s := by
  have hmem : s ∈ rows.filter p := List.mem_filter.mpr ⟨hs, hp⟩
  rw [h] at hmem
  exact (List.mem_singleton.mp hmem).symm

/-- When one row meets the condition, an update writes one row. -/
theorem update_eq_of_filter {p : Row → Bool} {f : Row → Row} {rows : List Row} {r : Row}
    (h : rows.filter p = [r]) : update p f rows = update p (fun _ => f r) rows := by
  refine List.map_congr_left (fun s hs => ?_)
  by_cases hp : p s = true
  · rw [eq_of_filter_eq h hs hp]
  · rw [if_neg hp, if_neg hp]

theorem mem_of_filter_eq {p : Row → Bool} {rows : List Row} {r : Row}
    (h : rows.filter p = [r]) : r ∈ rows ∧ p r = true := by
  rw [← List.mem_filter, h]
  exact List.mem_singleton_self r

/-- A row that meets the condition is there afterwards, changed. -/
theorem mem_update_self {p : Row → Bool} {f : Row → Row} {rows : List Row} {r : Row}
    (hr : r ∈ rows) (hp : p r = true) : f r ∈ update p f rows :=
  mem_update.mpr ⟨r, hr, if_pos hp⟩

/-- The row that a filter by key finds has that key. -/
theorem key_of_filter_eq [DecidableEq Key] {key : Row → Key} {k : Key} {rows : List Row} {r : Row}
    (h : rows.filter (fun s => key s == k) = [r]) : key r = k :=
  beq_iff_eq.mp (mem_of_filter_eq h).2

/-- An update that keeps the condition changes the row that meets it. -/
theorem filter_update_of_filter {p : Row → Bool} {rows : List Row} {old r : Row}
    (h : rows.filter p = [old]) (hp : p r = true) :
    (update p (fun _ => r) rows).filter p = [r] := by
  have hcond : ∀ s, p (if p s then r else s) = p s := by
    intro s
    by_cases hs : p s = true
    · rw [if_pos hs, hp, hs]
    · rw [if_neg hs]
  rw [update, List.filter_map]
  have hfilter : rows.filter (p ∘ fun s => if p s then r else s) = [old] := by
    rw [← h]
    exact List.filter_congr (fun s _ => hcond s)
  rw [hfilter, List.map_singleton, if_pos (mem_of_filter_eq h).2]

theorem delete_eq_self {p : Row → Bool} {rows : List Row} (h : ∀ r ∈ rows, p r = false) :
    delete p rows = rows := by
  refine List.filter_eq_self.mpr (fun r hr => ?_)
  rw [h r hr, Bool.not_false]

theorem any_update {p q : Row → Bool} {f : Row → Row} {rows : List Row}
    (h : ∀ r ∈ rows, p r = true → q (f r) = q r) :
    (update p f rows).any q = rows.any q := by
  rw [update, List.any_map]
  refine Bool.eq_iff_iff.mpr ?_
  simp only [List.any_eq_true, Function.comp_apply]
  constructor
  · rintro ⟨r, hr, hq⟩
    refine ⟨r, hr, ?_⟩
    by_cases hp : p r = true
    · rw [if_pos hp, h r hr hp] at hq
      exact hq
    · rw [if_neg hp] at hq
      exact hq
  · rintro ⟨r, hr, hq⟩
    refine ⟨r, hr, ?_⟩
    by_cases hp : p r = true
    · rw [if_pos hp, h r hr hp]
      exact hq
    · rw [if_neg hp]
      exact hq

section FindAfter

variable [DecidableEq Key] {key : Row → Key} (rows : List Row) (k i : Key)

theorem find_delete :
    find key (delete (fun r => key r == k) rows) i = if i = k then none else find key rows i := by
  rw [find, delete, List.find?_filter]
  by_cases hik : i = k
  · rw [if_pos hik, List.find?_eq_none]
    intro r _ hr
    simp only [Bool.not_eq_true', beq_eq_false_iff_ne, decide_eq_true_eq] at hr
    exact hr.1 (hr.2.trans hik)
  · rw [if_neg hik, find]
    refine congrFun (congrArg _ (funext (fun r => ?_))) rows
    by_cases hri : key r = i
    · simp only [hri, beq_eq_false_iff_ne.mpr hik, Bool.not_false, decide_true, and_self]
    · simp only [decide_eq_false hri, Bool.false_eq_true, and_false, decide_false]

/-- An update that keeps the keys. -/
theorem find_update {f : Row → Row} (hf : ∀ r, key (f r) = key r) :
    find key (update (fun r => key r == k) f rows) i =
      if i = k then (find key rows i).map f else find key rows i := by
  have hcond : ((fun r => decide (key r = i)) ∘ fun r => if (key r == k) = true then f r else r) =
      fun r => decide (key r = i) := by
    funext r
    simp only [Function.comp_apply]
    by_cases hk : (key r == k) = true
    · rw [if_pos hk, hf]
    · rw [if_neg hk]
  rw [find, update, List.find?_map, hcond, ← find]
  rcases hfind : find key rows i with _ | r
  · simp only [Option.map_none, ite_self]
  · have hkey := (mem_of_find key hfind).2
    by_cases hik : i = k
    · rw [if_pos hik, Option.map_some, Option.map_some, if_pos (beq_iff_eq.mpr (hkey.trans hik))]
    · rw [if_neg hik, Option.map_some, if_neg (fun h => hik (hkey.symm.trans (beq_iff_eq.mp h)))]

theorem find_insert {r : Row} (hnone : find key rows (key r) = none) :
    find key (rows ++ [r]) i = if i = key r then some r else find key rows i := by
  rw [find, List.find?_append, ← find, List.find?_singleton]
  by_cases hik : i = key r
  · rw [if_pos hik, hik, hnone, Option.none_or, if_pos (decide_eq_true rfl)]
  · rw [if_neg hik, if_neg (fun h => hik (of_decide_eq_true h).symm), Option.or_none]

end FindAfter

section Keys

variable (key : Row → Key)

/-- The primary key constraint. -/
def Distinct (rows : List Row) : Prop :=
  (rows.map key).Nodup

instance [DecidableEq Key] (rows : List Row) : Decidable (Distinct key rows) :=
  inferInstanceAs (Decidable (rows.map key).Nodup)

theorem distinct_nil : Distinct key [] :=
  List.nodup_nil

theorem eq_of_key_eq {rows : List Row} (hd : Distinct key rows) {r s : Row}
    (hr : r ∈ rows) (hs : s ∈ rows) (h : key r = key s) : r = s :=
  List.inj_on_of_nodup_map hd hr hs h

/-- Looking a key up is membership, when keys are distinct. -/
theorem find_eq_some_iff [DecidableEq Key] {rows : List Row} (hd : Distinct key rows)
    {k : Key} {r : Row} : find key rows k = some r ↔ r ∈ rows ∧ key r = k := by
  constructor
  · exact mem_of_find key
  · rintro ⟨hr, hk⟩
    rcases hfind : find key rows k with _ | s
    · exact absurd hk ((find_eq_none_iff key).mp hfind r hr)
    · rcases mem_of_find key hfind with ⟨hs, hsk⟩
      rw [eq_of_key_eq key hd hs hr (hsk.trans hk.symm)]

/-- A key names one row. -/
theorem filter_key_eq [DecidableEq Key] {rows : List Row} (hd : Distinct key rows) {r : Row}
    (hr : r ∈ rows) {k : Key} (hk : key r = k) : rows.filter (fun s => key s == k) = [r] := by
  induction rows with
  | nil => exact absurd hr List.not_mem_nil
  | cons s rows ih =>
      rw [Distinct, List.map_cons, List.nodup_cons] at hd
      rcases List.mem_cons.mp hr with rfl | hr
      · have hnone : rows.filter (fun s => key s == k) = [] := by
          refine List.filter_eq_nil_iff.mpr (fun s hs heq => hd.1 ?_)
          rw [hk, ← beq_iff_eq.mp heq]
          exact List.mem_map_of_mem hs
        rw [List.filter_cons, if_pos (beq_iff_eq.mpr hk), hnone]
      · have hne : ¬ (key s == k) = true := by
          intro heq
          refine hd.1 ?_
          rw [beq_iff_eq.mp heq, ← hk]
          exact List.mem_map_of_mem hr
        rw [List.filter_cons, if_neg hne]
        exact ih hd.2 hr

/-- A filter by key finds one row when there is one. -/
theorem exists_filter_key_eq_iff [DecidableEq Key] {rows : List Row} (hd : Distinct key rows)
    {k : Key} : (∃ r, rows.filter (fun s => key s == k) = [r]) ↔ ∃ r ∈ rows, key r = k := by
  constructor
  · intro h
    rcases h with ⟨r, hr⟩
    exact ⟨r, (mem_of_filter_eq hr).1, key_of_filter_eq hr⟩
  · intro h
    rcases h with ⟨r, hr, hk⟩
    exact ⟨r, filter_key_eq key hd hr hk⟩

/-- A condition that fixes the key is met by one row at most. -/
theorem length_filter_le_one {rows : List Row} (hd : Distinct key rows) {p : Row → Bool} {k : Key}
    (h : ∀ r ∈ rows, p r = true → key r = k) : (rows.filter p).length ≤ 1 := by
  induction rows with
  | nil => exact Nat.zero_le 1
  | cons r rows ih =>
      rw [Distinct, List.map_cons, List.nodup_cons] at hd
      by_cases hp : p r = true
      · have hnone : rows.filter p = [] := by
          refine List.filter_eq_nil_iff.mpr (fun s hs hps => hd.1 ?_)
          rw [h r List.mem_cons_self hp, ← h s (List.mem_cons_of_mem r hs) hps]
          exact List.mem_map_of_mem hs
        rw [List.filter_cons_of_pos hp, hnone]
        exact Nat.le_refl 1
      · rw [List.filter_cons_of_neg hp]
        exact ih hd.2 (fun s hs => h s (List.mem_cons_of_mem r hs))

theorem distinct_insert {rows : List Row} {r : Row} (hd : Distinct key rows)
    (hfresh : ∀ s ∈ rows, key s ≠ key r) : Distinct key (rows ++ [r]) := by
  rw [Distinct, List.map_append, List.map_singleton]
  refine List.nodup_append.mpr ⟨hd, List.nodup_singleton _, ?_⟩
  intro a ha b hb
  rcases List.mem_map.mp ha with ⟨s, hs, rfl⟩
  rw [List.mem_singleton.mp hb]
  exact hfresh s hs

theorem map_key_update {p : Row → Bool} {f : Row → Row} {rows : List Row}
    (hf : ∀ r ∈ rows, p r = true → key (f r) = key r) :
    (update p f rows).map key = rows.map key := by
  rw [update, List.map_map]
  refine List.map_congr_left (fun r hr => ?_)
  simp only [Function.comp_apply]
  by_cases hp : p r = true
  · rw [if_pos hp, hf r hr hp]
  · rw [if_neg hp]

theorem distinct_update {p : Row → Bool} {f : Row → Row} {rows : List Row}
    (hd : Distinct key rows) (hf : ∀ r ∈ rows, p r = true → key (f r) = key r) :
    Distinct key (update p f rows) := by
  rw [Distinct, map_key_update key hf]
  exact hd

/-- One row replaced by a row with its key. -/
theorem distinct_update_key [DecidableEq Key] {rows : List Row} {row : Row}
    (hd : Distinct key rows) :
    Distinct key (update (fun r => key r == key row) (fun _ => row) rows) :=
  distinct_update key hd (fun _ _ hk => (beq_iff_eq.mp hk).symm)

/-- One row replaced by a row with a new key. -/
theorem distinct_replace {p : Row → Bool} {rows : List Row} {r : Row} (hd : Distinct key rows)
    (hone : (rows.filter p).length ≤ 1) (hfresh : ∀ s ∈ delete p rows, key s ≠ key r) :
    Distinct key (update p (fun _ => r) rows) := by
  induction rows with
  | nil => exact hd
  | cons s rows ih =>
      rw [Distinct, List.map_cons, List.nodup_cons] at hd
      have hrest : ∀ t ∈ delete p rows, key t ≠ key r := by
        intro t ht
        refine hfresh t (mem_delete.mpr ?_)
        exact ⟨List.mem_cons_of_mem s (mem_delete.mp ht).1, (mem_delete.mp ht).2⟩
      rw [Distinct, update, List.map_cons, List.map_cons, List.nodup_cons]
      by_cases hp : p s = true
      · -- No other row is replaced.
        rw [List.filter_cons_of_pos hp, List.length_cons] at hone
        have hnone : ∀ t ∈ rows, p t = false := by
          intro t ht
          rw [← Bool.not_eq_true]
          exact List.filter_eq_nil_iff.mp (List.length_eq_zero_iff.mp (by omega)) t ht
        have hsame : rows.map (fun t => if p t = true then r else t) = rows := by
          refine (List.map_congr_left (fun t ht => ?_)).trans (List.map_id rows)
          rw [hnone t ht, if_neg Bool.false_ne_true, id]
        rw [if_pos hp, hsame]
        refine ⟨fun hmem => ?_, hd.2⟩
        rcases List.mem_map.mp hmem with ⟨t, ht, hkey⟩
        exact hrest t (mem_delete.mpr ⟨ht, hnone t ht⟩) hkey
      -- A row that stays: at most one row behind it is replaced, by a key that is new.
      · rw [List.filter_cons_of_neg hp] at hone
        rw [if_neg hp]
        refine ⟨fun hmem => ?_, ih hd.2 hone hrest⟩
        rcases List.mem_map.mp hmem with ⟨t, ht, hkey⟩
        rcases mem_update.mp ht with ⟨u, hu, rfl⟩
        split at hkey
        · rw [Bool.not_eq_true] at hp
          exact hfresh s (mem_delete.mpr ⟨List.mem_cons_self, hp⟩) hkey.symm
        · exact hd.1 (hkey ▸ List.mem_map_of_mem hu)

theorem distinct_sublist {rows rows' : List Row} (hd : Distinct key rows)
    (hsub : List.Sublist rows' rows) : Distinct key rows' :=
  hd.sublist (hsub.map key)

variable [Preorder Key]

/-- Every key is under the bound. -/
def Below (bound : Key) (rows : List Row) : Prop :=
  ∀ r ∈ rows, key r < bound

theorem below_nil (bound : Key) : Below key bound [] := by
  intro r hr
  exact absurd hr List.not_mem_nil

theorem below_mono {b b' : Key} {rows : List Row} (hb : b ≤ b') (h : Below key b rows) :
    Below key b' rows :=
  fun r hr => lt_of_lt_of_le (h r hr) hb

theorem below_insert {b : Key} {rows : List Row} {r : Row} (h : Below key b rows)
    (hr : key r < b) : Below key b (rows ++ [r]) := by
  intro s hs
  rcases List.mem_append.mp hs with hs | hs
  · exact h s hs
  · rw [List.mem_singleton.mp hs]
    exact hr

theorem below_update {b : Key} {p : Row → Bool} {f : Row → Row} {rows : List Row}
    (h : Below key b rows) (hf : ∀ r ∈ rows, p r = true → key (f r) = key r) :
    Below key b (update p f rows) := by
  intro s hs
  rcases mem_update.mp hs with ⟨r, hr, rfl⟩
  by_cases hp : p r = true
  · rw [if_pos hp, hf r hr hp]
    exact h r hr
  · rw [if_neg hp]
    exact h r hr

theorem below_update_key [DecidableEq Key] {b : Key} {rows : List Row} {row : Row}
    (h : Below key b rows) :
    Below key b (update (fun r => key r == key row) (fun _ => row) rows) :=
  below_update key h (fun _ _ hk => (beq_iff_eq.mp hk).symm)

theorem below_sublist {b : Key} {rows rows' : List Row} (h : Below key b rows)
    (hsub : List.Sublist rows' rows) : Below key b rows' :=
  fun r hr => h r (hsub.subset hr)

end Keys

/-! ## References -/

section References

variable {Child Parent : Type*} {fk : Child → Key} {key : Parent → Key}
  {children : List Child} {parents : List Parent}

/-- A foreign key constraint: every child has its parent. -/
def References (fk : Child → Key) (key : Parent → Key) (children : List Child)
    (parents : List Parent) : Prop :=
  ∀ r ∈ children, ∃ s ∈ parents, key s = fk r

theorem references_nil : References fk key [] parents := by
  intro r hr
  exact absurd hr List.not_mem_nil

theorem references_insert_child {r : Child} (h : References fk key children parents)
    (hr : ∃ s ∈ parents, key s = fk r) : References fk key (children ++ [r]) parents := by
  intro c hc
  rcases List.mem_append.mp hc with hc | hc
  · exact h c hc
  · rw [List.mem_singleton.mp hc]
    exact hr

theorem references_insert_parent {s : Parent} (h : References fk key children parents) :
    References fk key children (parents ++ [s]) := by
  intro c hc
  rcases h c hc with ⟨p, hp, hkey⟩
  exact ⟨p, List.mem_append_left _ hp, hkey⟩

theorem references_update_child {p : Child → Bool} {f : Child → Child}
    (h : References fk key children parents)
    (hf : ∀ r ∈ children, p r = true → ∃ s ∈ parents, key s = fk (f r)) :
    References fk key (update p f children) parents := by
  intro c hc
  rcases mem_update.mp hc with ⟨r, hr, rfl⟩
  by_cases hp : p r = true
  · rw [if_pos hp]
    exact hf r hr hp
  · rw [if_neg hp]
    exact h r hr

theorem references_update_parent {p : Parent → Bool} {f : Parent → Parent}
    (h : References fk key children parents)
    (hf : ∀ s ∈ parents, p s = true → key (f s) = key s) :
    References fk key children (update p f parents) := by
  intro c hc
  rcases h c hc with ⟨s, hs, hkey⟩
  refine ⟨if p s then f s else s, mem_update.mpr ⟨s, hs, rfl⟩, ?_⟩
  by_cases hp : p s = true
  · rw [if_pos hp, hf s hs hp, hkey]
  · rw [if_neg hp, hkey]

theorem references_sublist_child {children' : List Child}
    (h : References fk key children parents) (hsub : List.Sublist children' children) :
    References fk key children' parents :=
  fun c hc => h c (hsub.subset hc)

/-- A cascade: the children of a deleted parent are deleted too. -/
theorem references_cascade {children' : List Child} {p : Parent → Bool}
    (h : References fk key children parents) (hsub : List.Sublist children' children)
    (hgone : ∀ c ∈ children', ∀ s ∈ parents, key s = fk c → p s = false) :
    References fk key children' (delete p parents) := by
  intro c hc
  rcases h c (hsub.subset hc) with ⟨s, hs, hkey⟩
  exact ⟨s, mem_delete.mpr ⟨hs, hgone c hc s hs hkey⟩, hkey⟩

end References

/-! ## Continuity -/

section Continues

variable {View : Type*} [Preorder Key] {key : Row → Key} {view : Row → View} {bound : Key}
  {rows rows' : List Row}

/-- A row whose key is under the bound was there before, and has not changed as far as the
    view goes. -/
def Continues (key : Row → Key) (view : Row → View) (bound : Key) (rows rows' : List Row) : Prop :=
  ∀ r' ∈ rows', key r' < bound → ∃ r ∈ rows, key r = key r' ∧ view r = view r'

theorem continues_sublist (h : List.Sublist rows' rows) : Continues key view bound rows rows' :=
  fun r hr _ => ⟨r, h.subset hr, rfl, rfl⟩

theorem continues_refl (rows : List Row) : Continues key view bound rows rows :=
  continues_sublist (List.Sublist.refl rows)

/-- The counter does not go back. -/
theorem continues_trans {bound' : Key} {rows'' : List Row} (hbound : bound ≤ bound')
    (h : Continues key view bound rows rows') (h' : Continues key view bound' rows' rows'') :
    Continues key view bound rows rows'' := by
  intro r'' hr'' hlt
  rcases h' r'' hr'' (lt_of_lt_of_le hlt hbound) with ⟨r', hr', hkey', hview'⟩
  rw [← hkey'] at hlt
  rcases h r' hr' hlt with ⟨r, hr, hkey, hview⟩
  exact ⟨r, hr, hkey.trans hkey', hview.trans hview'⟩

/-- The counter hands out the key of a new row. -/
theorem continues_insert {r : Row} (hkey : key r = bound) :
    Continues key view bound rows (rows ++ [r]) := by
  intro s hs hlt
  rcases List.mem_append.mp hs with hs | hs
  · exact ⟨s, hs, rfl, rfl⟩
  · rw [List.mem_singleton.mp hs, hkey] at hlt
    exact absurd hlt (lt_irrefl bound)

/-- A row takes the place of an older one. -/
theorem continues_replace {p : Row → Bool} {old row : Row} (hold : old ∈ rows)
    (hkey : key old = key row) (hview : view old = view row) :
    Continues key view bound rows (update p (fun _ => row) rows) := by
  intro s hs _
  rcases mem_update.mp hs with ⟨r, hr, rfl⟩
  by_cases hp : p r = true
  · rw [if_pos hp]
    exact ⟨old, hold, hkey, hview⟩
  · rw [if_neg hp]
    exact ⟨r, hr, rfl, rfl⟩

/-- An update of columns that the view does not show. -/
theorem continues_update {p : Row → Bool} {f : Row → Row} (hkey : ∀ r, key (f r) = key r)
    (hview : ∀ r, view (f r) = view r) : Continues key view bound rows (update p f rows) := by
  intro s hs _
  rcases mem_update.mp hs with ⟨r, hr, rfl⟩
  by_cases hp : p r = true
  · rw [if_pos hp]
    exact ⟨r, hr, (hkey r).symm, (hview r).symm⟩
  · rw [if_neg hp]
    exact ⟨r, hr, rfl, rfl⟩

/-- A key that is in use stands for the same row later on, if it still stands for one. -/
theorem view_eq_of_continues (hd : Distinct key rows) (hb : Below key bound rows)
    (h : Continues key view bound rows rows') {r r' : Row} (hr : r ∈ rows) (hr' : r' ∈ rows')
    (hkey : key r = key r') : view r = view r' := by
  have hlt := hb r hr
  rw [hkey] at hlt
  rcases h r' hr' hlt with ⟨s, hs, hsk, hsv⟩
  rw [eq_of_key_eq key hd hr hs (hkey.trans hsk.symm)]
  exact hsv

end Continues

/-! ## Frames

The view of a table is `rows.filter q`. -/

theorem view_insert {q : Row → Bool} {rows : List Row} {r : Row} (h : q r = false) :
    (rows ++ [r]).filter q = rows.filter q := by
  rw [List.filter_append, List.filter_singleton, h, Bool.cond_false, List.append_nil]

theorem view_update {p q : Row → Bool} {f : Row → Row} {rows : List Row}
    (h : ∀ r ∈ rows, p r = true → q r = false ∧ q (f r) = false) :
    (update p f rows).filter q = rows.filter q := by
  induction rows with
  | nil => rfl
  | cons r rows ih =>
      have hrest := ih (fun s hs => h s (List.mem_cons_of_mem r hs))
      rw [update] at hrest
      rw [update, List.map_cons]
      by_cases hp : p r = true
      · rcases h r List.mem_cons_self hp with ⟨hq, hqf⟩
        rw [if_pos hp, List.filter_cons_of_neg (by rw [hqf]; exact Bool.false_ne_true),
          List.filter_cons_of_neg (by rw [hq]; exact Bool.false_ne_true), hrest]
      · rw [if_neg hp, List.filter_cons, List.filter_cons, hrest]

theorem view_delete {p q : Row → Bool} {rows : List Row}
    (h : ∀ r ∈ rows, p r = true → q r = false) :
    (delete p rows).filter q = rows.filter q := by
  rw [delete, List.filter_filter]
  refine List.filter_congr (fun r hr => ?_)
  by_cases hp : p r = true
  · rw [h r hr hp, Bool.false_and]
  · rw [Bool.not_eq_true] at hp
    rw [hp, Bool.not_false, Bool.and_true]

/-- A row of a view replaced by one outside it would change the view; a row
    outside it replaced by another does not. -/
theorem view_update_key [DecidableEq Key] {key : Row → Key} {rows : List Row} {row old : Row}
    {q : Row → Bool} (hd : Distinct key rows) (hold : old ∈ rows) (hkey : key old = key row)
    (hq : q old = false) (hq' : q row = false) :
    (update (fun r => key r == key row) (fun _ => row) rows).filter q = rows.filter q := by
  refine view_update (fun r hr hk => ⟨?_, hq'⟩)
  rw [eq_of_key_eq key hd hr hold ((beq_iff_eq.mp hk).trans hkey.symm)]
  exact hq

/-- The same for whether some row is in the view. -/
theorem any_update_key [DecidableEq Key] {key : Row → Key} {rows : List Row} {row old : Row}
    {q : Row → Bool} (hd : Distinct key rows) (hold : old ∈ rows) (hkey : key old = key row)
    (hq : q old = false) (hq' : q row = false) :
    (update (fun r => key r == key row) (fun _ => row) rows).any q = rows.any q := by
  refine any_update (fun r hr hk => ?_)
  rw [eq_of_key_eq key hd hr hold ((beq_iff_eq.mp hk).trans hkey.symm), hq, hq']

/-- Whether some row of a view has a key, when the one row with that key is
    outside the view. -/
theorem any_key_of_not_view [DecidableEq Key] {key : Row → Key} {rows : List Row} {row : Row}
    {q : Row → Bool} (hd : Distinct key rows) (hrow : row ∈ rows) (hq : q row = false) :
    rows.any (fun r => q r && key r == key row) = false := by
  refine List.any_eq_false.mpr (fun r hr h => ?_)
  rcases Bool.and_eq_true_iff.mp h with ⟨hqr, hk⟩
  rw [eq_of_key_eq key hd hr hrow (beq_iff_eq.mp hk), hq] at hqr
  exact Bool.false_ne_true hqr

theorem any_insert {rows : List Row} {row : Row} {q : Row → Bool} (h : q row = false) :
    (rows ++ [row]).any q = rows.any q := by
  rw [List.any_append, List.any_cons, List.any_nil, h, Bool.or_false, Bool.or_false]

theorem any_delete {p q : Row → Bool} {rows : List Row} (h : ∀ r ∈ rows, p r = true → q r = false) :
    (delete p rows).any q = rows.any q := by
  refine Bool.eq_iff_iff.mpr ?_
  simp only [List.any_eq_true, mem_delete]
  constructor
  · rintro ⟨r, ⟨hr, _⟩, hq⟩
    exact ⟨r, hr, hq⟩
  · rintro ⟨r, hr, hq⟩
    refine ⟨r, ⟨hr, ?_⟩, hq⟩
    by_contra hp
    rw [Bool.not_eq_false] at hp
    rw [h r hr hp] at hq
    exact Bool.false_ne_true hq

/-! ## What a view decides -/

section Views

variable {p q : Row → Bool} {rows rows' : List Row}

/-- A condition that only rows of the view meet looks at the view only. -/
theorem filter_view (h : ∀ r ∈ rows, p r = true → q r = true) :
    (rows.filter q).filter p = rows.filter p := by
  rw [List.filter_filter]
  refine List.filter_congr (fun r hr => ?_)
  cases hp : p r with
  | false => rfl
  | true => rw [h r hr hp, Bool.and_self]

/-- What the rows that meet a condition decide. -/
theorem any_of_filter_eq (h : rows.filter p = rows'.filter p) : rows.any p = rows'.any p := by
  have hany : ∀ l : List Row, l.any p = (l.filter p).any (fun _ => true) := by
    intro l
    rw [List.any_filter]
    simp only [Bool.and_true]
  rw [hany rows, hany rows', h]

theorem find_of_filter_eq (h : rows.filter p = rows'.filter p) : rows.find? p = rows'.find? p := by
  rw [← List.head?_filter, ← List.head?_filter, h]

/-- Rows outside the view that a join finds nothing for. -/
theorem flatMap_view {Item : Type*} {f : Row → List Item}
    (h : ∀ r ∈ rows, p r = false → f r = []) : (rows.filter p).flatMap f = rows.flatMap f := by
  induction rows with
  | nil => rfl
  | cons r rows ih =>
      have ih := ih (fun x hx => h x (List.mem_cons_of_mem r hx))
      cases hp : p r with
      | true => rw [List.filter_cons_of_pos hp, List.flatMap_cons, List.flatMap_cons, ih]
      | false =>
          have hnot : ¬ p r = true := Bool.eq_false_iff.mp hp
          rw [List.filter_cons_of_neg hnot, List.flatMap_cons, h r List.mem_cons_self hp,
            List.nil_append, ih]

end Views

/-! ## Rows related one by one -/

section Related

variable {R : Row → Row → Prop} {rows rows' : List Row} {p q : Row → Bool}

theorem any_of_forall₂ (h : List.Forall₂ R rows rows') (hp : ∀ a b, R a b → q b = p a) :
    rows'.any q = rows.any p := by
  induction h with
  | nil => rfl
  | cons hab _ ih => rw [List.any_cons, List.any_cons, hp _ _ hab, ih]

/-- The first row that meets the condition, if there is one. -/
theorem find_of_forall₂ (h : List.Forall₂ R rows rows') (hp : ∀ a b, R a b → q b = p a) :
    (rows.find? p = none ∧ rows'.find? q = none) ∨
      ∃ a b, rows.find? p = some a ∧ rows'.find? q = some b ∧ R a b := by
  induction h with
  | nil => exact Or.inl ⟨rfl, rfl⟩
  | @cons a b _ _ hab _ ih =>
      have hq := hp a b hab
      cases hpa : p a with
      | true =>
          exact Or.inr ⟨a, b, List.find?_cons_of_pos hpa, List.find?_cons_of_pos (hq.trans hpa), hab⟩
      | false =>
          rw [List.find?_cons_of_neg (Bool.eq_false_iff.mp hpa),
            List.find?_cons_of_neg (Bool.eq_false_iff.mp (hq.trans hpa))]
          exact ih

theorem filter_of_forall₂ (h : List.Forall₂ R rows rows') (hp : ∀ a b, R a b → q b = p a) :
    List.Forall₂ R (rows.filter p) (rows'.filter q) := by
  refine List.rel_filter (fun a b hab => ?_) h
  change p a = true ↔ q b = true
  rw [hp a b hab]

theorem delete_of_forall₂ (h : List.Forall₂ R rows rows') (hp : ∀ a b, R a b → q b = p a) :
    List.Forall₂ R (delete p rows) (delete q rows') :=
  filter_of_forall₂ h (fun a b hab => by rw [hp a b hab])

theorem update_of_forall₂ {f g : Row → Row} (h : List.Forall₂ R rows rows')
    (hp : ∀ a b, R a b → q b = p a) (hf : ∀ a b, R a b → R (f a) (g b)) :
    List.Forall₂ R (update p f rows) (update q g rows') := by
  refine List.rel_map (fun a b hab => ?_) h
  rw [hp a b hab]
  split
  · exact hf a b hab
  · exact hab

end Related

end Table

end SyncMaster
