import Mathlib.Data.List.Sort
import Mathlib.Data.List.Nodup
import Mathlib.Data.List.Range

/-!
# Pages of a Sorted Answer

A long answer is read in pages: one query for each page, with a limit and an
offset. A query that orders its rows by a key may return rows with the same key
in any order, and the next query may return them in another.

What the pages add up to depends on whether this can be seen. The rows in front
of an offset are the same in every answer as long as the offset does not fall
between two rows with the same key: they are then the rows up to some key. When
it does fall there, one answer can show a row in front of the offset and the
next answer can show it behind, and the row is read twice while another is not
read at all.

## Main definitions

* `Answer`, `Sorting`: The answers to a query; a database that answers.
* `slice`, `slices`: A page; the pages of several answers put together.
* `CutsTie`: An offset falls between two rows with the same key.

## Theorems

* `filter_eq_take`: In a sorted list the rows up to a key are a prefix.
* `Answer.eq_of_injOn`: A key that is unique leaves one answer.
* `slices_const`: The pages of one answer are the answer.
* `slices_perm`: Pages of answers that agree in front of each offset are the
  rows.
* `slices_perm_iff`: For all answers this is so when no offset cuts a tie.
-/

namespace SyncMaster

namespace Paging

variable {Row Key : Type} [LinearOrder Key] {key : Row → Key} {rows l l' : List Row}
  {size count : Nat}

/-- The rows of a query in the order of a key. Rows with the same key stand in
    any order. -/
structure Answer (key : Row → Key) (rows answer : List Row) : Prop where
  perm : answer.Perm rows
  sorted : answer.Pairwise (fun a b => key a ≤ key b)

/-- A database that answers queries with this order. -/
structure Sorting (key : Row → Key) where
  order : List Row → List Row
  answers : ∀ rows, Answer key rows (order rows)

/-- The page with this number, from zero. -/
def slice (size i : Nat) (rows : List Row) : List Row :=
  (rows.drop (i * size)).take size

/-- The first pages, each from an answer of its own. -/
def slices (size count : Nat) (answers : Nat → List Row) : List Row :=
  (List.range count).flatMap (fun i => slice size i (answers i))

/-- An offset falls between two rows with the same key. -/
def CutsTie (key : Row → Key) (size : Nat) (rows : List Row) : Prop :=
  ∃ r ∈ rows, ∃ i, rows.countP (fun s => decide (key s < key r)) < i * size ∧
    i * size < rows.countP (fun s => decide (key s ≤ key r))

/-! ## Answers -/

/-- In a sorted list, the rows that a downward closed condition selects come
    first. -/
theorem filter_eq_take {p : Row → Bool} (hsorted : l.Pairwise (fun a b => key a ≤ key b))
    (hp : ∀ a b, key a ≤ key b → p b = true → p a = true) :
    l.filter p = l.take (l.countP p) := by
  induction l with
  | nil => rfl
  | cons a l ih =>
      rcases List.pairwise_cons.mp hsorted with ⟨ha, hl⟩
      by_cases hpa : p a = true
      · rw [List.filter_cons_of_pos hpa, List.countP_cons_of_pos hpa, List.take_succ_cons, ih hl]
      · -- Nothing behind a row that is not selected is selected.
        have hnone : ∀ b ∈ l, ¬ p b = true := fun b hb hpb => hpa (hp a b (ha b hb) hpb)
        rw [List.filter_cons_of_neg hpa, List.countP_cons_of_neg hpa,
          List.filter_eq_nil_iff.mpr hnone, List.countP_eq_zero.mpr hnone, List.take_zero]

/-- And the condition at an index is a bound on the index. -/
theorem getElem_iff_lt_countP {p : Row → Bool} {i : Nat}
    (hsorted : l.Pairwise (fun a b => key a ≤ key b))
    (hp : ∀ a b, key a ≤ key b → p b = true → p a = true) (hi : i < l.length) :
    p l[i] = true ↔ i < l.countP p := by
  induction l generalizing i with
  | nil => exact absurd hi (Nat.not_lt_zero i)
  | cons a l ih =>
      rcases List.pairwise_cons.mp hsorted with ⟨ha, hl⟩
      rw [List.length_cons] at hi
      by_cases hpa : p a = true
      · rw [List.countP_cons_of_pos hpa]
        cases i with
        | zero => simp only [List.getElem_cons_zero, hpa, true_iff]; omega
        | succ i =>
            rw [List.getElem_cons_succ, ih hl (by omega)]
            omega
      · have hnone : ∀ b ∈ l, ¬ p b = true := fun b hb hpb => hpa (hp a b (ha b hb) hpb)
        rw [List.countP_cons_of_neg hpa, List.countP_eq_zero.mpr hnone]
        cases i with
        | zero => simp only [List.getElem_cons_zero, hpa, Bool.false_eq_true, Nat.lt_irrefl]
        | succ i =>
            rw [List.getElem_cons_succ]
            have hget : l[i] ∈ l := List.getElem_mem (by omega)
            simp only [hnone _ hget, Bool.false_eq_true, Nat.not_lt_zero]

theorem Answer.filter_le (h : Answer key rows l) (k : Key) :
    l.filter (fun s => decide (key s ≤ k)) =
      l.take (rows.countP (fun s => decide (key s ≤ k))) := by
  rw [← h.perm.countP_eq]
  refine filter_eq_take h.sorted (fun a b hab hb => ?_)
  exact decide_eq_true (le_trans hab (of_decide_eq_true hb))

theorem Answer.getElem_le_iff (h : Answer key rows l) {i : Nat} (hi : i < l.length) (k : Key) :
    key l[i] ≤ k ↔ i < rows.countP (fun s => decide (key s ≤ k)) := by
  rw [← h.perm.countP_eq, ← getElem_iff_lt_countP h.sorted _ hi, decide_eq_true_eq]
  exact fun a b hab hb => decide_eq_true (le_trans hab (of_decide_eq_true hb))

theorem Answer.getElem_lt_iff (h : Answer key rows l) {i : Nat} (hi : i < l.length) (k : Key) :
    key l[i] < k ↔ i < rows.countP (fun s => decide (key s < k)) := by
  rw [← h.perm.countP_eq, ← getElem_iff_lt_countP h.sorted _ hi, decide_eq_true_eq]
  exact fun a b hab hb => decide_eq_true (lt_of_le_of_lt hab (of_decide_eq_true hb))

/-- A key that no two rows share leaves one answer. -/
theorem Answer.eq_of_injOn (h : Answer key rows l) (h' : Answer key rows l')
    (hkey : ∀ a ∈ rows, ∀ b ∈ rows, key a = key b → a = b) : l = l' := by
  refine List.Perm.eq_of_pairwise (fun a b ha hb hab hba => ?_) h.sorted h'.sorted
    (h.perm.trans h'.perm.symm)
  exact hkey a (h.perm.subset ha) b (h'.perm.subset hb) (le_antisymm hab hba)

/-- Sorting with the rows of the same key left in place. -/
def Sorting.stable (key : Row → Key) : Sorting key where
  order := fun rows => rows.mergeSort (fun a b => decide (key a ≤ key b))
  answers := by
    intro rows
    refine ⟨List.mergeSort_perm _ _, ?_⟩
    have htrans : ∀ a b c : Row, decide (key a ≤ key b) = true → decide (key b ≤ key c) = true →
        decide (key a ≤ key c) = true := by
      intro a b c hab hbc
      exact decide_eq_true (le_trans (of_decide_eq_true hab) (of_decide_eq_true hbc))
    have htotal : ∀ a b : Row, (decide (key a ≤ key b) || decide (key b ≤ key a)) = true := by
      intro a b
      rw [Bool.or_eq_true, decide_eq_true_eq, decide_eq_true_eq]
      exact le_total (key a) (key b)
    have hsorted := List.pairwise_mergeSort htrans htotal rows
    exact hsorted.imp (fun hab => of_decide_eq_true hab)

/-- Every answer is the answer of some database. -/
theorem Answer.exists_sorting (h : Answer key rows l) :
    ∃ sorting : Sorting key, sorting.order rows = l := by
  classical
  refine ⟨⟨fun rows' => if rows' = rows then l else (Sorting.stable key).order rows',
    fun rows' => ?_⟩, if_pos rfl⟩
  by_cases heq : rows' = rows
  · rw [if_pos heq, heq]
    exact h
  · rw [if_neg heq]
    exact (Sorting.stable key).answers rows'

/-! ## Pages -/

theorem slice_append_take (l : List Row) (i : Nat) :
    l.take (i * size) ++ slice size i l = l.take ((i + 1) * size) := by
  rw [slice, Nat.add_mul, Nat.one_mul, List.take_add]

theorem length_slice (l : List Row) (i : Nat) :
    (slice size i l).length = min size (l.length - i * size) := by
  rw [slice, List.length_take, List.length_drop]

theorem slices_succ (answers : Nat → List Row) :
    slices size (count + 1) answers =
      slices size count answers ++ slice size count (answers count) := by
  rw [slices, List.range_succ, List.flatMap_append, List.flatMap_singleton, slices]

/-- The pages of one answer, one after the other. -/
theorem slices_const (l : List Row) : slices size count (fun _ => l) = l.take (count * size) := by
  induction count with
  | zero => rw [Nat.zero_mul, List.take_zero, slices, List.range_zero, List.flatMap_nil]
  | succ count ih => rw [slices_succ, ih, slice_append_take]

/-- The pages of answers that agree in front of each offset. -/
theorem slices_perm (answers : Nat → List Row)
    (hagree : ∀ i j n, ((answers i).take (n * size)).Perm ((answers j).take (n * size))) :
    (slices size count answers).Perm ((answers 0).take (count * size)) := by
  induction count with
  | zero =>
      rw [Nat.zero_mul, List.take_zero]
      exact List.Perm.refl _
  | succ count ih =>
      -- The pages so far are what the next answer has in front of its offset.
      have hfront := ih.trans (hagree 0 count count)
      rw [slices_succ]
      refine (hfront.append_right _).trans ?_
      rw [slice_append_take]
      exact hagree count 0 (count + 1)

/-- Where no tie is cut, all answers have the same rows in front of the offset. -/
theorem take_perm (hcut : ¬ CutsTie key size rows) (h : Answer key rows l)
    (h' : Answer key rows l') (n : Nat) : (l.take (n * size)).Perm (l'.take (n * size)) := by
  have hlength := h.perm.length_eq
  have hlength' := h'.perm.length_eq
  by_cases hall : rows.length ≤ n * size
  · rw [List.take_of_length_le (by omega), List.take_of_length_le (by omega)]
    exact h.perm.trans h'.perm.symm
  by_cases hzero : n * size = 0
  · rw [hzero, List.take_zero, List.take_zero]
  -- The rows in front of the offset are those up to the key of the last one.
  have hlast : n * size - 1 < l.length := by omega
  have hmem : l[n * size - 1] ∈ rows := h.perm.subset (List.getElem_mem hlast)
  have hbelow := (h.getElem_lt_iff hlast (key l[n * size - 1])).not.mp (lt_irrefl _)
  have hupto := (h.getElem_le_iff hlast (key l[n * size - 1])).mp (le_refl _)
  have hcount : rows.countP (fun s => decide (key s ≤ key l[n * size - 1])) = n * size := by
    by_contra hne
    exact hcut ⟨l[n * size - 1], hmem, n, by omega, by omega⟩
  rw [← hcount, ← h.filter_le, ← h'.filter_le]
  exact (h.perm.trans h'.perm.symm).filter _

theorem mem_slice {a : Row} {i : Nat} :
    a ∈ slice size i l ↔ ∃ j, i * size ≤ j ∧ j < (i + 1) * size ∧ l[j]? = some a := by
  rw [slice, List.mem_iff_getElem?]
  have hmul : (i + 1) * size = i * size + size := by rw [Nat.add_mul, Nat.one_mul]
  constructor
  · intro h
    rcases h with ⟨j, hj⟩
    rw [List.getElem?_take, List.getElem?_drop] at hj
    split at hj
    · exact ⟨i * size + j, by omega, by omega, hj⟩
    · exact absurd hj (by simp only [reduceCtorEq, not_false_eq_true])
  · intro h
    rcases h with ⟨j, hlow, hhigh, hj⟩
    refine ⟨j - i * size, ?_⟩
    rw [List.getElem?_take, if_pos (by omega), List.getElem?_drop, Nat.add_sub_cancel' hlow]
    exact hj

/-- Two neighbours with the same key can be exchanged. -/
theorem Answer.exchange {front back : List Row} {a b : Row}
    (h : Answer key rows (front ++ a :: b :: back)) (hkey : key a = key b) :
    Answer key rows (front ++ b :: a :: back) where
  perm := ((List.Perm.swap a b back).append_left front).trans h.perm
  sorted := by
    have hsorted := h.sorted
    simp only [List.pairwise_append, List.pairwise_cons, List.mem_cons] at hsorted ⊢
    rcases hsorted with ⟨hfront, ⟨ha, hb, hback⟩, hcross⟩
    refine ⟨hfront, ⟨?_, fun s hs => ha s (Or.inr hs), hback⟩, fun x hx s hs => ?_⟩
    · intro s hs
      rcases hs with rfl | hs
      · exact le_of_eq hkey.symm
      · exact hb s hs
    · refine hcross x hx s ?_
      tauto

theorem exists_split {k : Nat} (hk : k + 1 < l.length) :
    ∃ front back, l = front ++ l[k] :: l[k + 1] :: back ∧ front.length = k := by
  refine ⟨l.take k, l.drop (k + 2), ?_, by rw [List.length_take]; omega⟩
  rw [List.getElem_cons_drop, List.getElem_cons_drop, List.take_append_drop]

/-- Where a tie is cut, two answers show one row on both sides of the offset. -/
theorem exists_answers_overlap (h : Answer key rows l) (hcut : CutsTie key size rows) :
    ∃ i l' a, Answer key rows l' ∧ (i + 1) * size < rows.length ∧
      a ∈ slice size i l ∧ a ∈ slice size (i + 1) l' := by
  rcases hcut with ⟨r, hr, n, hbelow, hupto⟩
  have hlength := h.perm.length_eq
  have hbound : rows.countP (fun s => decide (key s ≤ key r)) ≤ rows.length := List.countP_le_length
  obtain ⟨k, hk⟩ : ∃ k, k + 1 = n * size := ⟨n * size - 1, by omega⟩
  obtain ⟨i, rfl⟩ : ∃ i, n = i + 1 := by
    refine ⟨n - 1, (Nat.sub_add_cancel (Nat.pos_of_ne_zero (fun hz => ?_))).symm⟩
    rw [hz, Nat.zero_mul] at hk
    omega
  -- The rows on both sides of the offset have the key of the tie.
  have hkeys : ∀ j (hj : j < l.length), rows.countP (fun s => decide (key s < key r)) ≤ j →
      j < rows.countP (fun s => decide (key s ≤ key r)) → key l[j] = key r := by
    intro j hj hlow hhigh
    have hle := (h.getElem_le_iff hj (key r)).mpr hhigh
    have hge := (h.getElem_lt_iff hj (key r)).not.mpr (Nat.not_lt.mpr hlow)
    exact le_antisymm hle (not_lt.mp hge)
  have hlt : k + 1 < l.length := by omega
  have hkey : key l[k] = key l[k + 1] := by
    rw [hkeys k (by omega) (by omega) (by omega), hkeys (k + 1) hlt (by omega) (by omega)]
  rcases exists_split hlt with ⟨front, back, hsplit, hfront⟩
  have hanswer : Answer key rows (front ++ l[k + 1] :: l[k] :: back) := by
    refine Answer.exchange ?_ hkey
    rw [← hsplit]
    exact h
  have hsize : i * size < (i + 1) * size := by
    rw [Nat.add_mul, Nat.one_mul]
    rcases Nat.eq_zero_or_pos size with hz | hz
    · rw [hz, Nat.mul_zero] at hk
      omega
    · omega
  refine ⟨i, front ++ l[k + 1] :: l[k] :: back, l[k], hanswer, by omega, ?_, ?_⟩
  · exact mem_slice.mpr ⟨k, by omega, by omega, List.getElem?_eq_getElem (by omega)⟩
  · refine mem_slice.mpr ⟨k + 1, by omega, ?_, ?_⟩
    · have hnext : (i + 1) * size < (i + 1 + 1) * size := by
        rw [Nat.add_mul (i + 1), Nat.one_mul]
        have := Nat.add_mul i 1 size
        omega
      omega
    · rw [List.getElem?_append_right (by omega), hfront, Nat.add_sub_cancel_left]
      rfl

/-- Read page by page, the answers add up to the rows, whatever the database does
    with rows of the same key, just when no offset cuts a tie. -/
theorem slices_perm_iff (hnodup : rows.Nodup) (hcount : rows.length ≤ count * size) :
    (∀ choice : Nat → Sorting key,
      (slices size count (fun i => (choice i).order rows)).Perm rows) ↔
      ¬ CutsTie key size rows := by
  constructor
  · intro h hcut
    rcases exists_answers_overlap ((Sorting.stable key).answers rows) hcut with
      ⟨i, l', a, hanswer, hlt, ha, ha'⟩
    rcases hanswer.exists_sorting with ⟨other, hother⟩
    -- The next page is read from the other answer.
    have hperm := h (fun j => if j = i + 1 then other else Sorting.stable key)
    have hdistinct := hperm.nodup_iff.mpr hnodup
    rw [slices, List.nodup_flatMap] at hdistinct
    have hpages : i + 1 < count := by
      by_contra hge
      have := Nat.mul_le_mul_right size (Nat.not_lt.mp hge)
      omega
    have hdisjoint := List.pairwise_iff_getElem.mp hdistinct.2 i (i + 1)
      (by rw [List.length_range]; omega) (by rw [List.length_range]; omega) (Nat.lt_succ_self i)
    simp only [List.getElem_range, Function.onFun, if_true, hother] at hdisjoint
    rw [if_neg (by omega)] at hdisjoint
    exact hdisjoint ha ha'
  · intro hcut choice
    have hagree : ∀ i j n, (((choice i).order rows).take (n * size)).Perm
        (((choice j).order rows).take (n * size)) :=
      fun i j n => take_perm hcut ((choice i).answers rows) ((choice j).answers rows) n
    refine (slices_perm (fun i => (choice i).order rows) hagree).trans ?_
    have hlength := ((choice 0).answers rows).perm.length_eq
    rw [List.take_of_length_le (by omega)]
    exact ((choice 0).answers rows).perm

end Paging

end SyncMaster
