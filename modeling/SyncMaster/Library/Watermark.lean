import Mathlib.Order.MinMax
import Mathlib.Data.List.Basic

/-!
# Polling with a Watermark

A poller that reads a changing table again and again does not want the rows it
has read before. It keeps a mark, the largest stamp it has read, asks for the
rows above it, and moves the mark to the largest stamp of the answer.

Reading and moving the mark are two steps, and the table may change in
between. The bound that the next read will ask for is therefore not the mark
but the mark and the rows read and not yet accounted for, together. `Unseen`
compares a row with both, and moving the mark does not change it: a row that
is unseen stays so until the next read, and is returned by it if it is in the
table then. A row that is not unseen is not returned, in the table or not.

## Main definitions

* `Above`, `fetch`, `advance`: The query, its answer and the next mark.
* `covered`, `Attained`: The rows up to the mark, and a mark that is one of them.
* `Poller`: The mark and the answer under way.
* `Poller.read`, `Poller.move`: The two steps.
* `Poller.Unseen`: The row is above all that was read.

## Theorems

* `not_above_advance_fetch`: After a turn, the mark covers the table.
* `above_advance_iff`: What the next mark leaves above it.
* `covered_append_fetch`, `covered_advance`: A turn covers what was not covered.
* `advance_fetch_eq`: From an attained mark, the next one is the largest stamp.
* `unseen_move`: Moving the mark does not change what is unseen.
* `mem_fetch_iff_unseen`: A read returns the rows that are unseen.
-/

namespace SyncMaster

namespace Watermark

variable {Row Stamp : Type*} [LinearOrder Stamp] (stamp : Row → Stamp)

/-- The stamp of the row is above the mark. Without a mark, all are. -/
def Above (mark : Option Stamp) (r : Row) : Prop :=
  ∀ m ∈ mark, m < stamp r

instance (mark : Option Stamp) (r : Row) : Decidable (Above stamp mark r) :=
  inferInstanceAs (Decidable (∀ m ∈ mark, m < stamp r))

/-- The rows above the mark. -/
def fetch (mark : Option Stamp) (rows : List Row) : List Row :=
  rows.filter (fun r => Above stamp mark r)

/-- The largest stamp of the answer, or the old mark when it is empty. -/
def advance (mark : Option Stamp) (fetched : List Row) : Option Stamp :=
  if fetched.isEmpty then mark else (fetched.map stamp).max?

variable {stamp} {mark : Option Stamp} {rows fetched : List Row} {r : Row}

theorem mem_fetch : r ∈ fetch stamp mark rows ↔ r ∈ rows ∧ Above stamp mark r := by
  rw [fetch, List.mem_filter, decide_eq_true_iff]

/-- The next mark is the old one, or the stamp of a row that bounds the others. -/
theorem advance_cases (stamp : Row → Stamp) (mark : Option Stamp) (fetched : List Row) :
    (fetched = [] ∧ advance stamp mark fetched = mark) ∨
      ∃ last ∈ fetched, advance stamp mark fetched = some (stamp last) ∧
        ∀ f ∈ fetched, stamp f ≤ stamp last := by
  cases fetched with
  | nil => exact Or.inl ⟨rfl, rfl⟩
  | cons first rest =>
      rcases hmax : ((first :: rest).map stamp).max? with _ | m
      · exact absurd (List.max?_eq_none_iff.mp hmax) (List.cons_ne_nil _ _)
      · rcases List.max?_eq_some_iff.mp hmax with ⟨hmem, hbound⟩
        rcases List.mem_map.mp hmem with ⟨last, hlast, rfl⟩
        exact Or.inr ⟨last, hlast, hmax, fun f hf => hbound _ (List.mem_map_of_mem hf)⟩

/-- A row is above the next mark when it is above the old one and above every row
    of the answer. -/
theorem above_advance_iff (hfetched : ∀ f ∈ fetched, Above stamp mark f) :
    Above stamp (advance stamp mark fetched) r ↔
      Above stamp mark r ∧ ∀ f ∈ fetched, stamp f < stamp r := by
  rcases advance_cases stamp mark fetched with
    ⟨rfl, hsame⟩ | ⟨last, hlast, hmark, hbound⟩
  · rw [hsame]
    exact ⟨fun h => ⟨h, fun f hf => absurd hf List.not_mem_nil⟩, And.left⟩
  · rw [hmark]
    constructor
    · intro h
      have hlt : stamp last < stamp r := h _ rfl
      exact ⟨fun m hm => lt_trans (hfetched last hlast m hm) hlt,
        fun f hf => lt_of_le_of_lt (hbound f hf) hlt⟩
    · rintro ⟨_, h⟩ m hm
      cases hm
      exact h last hlast

/-- After the answer is accounted for, the mark covers the whole table. -/
theorem not_above_advance_fetch (hr : r ∈ rows) :
    ¬ Above stamp (advance stamp mark (fetch stamp mark rows)) r := by
  intro h
  rcases (above_advance_iff (fun f hf => (mem_fetch.mp hf).2)).mp h with ⟨hmark, hall⟩
  exact lt_irrefl _ (hall r (mem_fetch.mpr ⟨hr, hmark⟩))

/-! ## What the mark accounts for -/

/-- The rows that the mark accounts for. -/
def covered (stamp : Row → Stamp) (mark : Option Stamp) (rows : List Row) : List Row :=
  rows.filter (fun r => ¬ Above stamp mark r)

/-- The mark is the stamp of a row. -/
def Attained (stamp : Row → Stamp) (mark : Option Stamp) (rows : List Row) : Prop :=
  ∀ m ∈ mark, ∃ r ∈ rows, stamp r = m

@[simp] theorem fetch_none (stamp : Row → Stamp) (rows : List Row) :
    fetch stamp none rows = rows :=
  List.filter_eq_self.mpr (fun _ _ => decide_eq_true (fun _ hm => nomatch hm))

/-- What is covered and what is fetched make up the table. -/
theorem covered_append_fetch (stamp : Row → Stamp) (mark : Option Stamp) (rows : List Row) :
    (covered stamp mark rows ++ fetch stamp mark rows).Perm rows := by
  have hnot : covered stamp mark rows = rows.filter (fun r => !decide (Above stamp mark r)) :=
    List.filter_congr (fun r _ => decide_not)
  rw [hnot]
  exact List.perm_append_comm.trans (List.filter_append_perm _ rows)

/-- After a turn, the whole table is covered. -/
theorem covered_advance (stamp : Row → Stamp) (mark : Option Stamp) (rows : List Row) :
    covered stamp (advance stamp mark (fetch stamp mark rows)) rows = rows :=
  List.filter_eq_self.mpr (fun _ hr => decide_eq_true (not_above_advance_fetch hr))

/-- A new row above the mark is not covered. -/
theorem covered_append (h : Above stamp mark r) :
    covered stamp mark (rows ++ [r]) = covered stamp mark rows := by
  have hnil : [r].filter (fun r => ¬ Above stamp mark r) = [] := by
    refine List.filter_eq_nil_iff.mpr (fun a ha => ?_)
    rw [List.mem_singleton.mp ha, decide_eq_true_iff]
    exact not_not_intro h
  rw [covered, List.filter_append, hnil, List.append_nil]
  rfl

omit [LinearOrder Stamp] in
theorem attained_append (r : Row) (h : Attained stamp mark rows) :
    Attained stamp mark (rows ++ [r]) := by
  intro m hm
  rcases h m hm with ⟨old, hold, hstamp⟩
  exact ⟨old, List.mem_append_left _ hold, hstamp⟩

/-- A row that is above all others is above an attained mark. -/
theorem above_of_attained (h : Attained stamp mark rows) (hr : ∀ old ∈ rows, stamp old < stamp r) :
    Above stamp mark r := by
  intro m hm
  rcases h m hm with ⟨old, hold, rfl⟩
  exact hr old hold

/-- From an attained mark the next one is the largest stamp of the table. -/
theorem advance_fetch_eq (h : Attained stamp mark rows) :
    advance stamp mark (fetch stamp mark rows) = (rows.map stamp).max? := by
  have hcover : ∀ r ∈ rows, ¬ Above stamp (advance stamp mark (fetch stamp mark rows)) r :=
    fun _ hr => not_above_advance_fetch hr
  have hattained : Attained stamp (advance stamp mark (fetch stamp mark rows)) rows := by
    intro m hm
    rcases advance_cases stamp mark (fetch stamp mark rows) with ⟨_, hsame⟩ | ⟨last, hlast, hmark, _⟩
    · exact h m (hsame ▸ hm)
    · exact ⟨last, (mem_fetch.mp hlast).1, Option.some.inj (hmark.symm.trans hm)⟩
  rcases hmark : advance stamp mark (fetch stamp mark rows) with _ | m
  · -- Without a mark there is no row, since every row would be above it.
    refine (List.max?_eq_none_iff.mpr (List.map_eq_nil_iff.mpr ?_)).symm
    refine List.eq_nil_iff_forall_not_mem.mpr (fun r hr => ?_)
    exact hcover r hr (fun _ hm => by rw [hmark] at hm; cases hm)
  · rcases hattained m hmark with ⟨last, hlast, hlastm⟩
    refine (List.max?_eq_some_iff.mpr ⟨hlastm ▸ List.mem_map_of_mem hlast, ?_⟩).symm
    intro x hx
    rcases List.mem_map.mp hx with ⟨r, hr, rfl⟩
    by_contra hlt
    refine hcover r hr (fun k hk => ?_)
    cases hmark.symm.trans hk
    exact not_le.mp hlt

theorem attained_max? (stamp : Row → Stamp) (rows : List Row) :
    Attained stamp (rows.map stamp).max? rows := by
  intro m hm
  exact List.mem_map.mp (List.max?_eq_some_iff.mp hm).1

/-- A read from an attained mark does not return the whole table. -/
theorem length_fetch_lt {m : Stamp} (h : Attained stamp (some m) rows) :
    (fetch stamp (some m) rows).length < rows.length := by
  rcases h m rfl with ⟨r, hr, rfl⟩
  refine List.length_filter_lt_length_iff_exists.mpr ⟨r, hr, ?_⟩
  rw [decide_eq_true_iff]
  exact fun habove => lt_irrefl _ (habove _ rfl)

/-! ## Pollers -/

/-- The mark, and the answer of a read that the mark does not account for yet.
    The answer was read above the mark. -/
structure Poller (stamp : Row → Stamp) where
  mark : Option Stamp
  pending : Option (List Row)
  above : ∀ fetched ∈ pending, ∀ f ∈ fetched, Above stamp mark f

namespace Poller

/-- A poller that has read nothing. -/
def init (stamp : Row → Stamp) : Poller stamp where
  mark := none
  pending := none
  above := fun _ h => nomatch h

/-- Read the table. -/
def read (rows : List Row) (p : Poller stamp) : Poller stamp where
  mark := p.mark
  pending := some (fetch stamp p.mark rows)
  above := by
    intro fetched h f hf
    cases h
    exact (mem_fetch.mp hf).2

/-- Move the mark to account for the answer. -/
def move (p : Poller stamp) : Poller stamp where
  mark := p.pending.elim p.mark (advance stamp p.mark)
  pending := none
  above := fun _ h => nomatch h

/-- The row is above the mark and above the answer under way. -/
def Unseen (p : Poller stamp) (r : Row) : Prop :=
  Above stamp p.mark r ∧ ∀ fetched ∈ p.pending, ∀ f ∈ fetched, stamp f < stamp r

instance (p : Poller stamp) (r : Row) : Decidable (p.Unseen r) :=
  inferInstanceAs (Decidable (_ ∧ ∀ fetched ∈ p.pending, ∀ f ∈ fetched, stamp f < stamp r))

variable {p : Poller stamp}

theorem unseen_idle (h : p.pending = none) : p.Unseen r ↔ Above stamp p.mark r := by
  rw [Unseen, h]
  exact ⟨And.left, fun habove => ⟨habove, fun _ hf => nomatch hf⟩⟩

/-- Moving the mark does not change what is unseen. -/
theorem unseen_move : p.move.Unseen r ↔ p.Unseen r := by
  rw [unseen_idle rfl]
  rcases p with ⟨mark, _ | fetched, habove⟩
  · exact (unseen_idle rfl).symm
  · refine (above_advance_iff (habove fetched rfl)).trans (and_congr_right (fun _ => ?_))
    constructor
    · rintro hall _ ⟨⟩
      exact hall
    · intro hall
      exact hall fetched rfl

/-- A read that starts when no answer is under way returns the unseen rows of the
    table. -/
theorem mem_fetch_iff_unseen (h : p.pending = none) :
    r ∈ fetch stamp p.mark rows ↔ r ∈ rows ∧ p.Unseen r := by
  rw [mem_fetch, unseen_idle h]

end Poller

end Watermark

end SyncMaster
