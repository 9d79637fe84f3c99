import Mathlib.Data.List.Basic
import Mathlib.Data.List.Induction

/-!
# Runs of a Transition System

A transition system is a relation `step s e t`: event `e` may take state `s`
to state `t`. A function, a guarded partial function and a nondeterministic
choice are all instances, so one set of rules serves a sequential service and
a protocol whose steps interleave.

`Run` keeps the events it took. A property of the history can then be stated
by cutting the event list, and `run_append` is the cut. `Reachable` forgets
the events.

A claim that holds of some runs only is a claim about `restrict ok step`: the
same system, where an event may be taken only in a state that admits it.
Restricting is not changing the system, as `run_of_restrict` says.

## Main definitions

* `Run`: A list of events taken one after the other.
* `Reachable`: The states some run leads to.
* `restrict`: The system whose events are admitted by a guard.
* `graph`: The system of a step function.
* `Along`: A guard holds at every event of an iteration.
* `Onset`: When a property came to hold.
* `partialGraph`, `follow`: The same for a step function that may refuse.
* `Translated`: Events, each with the events of another system that it comes to.

## Theorems

* `run_append`: A run cut at any point is two runs.
* `run_invariant`: What every step preserves, every run preserves.
* `run_relation`: What relates the ends of a step relates the ends of a run.
* `run_follows`: A system that follows another one follows its runs.
* `reachable_invariant`: The same, from the initial state.
* `run_mono`, `run_of_restrict`: A restricted run is a run.
* `run_graph`: A run of a function is its iteration over the events.
* `along_iff`: The guard along an iteration is the guard after each prefix.
* `along_iff_invariant`: A guard that is exactly what an invariant needs.
* `along_congr`: Two guards that an invariant makes the same.
* `run_restrict_graph`: A restricted one is an iteration along the guard.
* `exists_onset`: Whatever holds has come to hold.
* `run_of_follow`: What `follow` finds is a run.
* `exists_translated`: What translates every event translates every history.
-/

namespace SyncMaster

namespace Machine

variable {S E : Type*}

/-- `Run step s es t`: the events `es`, in this order, lead from `s` to `t`. -/
inductive Run (step : S → E → S → Prop) : S → List E → S → Prop
  | nil (s : S) : Run step s [] s
  | cons {s t u : S} {e : E} {es : List E} :
      step s e t → Run step t es u → Run step s (e :: es) u

/-- The states that some run leads to. -/
def Reachable (step : S → E → S → Prop) (init s : S) : Prop :=
  ∃ es, Run step init es s

/-- The same steps, taken only where the guard admits the event. -/
def restrict (ok : S → E → Prop) (step : S → E → S → Prop) (s : S) (e : E) (t : S) : Prop :=
  ok s e ∧ step s e t

/-- The transition system of a step function. -/
def graph (f : S → E → S) (s : S) (e : E) (t : S) : Prop :=
  f s e = t

variable {step : S → E → S → Prop}

theorem run_single {s t : S} {e : E} (h : step s e t) : Run step s [e] t :=
  Run.cons h (Run.nil t)

/-- A run may be cut at any point, and two runs that meet may be joined. -/
theorem run_append {s u : S} {es fs : List E} :
    Run step s (es ++ fs) u ↔ ∃ t, Run step s es t ∧ Run step t fs u := by
  constructor
  · intro h
    induction es generalizing s with
    | nil => exact ⟨s, Run.nil s, h⟩
    | cons e es ih =>
        cases h with
        | cons hstep hrest =>
            rcases ih hrest with ⟨t, hes, hfs⟩
            exact ⟨t, Run.cons hstep hes, hfs⟩
  · rintro ⟨t, hes, hfs⟩
    induction hes with
    | nil s => exact hfs
    | cons hstep _ ih => exact Run.cons hstep (ih hfs)

/-- A run that ends with one more event. -/
theorem run_snoc {s u : S} {es : List E} {e : E} :
    Run step s (es ++ [e]) u ↔ ∃ t, Run step s es t ∧ step t e u := by
  rw [run_append]
  constructor
  · rintro ⟨t, hes, hlast⟩
    cases hlast with
    | cons hstep hnil =>
        cases hnil
        exact ⟨t, hes, hstep⟩
  · rintro ⟨t, hes, hstep⟩
    exact ⟨t, hes, run_single hstep⟩

/-- What every step preserves, every run preserves. -/
theorem run_invariant {I : S → Prop} (hstep : ∀ s e t, I s → step s e t → I t)
    {s t : S} {es : List E} (hrun : Run step s es t) (hs : I s) : I t := by
  induction hrun with
  | nil s => exact hs
  | cons h _ ih => exact ih (hstep _ _ _ hs h)

/-- A reflexive and transitive relation between the ends of each step relates
    the ends of the whole run, an invariant being at hand at every step. -/
theorem run_relation {I : S → Prop} {R : S → S → Prop} (hrefl : ∀ s, R s s)
    (htrans : ∀ s t u, R s t → R t u → R s u)
    (hinv : ∀ s e t, I s → step s e t → I t)
    (hstep : ∀ s e t, I s → step s e t → R s t)
    {s t : S} {es : List E} (hrun : Run step s es t) (hs : I s) : R s t := by
  induction hrun with
  | nil s => exact hrefl s
  | cons h _ ih => exact htrans _ _ _ (hstep _ _ _ hs h) (ih (hinv _ _ _ hs h))

/-- A system that follows another step by step follows it along every run. -/
theorem run_follows {S' : Type*} {step' : S' → E → S' → Prop} {R : S → S' → Prop}
    (hstep : ∀ s e t s', R s s' → step s e t → ∃ t', step' s' e t' ∧ R t t')
    {s t : S} {es : List E} (hrun : Run step s es t) {s' : S'} (hs : R s s') :
    ∃ t', Run step' s' es t' ∧ R t t' := by
  induction hrun generalizing s' with
  | nil s => exact ⟨s', Run.nil s', hs⟩
  | cons h _ ih =>
      rcases hstep _ _ _ s' hs h with ⟨u', hu', hR⟩
      rcases ih hR with ⟨t', ht', hR'⟩
      exact ⟨t', Run.cons hu' ht', hR'⟩

/-- An invariant: it holds at first and every step preserves it. -/
theorem reachable_invariant {I : S → Prop} {init : S} (hinit : I init)
    (hstep : ∀ s e t, I s → step s e t → I t) {s : S}
    (hs : Reachable step init s) : I s := by
  rcases hs with ⟨es, hrun⟩
  exact run_invariant hstep hrun hinit

/-- More steps allow more runs. -/
theorem run_mono {step' : S → E → S → Prop} (hstep : ∀ s e t, step s e t → step' s e t)
    {s t : S} {es : List E} (h : Run step s es t) : Run step' s es t := by
  induction h with
  | nil s => exact Run.nil s
  | cons h _ ih => exact Run.cons (hstep _ _ _ h) ih

/-- Restricting the events leaves the steps alone. -/
theorem run_of_restrict {ok : S → E → Prop} {s t : S} {es : List E}
    (h : Run (restrict ok step) s es t) : Run step s es t :=
  run_mono (fun _ _ _ hstep => hstep.2) h

theorem reachable_of_restrict {ok : S → E → Prop} {init s : S}
    (h : Reachable (restrict ok step) init s) : Reachable step init s := by
  rcases h with ⟨es, hrun⟩
  exact ⟨es, run_of_restrict hrun⟩

/-- The runs of a function are its iterations. -/
theorem run_graph {f : S → E → S} {s t : S} {es : List E} :
    Run (graph f) s es t ↔ es.foldl f s = t := by
  constructor
  · intro h
    induction h with
    | nil s => rfl
    | cons hstep _ ih =>
        rw [List.foldl_cons, hstep]
        exact ih
  · intro h
    induction es generalizing s with
    | nil =>
        rw [List.foldl_nil] at h
        rw [h]
        exact Run.nil t
    | cons e es ih => exact Run.cons rfl (ih h)

/-- The guard admits every event, in the state that the iteration has reached. -/
def Along (ok : S → E → Prop) (f : S → E → S) : S → List E → Prop
  | _, [] => True
  | s, e :: es => ok s e ∧ Along ok f (f s e) es

instance {ok : S → E → Prop} {f : S → E → S} [∀ s e, Decidable (ok s e)] :
    (s : S) → (es : List E) → Decidable (Along ok f s es)
  | _, [] => isTrue trivial
  | s, e :: es =>
      have : Decidable (Along ok f (f s e) es) := instDecidableAlong (f s e) es
      inferInstanceAs (Decidable (ok s e ∧ Along ok f (f s e) es))

/-- The guard admits each event after those before it. -/
theorem along_iff {ok : S → E → Prop} {f : S → E → S} {s : S} {es : List E} :
    Along ok f s es ↔ ∀ before e after, es = before ++ e :: after → ok (before.foldl f s) e := by
  induction es generalizing s with
  | nil => exact ⟨fun _ before e after h => absurd h (by simp), fun _ => trivial⟩
  | cons e es ih =>
      constructor
      · rintro ⟨hok, halong⟩ before x after h
        cases before with
        | nil =>
            cases h
            exact hok
        | cons y before =>
            cases h
            exact ih.mp halong before x after rfl
      · intro h
        refine ⟨h [] e es rfl, ih.mpr (fun before x after hes => ?_)⟩
        exact h (e :: before) x after (congrArg (List.cons e) hes)

/-- The restricted runs of a function are its iterations along the guard. -/
theorem run_restrict_graph {ok : S → E → Prop} {f : S → E → S} {s t : S} {es : List E} :
    Run (restrict ok (graph f)) s es t ↔ Along ok f s es ∧ es.foldl f s = t := by
  constructor
  · intro h
    induction h with
    | nil s => exact ⟨trivial, rfl⟩
    | cons hstep _ ih =>
        rcases hstep with ⟨hok, rfl⟩
        exact ⟨⟨hok, ih.1⟩, ih.2⟩
  · rintro ⟨halong, rfl⟩
    induction es generalizing s with
    | nil => exact Run.nil s
    | cons e es ih => exact Run.cons ⟨halong.1, rfl⟩ (ih halong.2)

/-- Two guards that say the same in the states an invariant holds in, which the
    guards themselves keep. -/
theorem along_congr {reg ok ok' : S → E → Prop} {f : S → E → S} {I : S → Prop}
    (hstep : ∀ s e, I s → reg s e → (ok s e ↔ ok' s e))
    (hkeep : ∀ s e, I s → reg s e → ok' s e → I (f s e)) {s : S} {es : List E} (hs : I s)
    (hreg : Along reg f s es) : Along ok f s es ↔ Along ok' f s es := by
  induction es generalizing s with
  | nil => exact Iff.rfl
  | cons e es ih =>
      rcases hreg with ⟨hfirst, hrest⟩
      have hiff := hstep s e hs hfirst
      constructor
      · intro h
        have hok := hiff.mp h.1
        exact ⟨hok, (ih (hkeep s e hs hfirst hok) hrest).mp h.2⟩
      · intro h
        exact ⟨hiff.mpr h.1, (ih (hkeep s e hs hfirst h.1) hrest).mpr h.2⟩

/-- Where a step keeps an invariant just when the guard admits the event, the
    guard holds along an iteration just when the invariant holds after each
    part of it. -/
theorem along_iff_invariant {ok : S → E → Prop} {f : S → E → S} {I J : S → Prop}
    (hJ : ∀ s e, J s → J (f s e)) (hstep : ∀ s e, J s → I s → (I (f s e) ↔ ok s e))
    {s : S} {es : List E} (hs : J s) (hi : I s) :
    Along ok f s es ↔ ∀ before after, es = before ++ after → I (before.foldl f s) := by
  induction es generalizing s with
  | nil =>
      refine iff_of_true trivial (fun before after h => ?_)
      rw [(List.append_eq_nil_iff.mp h.symm).1]
      exact hi
  | cons e es ih =>
      constructor
      · rintro ⟨hok, halong⟩ before after h
        have hnext : I (f s e) := (hstep s e hs hi).mpr hok
        cases before with
        | nil => exact hi
        | cons x before =>
            cases h
            exact (ih (hJ s e hs) hnext).mp halong before after rfl
      · intro h
        have hnext : I (f s e) := h [e] es rfl
        refine ⟨(hstep s e hs hi).mp hnext, (ih (hJ s e hs) hnext).mpr ?_⟩
        intro before after hes
        exact h (e :: before) after (congrArg (List.cons e) hes)

/-- The event at which a property came to hold, if it has held ever since. -/
structure Onset (f : S → E → S) (P : S → Prop) (s : S) (es before : List E) (e : E)
    (rest : List E) : Prop where
  cut : es = before ++ e :: rest
  notYet : ¬ P (before.foldl f s)
  since : ∀ later, later <+: rest → P ((before ++ e :: later).foldl f s)

/-- What holds at the end, and did not at first, has an onset. -/
theorem exists_onset {f : S → E → S} {P : S → Prop} {s : S} {es : List E} (hs : ¬ P s)
    (h : P (es.foldl f s)) : ∃ before e rest, Onset f P s es before e rest := by
  induction es using List.reverseRecOn with
  | nil => exact absurd h hs
  | append_singleton es last ih =>
      by_cases hbefore : P (es.foldl f s)
      · rcases ih hbefore with ⟨before, e, rest, hcut, hnot, hsince⟩
        refine ⟨before, e, rest ++ [last], by rw [hcut, List.append_assoc, List.cons_append],
          hnot, fun later hlater => ?_⟩
        rcases List.prefix_concat_iff.mp hlater with hall | hlater
        · rw [hall, ← List.cons_append, ← List.append_assoc, ← hcut]
          exact h
        · exact hsince later hlater
      -- The last event is the onset, and nothing comes after it.
      · refine ⟨es, last, [], rfl, hbefore, fun later hlater => ?_⟩
        rw [List.prefix_nil.mp hlater]
        exact h

/-- The state that the event of the onset leads to. -/
theorem Onset.holds {f : S → E → S} {P : S → Prop} {s : S} {es before rest : List E} {e : E}
    (h : Onset f P s es before e rest) : P (f (before.foldl f s) e) := by
  have hnow := h.since [] List.nil_prefix
  rwa [List.foldl_append] at hnow

/-- The transition system of a step function that may refuse an event. -/
def partialGraph (f : S → E → Option S) (s : S) (e : E) (t : S) : Prop :=
  f s e = some t

/-- Take the events one after the other, as long as the guard admits them and
    none is refused. -/
def follow (ok : S → E → Prop) [∀ s e, Decidable (ok s e)] (f : S → E → Option S) :
    S → List E → Option S
  | s, [] => some s
  | s, e :: es => if ok s e then (f s e).bind (fun t => follow ok f t es) else none

theorem run_of_follow {ok : S → E → Prop} [∀ s e, Decidable (ok s e)] {f : S → E → Option S}
    {s t : S} {es : List E} (h : follow ok f s es = some t) :
    Run (restrict ok (partialGraph f)) s es t := by
  induction es generalizing s with
  | nil =>
      rw [Option.some.inj h]
      exact Run.nil t
  | cons e es ih =>
      rw [follow] at h
      by_cases hok : ok s e
      · rw [if_pos hok] at h
        rcases Option.bind_eq_some_iff.mp h with ⟨u, hstep, hrest⟩
        exact Run.cons ⟨hok, hstep⟩ (ih hrest)
      · rw [if_neg hok] at h
        cases h

/-- The events of one system, each with the events of another system that it comes to, in
    the state that the first system has reached. -/
inductive Translated {E' : Type*} (f : S → E → S) (translates : S → E → List E' → Prop) :
    S → List E → List (List E') → Prop
  | nil (s : S) : Translated f translates s [] []
  | cons {s : S} {e : E} {es : List E} {fs : List E'} {rest : List (List E')} :
      translates s e fs → Translated f translates (f s e) es rest →
      Translated f translates s (e :: es) (fs :: rest)

/-- Where each event of one system does to its states what its translation does to their
    images, each history does what the translations do, one after the other. The image may
    be assumed to meet an invariant of the second system. -/
theorem exists_translated {S' E' : Type*} {f : S → E → S} {g : S' → E' → S'} (image : S → S')
    {translates : S → E → List E' → Prop} {I : S' → Prop} (hkeep : ∀ s e, I s → I (g s e))
    (hstep : ∀ s e, I (image s) → ∃ fs, translates s e fs ∧ image (f s e) = fs.foldl g (image s))
    (s : S) (hs : I (image s)) (es : List E) :
    ∃ fss, Translated f translates s es fss ∧
      image (es.foldl f s) = fss.flatten.foldl g (image s) := by
  induction es generalizing s with
  | nil => exact ⟨[], .nil s, rfl⟩
  | cons e es ih =>
      rcases hstep s e hs with ⟨fs, htranslates, himage⟩
      have hnext : I (image (f s e)) := by
        rw [himage]
        exact run_invariant (fun a b c ha hab => hab ▸ hkeep a b ha) (run_graph.mpr rfl) hs
      rcases ih (f s e) hnext with ⟨fss, hrest, hfinal⟩
      refine ⟨fs :: fss, .cons htranslates hrest, ?_⟩
      rw [List.foldl_cons, hfinal, himage, List.flatten_cons, List.foldl_append]

end Machine

end SyncMaster
