import Mathlib.Logic.Basic

/-!
# Programs with a State and Errors

A program over a state `σ` with errors in `ε` is `ExceptT ε (StateM σ)`: an
error does not undo what was written before it. Undoing is a separate act,
`atomically`, which runs a body and puts the state back when the body raised.
A restore function says what putting back means, so that a part of the state
that survives a rollback can survive it here too.

`Returns` and `Raises` are the two ways a program can end. The rules below
invert them construct by construct, so that a hypothesis about a whole program
falls apart into hypotheses about its statements, with no unfolding of the
monad.

`CleanFailure R x` says that whenever `x` raises, the state it started from
and the state it leaves are related by `R`. With `R` a relation that ignores
what a rollback keeps, this is "a failed program changes nothing". Reads in
front of a program cost nothing; a body under `atomically` may write as it
likes.

## Main definitions

* `Program`: A computation with state and errors.
* `Returns`, `Raises`: How it ends.
* `query`, `raiseIf`, `catching`, `atomically`: The statements.
* `after`: The state it leaves, however it ends.
* `succeeds`: Whether it returns.
* `Always`: A relation between the states before and after, however it ends.
* `RaisesOnly`: Every error that may be raised meets a condition.
* `SafeAt`: Every error that may be raised from one state does.
* `mapError`: A program with its errors as a part of others.
* `focus`: A program on a part of a state.
* `Refines`: A program that returns nothing but what another one returns.
* `ReadOnly`: A program that leaves the state alone.
* `CleanFailure`: A program that leaves nothing behind when it raises.

## Theorems

* `returns_bind`, `returns_query`, `returns_atomically` and the others:
  Inversion of `Returns`.
* `raises_bind`, `raises_atomically` and the others: Inversion of `Raises`.
* `always_bind`, `always_catching` and the others: What the statements keep,
  the program keeps.
* `safeAt_bind`, `safeAt_query` and the others: When a program is safe at a
  state, statement by statement.
* `refines_bind`: Refinement, statement by statement.
* `cleanFailure_bind`: Reading first keeps failures clean.
* `cleanFailure_bind_total`: So does a last part that cannot fail.
* `cleanFailure_atomically`: A rollback makes a failure clean.
-/

namespace SyncMaster

/-- A computation over the state `σ` that may raise an error of `ε`. What it
    wrote before the error stays written. -/
abbrev Program (σ ε α : Type) : Type := ExceptT ε (StateM σ) α

namespace Program

variable {σ ε α β : Type}

/-- From the state `s` the program returns `a` and leaves the state `t`. -/
def Returns (x : Program σ ε α) (s : σ) (a : α) (t : σ) : Prop :=
  x.run.run s = (Except.ok a, t)

/-- From the state `s` the program raises `e` and leaves the state `t`. -/
def Raises (x : Program σ ε α) (s : σ) (e : ε) (t : σ) : Prop :=
  x.run.run s = (Except.error e, t)

/-- The state the program leaves, whether it returns or raises. -/
def after (x : Program σ ε α) (s : σ) : σ :=
  (x.run.run s).2

/-- Read the state; the reading itself may raise. -/
def query (f : σ → Except ε α) : Program σ ε α :=
  fun s => (f s, s)

/-- Change the state. -/
def execute (f : σ → σ) : Program σ ε Unit :=
  fun s => (Except.ok (), f s)

/-- Raise the error if the condition holds. -/
def raiseIf (c : Prop) [Decidable c] (e : ε) : Program σ ε Unit :=
  query (fun _ => if c then Except.error e else Except.ok ())

/-- Translate the errors of the body. -/
def catching (handle : ε → ε) (x : Program σ ε α) : Program σ ε α :=
  fun s => match x.run.run s with
    | (Except.ok a, t) => (Except.ok a, t)
    | (Except.error e, t) => (Except.error (handle e), t)

/-- Return a value instead of an error that it is given for. -/
def recovering (recover : ε → Option α) (x : Program σ ε α) : Program σ ε α :=
  fun s => match x.run.run s with
    | (Except.ok a, t) => (Except.ok a, t)
    | (Except.error e, t) => match recover e with
      | some a => (Except.ok a, t)
      | none => (Except.error e, t)

/-- Run the body; if it raises, restore the state it started from. -/
def atomically (restore : σ → σ → σ) (x : Program σ ε α) : Program σ ε α :=
  fun s => match x.run.run s with
    | (Except.ok a, t) => (Except.ok a, t)
    | (Except.error e, t) => (Except.error e, restore s t)

/-- Run the body, and clean up whether it returns or raises. -/
def ensuring (cleanup : σ → σ) (x : Program σ ε α) : Program σ ε α :=
  fun s => ((x.run.run s).1, cleanup (x.run.run s).2)

section Returns

variable {s t : σ} {a b : α} {e : ε}

/-- A program returns one thing. -/
theorem returns_unique {x : Program σ ε α} {u : σ} (h : Returns x s a t) (h' : Returns x s b u) :
    a = b ∧ t = u := by
  have heq := h.symm.trans h'
  rw [Prod.mk.injEq, Except.ok.injEq] at heq
  exact heq

theorem returns_pure : Returns (pure a : Program σ ε α) s b t ↔ a = b ∧ s = t := by
  change (Except.ok a, s) = (Except.ok b, t) ↔ _
  simp only [Prod.mk.injEq, Except.ok.injEq]

/-- A sequence runs its second part from where the first one returned. -/
theorem run_bind (x : Program σ ε β) (f : β → Program σ ε α) (s : σ) :
    (x >>= f).run.run s = match x.run.run s with
      | (Except.ok b, u) => (f b).run.run u
      | (Except.error e, u) => (Except.error e, u) := by
  rw [ExceptT.run_bind, StateT.run_bind]
  rcases x.run.run s with ⟨r, u⟩
  cases r with
  | ok b => rfl
  | error e => rfl

theorem returns_bind {x : Program σ ε β} {f : β → Program σ ε α} :
    Returns (x >>= f) s a t ↔ ∃ b u, Returns x s b u ∧ Returns (f b) u a t := by
  unfold Returns
  rw [run_bind]
  rcases x.run.run s with ⟨r, u⟩
  cases r with
  | ok b =>
      constructor
      · intro h
        exact ⟨b, u, rfl, h⟩
      · rintro ⟨b', u', heq, h⟩
        cases heq
        exact h
  | error e =>
      constructor
      · intro h
        cases h
      · rintro ⟨b', u', heq, _⟩
        cases heq

theorem returns_throw : ¬ Returns (throw e : Program σ ε α) s a t := by
  intro h
  cases h

theorem returns_query {f : σ → Except ε α} :
    Returns (query f) s a t ↔ f s = Except.ok a ∧ s = t := by
  change (f s, s) = (Except.ok a, t) ↔ _
  simp only [Prod.mk.injEq]

theorem returns_execute {f : σ → σ} {a : Unit} :
    Returns (execute f : Program σ ε Unit) s a t ↔ f s = t := by
  change (Except.ok (), f s) = (Except.ok a, t) ↔ _
  simp only [Prod.mk.injEq, true_and]

theorem returns_raiseIf {c : Prop} [Decidable c] {a : Unit} :
    Returns (raiseIf c e : Program σ ε Unit) s a t ↔ ¬ c ∧ s = t := by
  rw [raiseIf, returns_query]
  by_cases hc : c
  · simp only [hc, if_true, reduceCtorEq, false_and, not_true_eq_false]
  · simp only [hc, if_false, true_and, not_false_eq_true]

theorem returns_ite {c : Prop} [Decidable c] {x y : Program σ ε α} :
    Returns (if c then x else y) s a t ↔
      if c then Returns x s a t else Returns y s a t := by
  split <;> rfl

theorem returns_catching {handle : ε → ε} {x : Program σ ε α} :
    Returns (catching handle x) s a t ↔ Returns x s a t := by
  change (match x.run.run s with
    | (Except.ok a, t) => _
    | (Except.error e, t) => _) = _ ↔ x.run.run s = _
  rcases x.run.run s with ⟨r, u⟩
  cases r with
  | ok b => rfl
  | error e =>
      constructor
      · intro h
        cases h
      · intro h
        cases h

theorem returns_ensuring {cleanup : σ → σ} {x : Program σ ε α} :
    Returns (ensuring cleanup x) s a t ↔ ∃ u, Returns x s a u ∧ cleanup u = t := by
  change ((x.run.run s).1, cleanup (x.run.run s).2) = _ ↔ ∃ u, x.run.run s = _ ∧ _
  rcases x.run.run s with ⟨r, u⟩
  constructor
  · intro h
    cases h
    exact ⟨u, rfl, rfl⟩
  · intro h
    rcases h with ⟨u', hrun, rfl⟩
    cases hrun
    rfl

theorem returns_atomically {restore : σ → σ → σ} {x : Program σ ε α} :
    Returns (atomically restore x) s a t ↔ Returns x s a t := by
  change (match x.run.run s with
    | (Except.ok a, t) => _
    | (Except.error e, t) => _) = _ ↔ x.run.run s = _
  rcases x.run.run s with ⟨r, u⟩
  cases r with
  | ok b => rfl
  | error e =>
      constructor
      · intro h
        cases h
      · intro h
        cases h

/-- A program ends in one way only. -/
theorem not_raises_of_returns {x : Program σ ε α} {u : σ} (h : Returns x s a t) :
    ¬ Raises x s e u := by
  intro hr
  rw [Raises, h] at hr
  cases hr

theorem returns_or_raises (x : Program σ ε α) (s : σ) :
    (∃ a t, Returns x s a t) ∨ ∃ e t, Raises x s e t := by
  rcases hrun : x.run.run s with ⟨r, t⟩
  cases r with
  | ok a => exact Or.inl ⟨a, t, hrun⟩
  | error e => exact Or.inr ⟨e, t, hrun⟩

end Returns

section Raises

variable {s t : σ} {a : α} {e e' : ε}

theorem raises_pure : ¬ Raises (pure a : Program σ ε α) s e t := by
  intro h
  cases h

theorem raises_throw : Raises (throw e : Program σ ε α) s e' t ↔ e = e' ∧ s = t := by
  change (Except.error e, s) = (Except.error e', t) ↔ _
  simp only [Prod.mk.injEq, Except.error.injEq]

theorem raises_bind {x : Program σ ε β} {f : β → Program σ ε α} :
    Raises (x >>= f) s e t ↔
      Raises x s e t ∨ ∃ b u, Returns x s b u ∧ Raises (f b) u e t := by
  rcases returns_or_raises x s with ⟨b, u, hx⟩ | ⟨e₀, u, hx⟩
  · have hrun : (x >>= f).run.run s = (f b).run.run u := by
      rw [run_bind, hx]
    constructor
    · intro h
      rw [Raises, hrun] at h
      exact Or.inr ⟨b, u, hx, h⟩
    · rintro (h | ⟨b', u', hx', h⟩)
      · exact absurd h (not_raises_of_returns hx)
      · rw [Returns, hx] at hx'
        cases hx'
        rw [Raises, hrun]
        exact h
  · have hrun : (x >>= f).run.run s = (Except.error e₀, u) := by
      rw [run_bind, hx]
    constructor
    · intro h
      rw [Raises, hrun] at h
      cases h
      exact Or.inl hx
    · rintro (h | ⟨b', u', hx', _⟩)
      · rw [Raises, hx] at h
        cases h
        exact hrun
      · exact absurd hx (not_raises_of_returns hx')

theorem raises_query {f : σ → Except ε α} :
    Raises (query f) s e t ↔ f s = Except.error e ∧ s = t := by
  change (f s, s) = (Except.error e, t) ↔ _
  simp only [Prod.mk.injEq]

theorem raises_execute {f : σ → σ} : ¬ Raises (execute f : Program σ ε Unit) s e t := by
  intro h
  cases h

theorem raises_catching {handle : ε → ε} {x : Program σ ε α} :
    Raises (catching handle x) s e t ↔ ∃ e₀, Raises x s e₀ t ∧ handle e₀ = e := by
  change (match x.run.run s with
    | (Except.ok a, t) => _
    | (Except.error e, t) => _) = _ ↔ ∃ e₀, x.run.run s = _ ∧ _
  rcases x.run.run s with ⟨r, u⟩
  cases r with
  | ok b =>
      constructor
      · intro h
        cases h
      · rintro ⟨_, h, _⟩
        cases h
  | error e₀ =>
      constructor
      · intro h
        cases h
        exact ⟨e₀, rfl, rfl⟩
      · rintro ⟨e₁, h, rfl⟩
        cases h
        rfl

/-- A value in place of the error. -/
theorem returns_recovering {recover : ε → Option α} {x : Program σ ε α} :
    Returns (recovering recover x) s a t ↔
      Returns x s a t ∨ ∃ e, Raises x s e t ∧ recover e = some a := by
  -- The body returns, so there is no error to recover from.
  rcases returns_or_raises x s with ⟨b, u, hx⟩ | ⟨e₀, u, hx⟩
  · have hrun : (recovering recover x).run.run s = (Except.ok b, u) := by
      change (match x.run.run s with
        | (Except.ok a, t) => _
        | (Except.error e, t) => _) = _
      rw [hx]
    rw [or_iff_left (fun h => by
      rcases h with ⟨e, hraise, _⟩
      exact not_raises_of_returns hx hraise)]
    rw [Returns, Returns, hrun, hx]
  -- The body raises, and the handler takes the error or lets it pass.
  · have hrun : (recovering recover x).run.run s = match recover e₀ with
        | some a => (Except.ok a, u)
        | none => (Except.error e₀, u) := by
      change (match x.run.run s with
        | (Except.ok a, t) => _
        | (Except.error e, t) => _) = _
      rw [hx]
    rw [Returns, hrun]
    constructor
    · intro h
      cases hrecover : recover e₀ with
      | none =>
          rw [hrecover] at h
          cases h
      | some b =>
          rw [hrecover] at h
          cases h
          exact Or.inr ⟨e₀, hx, hrecover⟩
    · intro h
      rcases h with hreturns | ⟨e, hraise, hrecover⟩
      · exact absurd hx (not_raises_of_returns hreturns)
      · rw [Raises, hx] at hraise
        cases hraise
        rw [hrecover]

theorem raises_recovering {recover : ε → Option α} {x : Program σ ε α} :
    Raises (recovering recover x) s e t ↔ Raises x s e t ∧ recover e = none := by
  rcases returns_or_raises x s with ⟨b, u, hx⟩ | ⟨e₀, u, hx⟩
  · have hreturns : Returns (recovering recover x) s b u := returns_recovering.mpr (Or.inl hx)
    constructor
    · intro h
      exact absurd h (not_raises_of_returns hreturns)
    · intro h
      exact absurd h.1 (not_raises_of_returns hx)
  · have hrun : (recovering recover x).run.run s = match recover e₀ with
        | some a => (Except.ok a, u)
        | none => (Except.error e₀, u) := by
      change (match x.run.run s with
        | (Except.ok a, t) => _
        | (Except.error e, t) => _) = _
      rw [hx]
    rw [Raises, Raises, hrun, hx]
    cases hrecover : recover e₀ with
    | none =>
        constructor
        · intro h
          cases h
          exact ⟨rfl, hrecover⟩
        · intro h
          exact h.1
    | some b =>
        constructor
        · intro h
          cases h
        · intro h
          cases h.1
          rw [hrecover] at h
          cases h.2

theorem raises_atomically {restore : σ → σ → σ} {x : Program σ ε α} :
    Raises (atomically restore x) s e t ↔ ∃ u, Raises x s e u ∧ restore s u = t := by
  change (match x.run.run s with
    | (Except.ok a, t) => _
    | (Except.error e, t) => _) = _ ↔ ∃ u, x.run.run s = _ ∧ _
  rcases x.run.run s with ⟨r, u⟩
  cases r with
  | ok b =>
      constructor
      · intro h
        cases h
      · rintro ⟨_, h, _⟩
        cases h
  | error e₀ =>
      constructor
      · intro h
        cases h
        exact ⟨u, rfl, rfl⟩
      · rintro ⟨u', h, hrest⟩
        cases h
        rw [← hrest]

end Raises

theorem after_of_returns {x : Program σ ε α} {s t : σ} {a : α} (h : Returns x s a t) :
    after x s = t := by
  rw [after, h]

theorem after_of_raises {x : Program σ ε α} {s t : σ} {e : ε} (h : Raises x s e t) :
    after x s = t := by
  rw [after, h]

/-- Whether the program returns. -/
def succeeds (x : Program σ ε α) (s : σ) : Bool :=
  match (x.run.run s).1 with
  | .ok _ => true
  | .error _ => false

/-- A program that succeeds returns something, and leaves the state after it. -/
theorem succeeds_iff {x : Program σ ε α} {s : σ} :
    succeeds x s = true ↔ ∃ a, Returns x s a (after x s) := by
  rcases returns_or_raises x s with ⟨a, t, h⟩ | ⟨e, t, h⟩
  · refine iff_of_true (by rw [succeeds, h]) ⟨a, ?_⟩
    rw [after_of_returns h]
    exact h
  · refine iff_of_false (by rw [succeeds, h]; exact Bool.false_ne_true) ?_
    intro hret
    rcases hret with ⟨a, hret⟩
    rw [after_of_raises h] at hret
    exact not_raises_of_returns hret h

theorem raises_of_not_succeeds {x : Program σ ε α} {s : σ} (h : succeeds x s = false) :
    ∃ e, Raises x s e (after x s) := by
  rcases returns_or_raises x s with ⟨a, t, hret⟩ | ⟨e, t, hraise⟩
  · rw [succeeds, hret] at h
    cases h
  · refine ⟨e, ?_⟩
    rw [after_of_raises hraise]
    exact hraise

theorem after_bind_of_returns {x : Program σ ε β} {f : β → Program σ ε α} {s t : σ} {b : β}
    (h : Returns x s b t) : after (x >>= f) s = after (f b) t := by
  rw [after, run_bind, h, after]

theorem after_bind_of_raises {x : Program σ ε β} {f : β → Program σ ε α} {s t : σ} {e : ε}
    (h : Raises x s e t) : after (x >>= f) s = t := by
  rw [after, run_bind, h]

/-- What is made of the result leaves the state alone. -/
theorem after_map (x : Program σ ε β) (f : β → α) (s : σ) :
    after (do let b ← x; return f b) s = after x s := by
  rcases returns_or_raises x s with ⟨b, t, h⟩ | ⟨e, t, h⟩
  · rw [after_bind_of_returns h, after_of_returns h]
    rfl
  · rw [after_bind_of_raises h, after_of_raises h]

/-- However the program ends, the states before and after are related. -/
def Always (R : σ → σ → Prop) (x : Program σ ε α) : Prop :=
  ∀ s, R s (after x s)

section Always

variable {R : σ → σ → Prop}

theorem always_pure (hrefl : ∀ s, R s s) (a : α) : Always R (pure a : Program σ ε α) :=
  fun s => hrefl s

theorem always_throw (hrefl : ∀ s, R s s) (e : ε) : Always R (throw e : Program σ ε α) :=
  fun s => hrefl s

theorem always_query (hrefl : ∀ s, R s s) (f : σ → Except ε α) : Always R (query f) :=
  fun s => hrefl s

theorem always_raiseIf (hrefl : ∀ s, R s s) (c : Prop) [Decidable c] (e : ε) :
    Always R (raiseIf c e : Program σ ε Unit) :=
  always_query hrefl _

theorem always_execute {f : σ → σ} (hf : ∀ s, R s (f s)) :
    Always R (execute f : Program σ ε Unit) :=
  hf

theorem always_bind (htrans : ∀ s t u, R s t → R t u → R s u) {x : Program σ ε β}
    {f : β → Program σ ε α} (hx : Always R x) (hf : ∀ b, Always R (f b)) :
    Always R (x >>= f) := by
  intro s
  have hxs := hx s
  rcases returns_or_raises x s with ⟨b, u, h⟩ | ⟨e, u, h⟩
  · rw [after_of_returns h] at hxs
    rw [after_bind_of_returns h]
    exact htrans _ _ _ hxs (hf b u)
  · rw [after_of_raises h] at hxs
    rw [after_bind_of_raises h]
    exact hxs

theorem always_catching {handle : ε → ε} {x : Program σ ε α} (hx : Always R x) :
    Always R (catching handle x) := by
  intro s
  have hxs := hx s
  rcases returns_or_raises x s with ⟨a, u, h⟩ | ⟨e, u, h⟩
  · rw [after_of_returns h] at hxs
    rw [after_of_returns (returns_catching.mpr h)]
    exact hxs
  · rw [after_of_raises h] at hxs
    rw [after_of_raises (raises_catching.mpr ⟨e, h, rfl⟩)]
    exact hxs

theorem always_recovering {recover : ε → Option α} {x : Program σ ε α} (hx : Always R x) :
    Always R (recovering recover x) := by
  intro s
  have hxs := hx s
  rcases returns_or_raises x s with ⟨a, u, h⟩ | ⟨e, u, h⟩
  · rw [after_of_returns h] at hxs
    rw [after_of_returns (returns_recovering.mpr (Or.inl h))]
    exact hxs
  · rw [after_of_raises h] at hxs
    cases hrecover : recover e with
    | none =>
        rw [after_of_raises (raises_recovering.mpr ⟨h, hrecover⟩)]
        exact hxs
    | some a =>
        rw [after_of_returns (returns_recovering.mpr (Or.inr ⟨e, h, hrecover⟩))]
        exact hxs

/-- A program from this state, and then whatever keeps the relation. -/
theorem related_bind {s : σ} {x : Program σ ε β} {f : β → Program σ ε α}
    (htrans : ∀ s t u, R s t → R t u → R s u) (hx : R s (after x s)) (hf : ∀ b, Always R (f b)) :
    R s (after (x >>= f) s) := by
  rcases returns_or_raises x s with ⟨b, u, h⟩ | ⟨e, u, h⟩
  · rw [after_of_returns h] at hx
    rw [after_bind_of_returns h]
    exact htrans _ _ _ hx (hf b u)
  · rw [after_of_raises h] at hx
    rw [after_bind_of_raises h]
    exact hx

theorem related_atomically {s : σ} {restore : σ → σ → σ}
    {x : Program σ ε α} (hrestore : ∀ t, R s t → R s (restore s t)) (hx : R s (after x s)) :
    R s (after (atomically restore x) s) := by
  rcases returns_or_raises x s with ⟨a, u, h⟩ | ⟨e, u, h⟩
  · rw [after_of_returns h] at hx
    rw [after_of_returns (returns_atomically.mpr h)]
    exact hx
  · rw [after_of_raises h] at hx
    rw [after_of_raises (raises_atomically.mpr ⟨u, h, rfl⟩)]
    exact hrestore u hx

/-- What is restored is related as well. -/
theorem always_atomically {restore : σ → σ → σ} (hrestore : ∀ s t, R s t → R s (restore s t))
    {x : Program σ ε α} (hx : Always R x) : Always R (atomically restore x) :=
  fun s => related_atomically (hrestore s) (hx s)

end Always

/-- Every error that the program may raise meets the condition. -/
def RaisesOnly (P : ε → Prop) (x : Program σ ε α) : Prop :=
  ∀ s e t, Raises x s e t → P e

section RaisesOnly

variable {P Q : ε → Prop}

theorem raisesOnly_pure (a : α) : RaisesOnly P (pure a : Program σ ε α) :=
  fun _ _ _ h => absurd h raises_pure

theorem raisesOnly_bind {x : Program σ ε β} {f : β → Program σ ε α} (hx : RaisesOnly P x)
    (hf : ∀ b, RaisesOnly P (f b)) : RaisesOnly P (x >>= f) := by
  intro s e t h
  rcases raises_bind.mp h with hraise | ⟨b, u, _, hraise⟩
  · exact hx s e t hraise
  · exact hf b u e t hraise

theorem raisesOnly_query {f : σ → Except ε α} (h : ∀ s e, f s = .error e → P e) :
    RaisesOnly P (query f) :=
  fun s e _ hraise => h s e (raises_query.mp hraise).1

theorem raisesOnly_execute (f : σ → σ) : RaisesOnly P (execute f : Program σ ε Unit) :=
  fun _ _ _ h => absurd h raises_execute

theorem raisesOnly_raiseIf {c : Prop} [Decidable c] {e : ε} (h : P e) :
    RaisesOnly P (raiseIf c e : Program σ ε Unit) := by
  refine raisesOnly_query (fun s e' he => ?_)
  split at he
  · cases he
    exact h
  · cases he

theorem raisesOnly_catching {handle : ε → ε} {x : Program σ ε α} (hx : RaisesOnly Q x)
    (h : ∀ e, Q e → P (handle e)) : RaisesOnly P (catching handle x) := by
  intro s e t hraise
  rcases raises_catching.mp hraise with ⟨e₀, he₀, rfl⟩
  exact h e₀ (hx s e₀ t he₀)

theorem raisesOnly_atomically {restore : σ → σ → σ} {x : Program σ ε α} (hx : RaisesOnly P x) :
    RaisesOnly P (atomically restore x) := by
  intro s e t hraise
  rcases raises_atomically.mp hraise with ⟨u, hu, _⟩
  exact hx s e u hu

end RaisesOnly

/-- The errors as a part of other ones. -/
def mapError {ε' : Type} (wrap : ε → ε') (x : Program σ ε α) : Program σ ε' α :=
  fun s => match x.run.run s with
    | (Except.ok a, t) => (Except.ok a, t)
    | (Except.error e, t) => (Except.error (wrap e), t)

/-- From the state `s` the program raises no error but those that meet the
    condition. -/
def SafeAt (P : ε → Prop) (x : Program σ ε α) (s : σ) : Prop :=
  ∀ e t, Raises x s e t → P e

section SafeAt

variable {P : ε → Prop} {s t : σ} {a : α}

theorem safeAt_pure : SafeAt P (pure a : Program σ ε α) s :=
  fun _ _ h => absurd h raises_pure

theorem safeAt_throw {e : ε} : SafeAt P (throw e : Program σ ε α) s ↔ P e := by
  constructor
  · intro h
    exact h e s (raises_throw.mpr ⟨rfl, rfl⟩)
  · intro h e' t hraise
    rw [← (raises_throw.mp hraise).1]
    exact h

/-- A sequence is safe when its first part is, and its second part is wherever
    the first one returns. -/
theorem safeAt_bind {x : Program σ ε β} {f : β → Program σ ε α} :
    SafeAt P (x >>= f) s ↔ SafeAt P x s ∧ ∀ b u, Returns x s b u → SafeAt P (f b) u := by
  constructor
  · intro h
    refine ⟨fun e t hraise => h e t (raises_bind.mpr (Or.inl hraise)), ?_⟩
    intro b u hret e t hraise
    exact h e t (raises_bind.mpr (Or.inr ⟨b, u, hret, hraise⟩))
  · intro h e t hraise
    rcases raises_bind.mp hraise with hx | ⟨b, u, hret, hf⟩
    · exact h.1 e t hx
    · exact h.2 b u hret e t hf

theorem safeAt_query {f : σ → Except ε α} :
    SafeAt P (query f) s ↔ ∀ e, f s = Except.error e → P e := by
  constructor
  · intro h e he
    exact h e s (raises_query.mpr ⟨he, rfl⟩)
  · intro h e t hraise
    exact h e (raises_query.mp hraise).1

theorem safeAt_execute {f : σ → σ} : SafeAt P (execute f : Program σ ε Unit) s :=
  fun _ _ h => absurd h raises_execute

theorem safeAt_raiseIf {c : Prop} [Decidable c] {e : ε} :
    SafeAt P (raiseIf c e : Program σ ε Unit) s ↔ (c → P e) := by
  rw [raiseIf, safeAt_query]
  by_cases hc : c
  · simp [hc]
  · simp [hc]

theorem safeAt_catching {handle : ε → ε} {x : Program σ ε α} :
    SafeAt P (catching handle x) s ↔ SafeAt (fun e => P (handle e)) x s := by
  constructor
  · intro h e t hraise
    exact h _ t (raises_catching.mpr ⟨e, hraise, rfl⟩)
  · intro h e t hraise
    rcases raises_catching.mp hraise with ⟨e₀, he₀, heq⟩
    rw [← heq]
    exact h e₀ t he₀

theorem safeAt_atomically {restore : σ → σ → σ} {x : Program σ ε α} :
    SafeAt P (atomically restore x) s ↔ SafeAt P x s := by
  constructor
  · intro h e t hraise
    exact h e _ (raises_atomically.mpr ⟨t, hraise, rfl⟩)
  · intro h e t hraise
    rcases raises_atomically.mp hraise with ⟨u, hu, _⟩
    exact h e u hu

/-- A safe check is either passed or raises something that is allowed. -/
theorem safeAt_raiseIf_bind {c : Prop} [Decidable c] {e : ε} {x : Program σ ε α} :
    SafeAt P (do raiseIf c e; x) s ↔ (c → P e) ∧ (¬ c → SafeAt P x s) := by
  rw [safeAt_bind, safeAt_raiseIf]
  refine and_congr_right (fun _ => ?_)
  constructor
  · intro h hc
    exact h () s (returns_raiseIf.mpr ⟨hc, rfl⟩)
  · intro h _ u hret
    rcases returns_raiseIf.mp hret with ⟨hc, rfl⟩
    exact h hc

end SafeAt

section MapError

variable {ε' : Type} {wrap : ε → ε'} {x : Program σ ε α} {s t : σ} {a : α} {e' : ε'}

theorem returns_mapError : Returns (mapError wrap x) s a t ↔ Returns x s a t := by
  change (match x.run.run s with
    | (Except.ok a, t) => _
    | (Except.error e, t) => _) = _ ↔ x.run.run s = _
  rcases x.run.run s with ⟨r, u⟩
  cases r with
  | ok b =>
      constructor
      · intro h
        cases h
        rfl
      · intro h
        cases h
        rfl
  | error e =>
      constructor
      · intro h
        cases h
      · intro h
        cases h

theorem raises_mapError :
    Raises (mapError wrap x) s e' t ↔ ∃ e, Raises x s e t ∧ wrap e = e' := by
  change (match x.run.run s with
    | (Except.ok a, t) => _
    | (Except.error e, t) => _) = _ ↔ ∃ e, x.run.run s = _ ∧ _
  rcases x.run.run s with ⟨r, u⟩
  cases r with
  | ok b =>
      constructor
      · intro h
        cases h
      · intro h
        rcases h with ⟨e, heq, _⟩
        cases heq
  | error e₀ =>
      constructor
      · intro h
        cases h
        exact ⟨e₀, rfl, rfl⟩
      · intro h
        rcases h with ⟨e, heq, rfl⟩
        cases heq
        rfl

theorem safeAt_mapError {P : ε' → Prop} :
    SafeAt P (mapError wrap x) s ↔ SafeAt (fun e => P (wrap e)) x s := by
  constructor
  · intro h e t hraise
    exact h _ t (raises_mapError.mpr ⟨e, hraise, rfl⟩)
  · intro h e' t hraise
    rcases raises_mapError.mp hraise with ⟨e, he, heq⟩
    rw [← heq]
    exact h e t he

end MapError

/-- The program on a part of the state. -/
def focus {τ : Type} (get : τ → σ) (put : τ → σ → τ) (x : Program σ ε α) : Program τ ε α :=
  fun t => ((x.run.run (get t)).1, put t (x.run.run (get t)).2)

section Focus

variable {τ : Type} {get : τ → σ} {put : τ → σ → τ} {x : Program σ ε α} {t t' : τ} {a : α} {e : ε}

theorem returns_focus :
    Returns (focus get put x) t a t' ↔ ∃ s, Returns x (get t) a s ∧ t' = put t s := by
  change ((x.run.run (get t)).1, put t (x.run.run (get t)).2) = _ ↔
    ∃ s, x.run.run (get t) = _ ∧ _
  rcases x.run.run (get t) with ⟨r, u⟩
  constructor
  · intro h
    rcases Prod.mk.inj h with ⟨rfl, rfl⟩
    exact ⟨u, rfl, rfl⟩
  · rintro ⟨s, heq, rfl⟩
    cases heq
    rfl

theorem raises_focus :
    Raises (focus get put x) t e t' ↔ ∃ s, Raises x (get t) e s ∧ t' = put t s := by
  change ((x.run.run (get t)).1, put t (x.run.run (get t)).2) = _ ↔
    ∃ s, x.run.run (get t) = _ ∧ _
  rcases x.run.run (get t) with ⟨r, u⟩
  constructor
  · intro h
    rcases Prod.mk.inj h with ⟨rfl, rfl⟩
    exact ⟨u, rfl, rfl⟩
  · rintro ⟨s, heq, rfl⟩
    cases heq
    rfl

end Focus

/-- The program leaves the state alone, however it ends. -/
abbrev ReadOnly (x : Program σ ε α) : Prop :=
  Always Eq x

theorem eq_of_raises {x : Program σ ε α} {s t : σ} {e : ε} (hx : ReadOnly x)
    (h : Raises x s e t) : t = s := by
  rw [← after_of_raises h]
  exact (hx s).symm

theorem readOnly_query (f : σ → Except ε α) : ReadOnly (query f) :=
  always_query (fun _ => rfl) f

theorem eq_of_returns {x : Program σ ε α} {s t : σ} {a : α} (hx : ReadOnly x)
    (h : Returns x s a t) : t = s := by
  rw [← after_of_returns h]
  exact (hx s).symm

/-- What follows a read starts from the same state. -/
theorem safeAt_bind_read {P : ε → Prop} {s : σ} {x : Program σ ε β} {f : β → Program σ ε α}
    (hx : ReadOnly x) :
    SafeAt P (x >>= f) s ↔ SafeAt P x s ∧ ∀ b, Returns x s b s → SafeAt P (f b) s := by
  rw [safeAt_bind]
  refine and_congr_right (fun _ => ?_)
  constructor
  · intro h b hret
    exact h b s hret
  · intro h b u hret
    have hu := eq_of_returns hx hret
    rw [hu] at hret ⊢
    exact h b hret

/-- The same, for what relates the states before and after. -/
theorem related_bind_read {R : σ → σ → Prop} {s : σ} {x : Program σ ε β}
    {f : β → Program σ ε α} (hrefl : R s s) (hx : ReadOnly x)
    (hf : ∀ b, Returns x s b s → R s (after (f b) s)) : R s (after (x >>= f) s) := by
  rcases returns_or_raises x s with ⟨b, u, h⟩ | ⟨e, u, h⟩
  · rw [eq_of_returns hx h] at h
    rw [after_bind_of_returns h]
    exact hf b h
  · rw [after_bind_of_raises h, eq_of_raises hx h]
    exact hrefl

/-- What is read without a check is there for what follows. -/
theorem safeAt_query_bind {P : ε → Prop} {s : σ} {g : σ → β} {f : β → Program σ ε α} :
    SafeAt P (query (fun s => Except.ok (g s)) >>= f) s ↔ SafeAt P (f (g s)) s := by
  rw [safeAt_bind_read (readOnly_query _), safeAt_query]
  simp only [returns_query, reduceCtorEq, false_implies, implies_true, true_and,
    Except.ok.injEq, and_true, forall_eq']

theorem readOnly_raiseIf (c : Prop) [Decidable c] (e : ε) :
    ReadOnly (raiseIf c e : Program σ ε Unit) :=
  readOnly_query _

theorem readOnly_bind {x : Program σ ε β} {f : β → Program σ ε α} (hx : ReadOnly x)
    (hf : ∀ b, ReadOnly (f b)) : ReadOnly (x >>= f) :=
  always_bind (R := Eq) (fun _ _ _ => Eq.trans) hx hf

/-- Whatever the first program returns, the second one returns as well. It may
    raise where the second one does not. -/
def Refines (x y : Program σ ε α) : Prop :=
  ∀ s a t, Returns x s a t → Returns y s a t

section Refines

theorem refines_refl (x : Program σ ε α) : Refines x x :=
  fun _ _ _ h => h

theorem refines_bind {x y : Program σ ε β} {f g : β → Program σ ε α} (hx : Refines x y)
    (hf : ∀ b, Refines (f b) (g b)) : Refines (x >>= f) (y >>= g) := by
  intro s a t h
  rcases returns_bind.mp h with ⟨b, u, hb, ha⟩
  exact returns_bind.mpr ⟨b, u, hx s b u hb, hf b u a t ha⟩

/-- A check in front of a program refines it. -/
theorem refines_raiseIf (c : Prop) [Decidable c] (e : ε) (x : Program σ ε α) :
    Refines (do raiseIf c e; x) x := by
  intro s a t h
  rcases returns_bind.mp h with ⟨_, u, hcheck, ha⟩
  rw [(returns_raiseIf.mp hcheck).2]
  exact ha

theorem refines_atomically {restore : σ → σ → σ} {x y : Program σ ε α} (h : Refines x y) :
    Refines (atomically restore x) (atomically restore y) :=
  fun s a t hx => returns_atomically.mpr (h s a t (returns_atomically.mp hx))

end Refines

/-- When the program raises, the states before and after are related. -/
def CleanFailure (R : σ → σ → Prop) (x : Program σ ε α) : Prop :=
  ∀ s e t, Raises x s e t → R s t

section CleanFailure

variable {R : σ → σ → Prop}

theorem cleanFailure_readOnly (hrefl : ∀ s, R s s) {x : Program σ ε α} (hx : ReadOnly x) :
    CleanFailure R x := by
  intro s e t h
  rw [eq_of_raises hx h]
  exact hrefl s

/-- What only reads may stand in front. -/
theorem cleanFailure_bind (hrefl : ∀ s, R s s) {x : Program σ ε β} {f : β → Program σ ε α}
    (hx : ReadOnly x) (hf : ∀ b, CleanFailure R (f b)) : CleanFailure R (x >>= f) := by
  intro s e t h
  rcases raises_bind.mp h with hraise | ⟨b, u, hret, hraise⟩
  · exact cleanFailure_readOnly hrefl hx s e t hraise
  · have hs := hx s
    rw [after_of_returns hret] at hs
    rw [← hs] at hraise
    exact hf b s e t hraise

/-- What cannot fail once the first part has returned may stand behind. -/
theorem cleanFailure_bind_total {x : Program σ ε β} {f : β → Program σ ε α}
    (hx : CleanFailure R x)
    (hf : ∀ s b u e t, Returns x s b u → ¬ Raises (f b) u e t) :
    CleanFailure R (x >>= f) := by
  intro s e t h
  rcases raises_bind.mp h with hraise | ⟨b, u, hret, hraise⟩
  · exact hx s e t hraise
  · exact absurd hraise (hf s b u e t hret)

/-- A rollback makes a failure clean. -/
theorem cleanFailure_atomically {restore : σ → σ → σ} {P : σ → σ → Prop}
    (hR : ∀ s t, P s t → R s (restore s t)) {x : Program σ ε α} (hx : Always P x) :
    CleanFailure R (atomically restore x) := by
  intro s e t h
  rcases raises_atomically.mp h with ⟨u, hu, rfl⟩
  have hs := hx s
  rw [after_of_raises hu] at hs
  exact hR s u hs

end CleanFailure

end Program

end SyncMaster
