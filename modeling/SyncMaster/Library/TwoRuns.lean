import SyncMaster.Library.Program

/-!
# Two Runs of a Program

A relational logic for the programs of `Library.Program`.

That an observer learns nothing about a part of the state is a statement about
two runs at once: from states that differ in that part only, the two runs end
in the same way, and the states they leave differ in that part only. `Agree`
says this of two programs, which need not be the same, so that inputs can
differ as well. `R` relates the states, `Q` the results; the errors are equal.

There is one rule for each construct. The rule for `>>=` is where the results
matter: related results are handed on, and equal ones can be named.

`Follows` is one direction of this: what the first program returns the second
returns as well, and of the errors of the first nothing is said. It compares two
states of which one allows more than the other.

A program that only reads asks for less. Two states are then compared as they
are, and what comes after a query may use what the query found: `ReadsAlike`.

## Main definitions

* `Agree`: From related states, related results and related states.
* `Follows`: What the first program returns, the second returns from related states.
* `ReadsAlike`: From two states, the same answer, and nothing written.

## Theorems

* `agree_pure`, `agree_bind`, `agree_atomically` and the others: The rules.
* `agree_query`: A query whose outcomes are related.
* `follows_pure`, `follows_bind`, `follows_raiseIf` and the others: The rules of one
  direction.
* `readsAlike_query`, `readsAlike_bind` and the others: The rules for reads.
-/

namespace SyncMaster

namespace Program

variable {σ ε α β γ δ : Type}

/-- From states related by `R` the programs return results related by `Q`, or
    they raise the same error, and they leave related states. -/
def Agree (R : σ → σ → Prop) (Q : α → β → Prop) (x : Program σ ε α) (y : Program σ ε β) : Prop :=
  ∀ s t, R s t →
    (∃ a b s' t', Returns x s a s' ∧ Returns y t b t' ∧ Q a b ∧ R s' t') ∨
      ∃ e s' t', Raises x s e s' ∧ Raises y t e t' ∧ R s' t'

section Rules

variable {R : σ → σ → Prop} {Q : α → β → Prop} {P : γ → δ → Prop}

theorem agree_pure {a : α} {b : β} (h : Q a b) :
    Agree R Q (pure a : Program σ ε α) (pure b : Program σ ε β) :=
  fun s t hst => Or.inl ⟨a, b, s, t, returns_pure.mpr ⟨rfl, rfl⟩, returns_pure.mpr ⟨rfl, rfl⟩,
    h, hst⟩

theorem agree_throw (e : ε) :
    Agree R Q (throw e : Program σ ε α) (throw e : Program σ ε β) :=
  fun s t hst => Or.inr ⟨e, s, t, raises_throw.mpr ⟨rfl, rfl⟩, raises_throw.mpr ⟨rfl, rfl⟩, hst⟩

/-- One program after the other: the results of the first are handed on. -/
theorem agree_bind {x : Program σ ε γ} {y : Program σ ε δ} {f : γ → Program σ ε α}
    {g : δ → Program σ ε β} (hx : Agree R P x y) (hf : ∀ c d, P c d → Agree R Q (f c) (g d)) :
    Agree R Q (x >>= f) (y >>= g) := by
  intro s t hst
  rcases hx s t hst with ⟨c, d, s₁, t₁, hc, hd, hcd, hst₁⟩ | ⟨e, s₁, t₁, hc, hd, hst₁⟩
  · rcases hf c d hcd s₁ t₁ hst₁ with ⟨a, b, s', t', ha, hb, hab, hst'⟩ | ⟨e, s', t', ha, hb, hst'⟩
    · exact Or.inl ⟨a, b, s', t', returns_bind.mpr ⟨c, s₁, hc, ha⟩,
        returns_bind.mpr ⟨d, t₁, hd, hb⟩, hab, hst'⟩
    · exact Or.inr ⟨e, s', t', raises_bind.mpr (Or.inr ⟨c, s₁, hc, ha⟩),
        raises_bind.mpr (Or.inr ⟨d, t₁, hd, hb⟩), hst'⟩
  · exact Or.inr ⟨e, s₁, t₁, raises_bind.mpr (Or.inl hc), raises_bind.mpr (Or.inl hd), hst₁⟩

/-- As `agree_bind`, where the first program returns the same. -/
theorem agree_bind_eq {x y : Program σ ε γ} {f : γ → Program σ ε α} {g : γ → Program σ ε β}
    (hx : Agree R Eq x y) (hf : ∀ c, Agree R Q (f c) (g c)) : Agree R Q (x >>= f) (y >>= g) := by
  refine agree_bind hx (fun c d hcd => ?_)
  rw [hcd]
  exact hf d

/-- The outcomes of a query: related results or the same error. -/
def SameResult (Q : α → β → Prop) : Except ε α → Except ε β → Prop
  | .ok a, .ok b => Q a b
  | .error e, .error e' => e = e'
  | _, _ => False

theorem sameResult_of_eq {r r' : Except ε α} (h : r = r') : SameResult Eq r r' := by
  rw [h]
  cases r' <;> exact rfl

theorem agree_query {f : σ → Except ε α} {g : σ → Except ε β}
    (h : ∀ s t, R s t → SameResult Q (f s) (g t)) : Agree R Q (query f) (query g) := by
  intro s t hst
  have hresult := h s t hst
  cases hf : f s with
  | ok a =>
      cases hg : g t with
      | ok b =>
          rw [hf, hg] at hresult
          exact Or.inl ⟨a, b, s, t, returns_query.mpr ⟨hf, rfl⟩, returns_query.mpr ⟨hg, rfl⟩,
            hresult, hst⟩
      | error e =>
          rw [hf, hg] at hresult
          exact hresult.elim
  | error e =>
      cases hg : g t with
      | ok b =>
          rw [hf, hg] at hresult
          exact hresult.elim
      | error e' =>
          rw [hf, hg] at hresult
          have heq : e = e' := hresult
          rw [← heq] at hg
          exact Or.inr ⟨e, s, t, raises_query.mpr ⟨hf, rfl⟩, raises_query.mpr ⟨hg, rfl⟩, hst⟩

theorem agree_execute {f g : σ → σ} (h : ∀ s t, R s t → R (f s) (g t)) :
    Agree R Eq (execute f : Program σ ε Unit) (execute g) :=
  fun s t hst => Or.inl ⟨(), (), f s, g t, returns_execute.mpr rfl, returns_execute.mpr rfl,
    rfl, h s t hst⟩

theorem agree_raiseIf (c : Prop) [Decidable c] (e : ε) :
    Agree R Eq (raiseIf c e : Program σ ε Unit) (raiseIf c e) :=
  agree_query (fun _ _ _ => sameResult_of_eq rfl)

theorem agree_catching {handle : ε → ε} {x : Program σ ε α} {y : Program σ ε β}
    (h : Agree R Q x y) : Agree R Q (catching handle x) (catching handle y) := by
  intro s t hst
  rcases h s t hst with ⟨a, b, s', t', ha, hb, hrest⟩ | ⟨e, s', t', ha, hb, hst'⟩
  · exact Or.inl ⟨a, b, s', t', returns_catching.mpr ha, returns_catching.mpr hb, hrest⟩
  · exact Or.inr ⟨handle e, s', t', raises_catching.mpr ⟨e, ha, rfl⟩,
      raises_catching.mpr ⟨e, hb, rfl⟩, hst'⟩

theorem agree_recovering {S : α → α → Prop} {recover : ε → Option α} {x y : Program σ ε α}
    (hrecovered : ∀ e a, recover e = some a → S a a) (h : Agree R S x y) :
    Agree R S (recovering recover x) (recovering recover y) := by
  intro s t hst
  rcases h s t hst with ⟨a, b, s', t', ha, hb, hrest⟩ | ⟨e, s', t', ha, hb, hst'⟩
  · exact Or.inl ⟨a, b, s', t', returns_recovering.mpr (Or.inl ha),
      returns_recovering.mpr (Or.inl hb), hrest⟩
  · cases hrecover : recover e with
    | some a =>
        exact Or.inl ⟨a, a, s', t', returns_recovering.mpr (Or.inr ⟨e, ha, hrecover⟩),
          returns_recovering.mpr (Or.inr ⟨e, hb, hrecover⟩), hrecovered e a hrecover, hst'⟩
    | none =>
        exact Or.inr ⟨e, s', t', raises_recovering.mpr ⟨ha, hrecover⟩,
          raises_recovering.mpr ⟨hb, hrecover⟩, hst'⟩

/-- A rollback keeps the relation when restoring does. -/
theorem agree_atomically {restore : σ → σ → σ} {x : Program σ ε α} {y : Program σ ε β}
    (hrestore : ∀ s t s' t', R s t → R s' t' → R (restore s s') (restore t t'))
    (h : Agree R Q x y) : Agree R Q (atomically restore x) (atomically restore y) := by
  intro s t hst
  rcases h s t hst with ⟨a, b, s', t', ha, hb, hrest⟩ | ⟨e, s', t', ha, hb, hst'⟩
  · exact Or.inl ⟨a, b, s', t', returns_atomically.mpr ha, returns_atomically.mpr hb, hrest⟩
  · exact Or.inr ⟨e, restore s s', restore t t', raises_atomically.mpr ⟨s', ha, rfl⟩,
      raises_atomically.mpr ⟨t', hb, rfl⟩, hrestore s t s' t' hst hst'⟩

end Rules

/-- What the first program returns from `s`, the second returns from `t`, up to `Q`,
    and the states they leave are related. -/
def Follows (R : σ → σ → Prop) (Q : α → β → Prop) (x : Program σ ε α) (y : Program σ ε β) : Prop :=
  ∀ s t, R s t → ∀ a s', Returns x s a s' → ∃ b t', Returns y t b t' ∧ Q a b ∧ R s' t'

section Follows

variable {R : σ → σ → Prop} {Q : α → β → Prop} {P : γ → δ → Prop}

theorem follows_pure {a : α} {b : β} (h : Q a b) :
    Follows R Q (pure a : Program σ ε α) (pure b : Program σ ε β) := by
  intro s t hst a' s' ha
  rcases returns_pure.mp ha with ⟨rfl, rfl⟩
  exact ⟨b, t, returns_pure.mpr ⟨rfl, rfl⟩, h, hst⟩

/-- A program that raises is followed by every program. -/
theorem follows_throw (e : ε) (y : Program σ ε β) : Follows R Q (throw e : Program σ ε α) y :=
  fun _ _ _ _ _ ha => absurd ha returns_throw

theorem follows_bind {x : Program σ ε γ} {y : Program σ ε δ} {f : γ → Program σ ε α}
    {g : δ → Program σ ε β} (hx : Follows R P x y) (hf : ∀ c d, P c d → Follows R Q (f c) (g d)) :
    Follows R Q (x >>= f) (y >>= g) := by
  intro s t hst a s' ha
  rcases returns_bind.mp ha with ⟨c, s₁, hc, ha⟩
  rcases hx s t hst c s₁ hc with ⟨d, t₁, hd, hcd, hst₁⟩
  rcases hf c d hcd s₁ t₁ hst₁ a s' ha with ⟨b, t', hb, hab, hst'⟩
  exact ⟨b, t', returns_bind.mpr ⟨d, t₁, hd, hb⟩, hab, hst'⟩

theorem follows_bind_eq {x y : Program σ ε γ} {f : γ → Program σ ε α} {g : γ → Program σ ε β}
    (hx : Follows R Eq x y) (hf : ∀ c, Follows R Q (f c) (g c)) :
    Follows R Q (x >>= f) (y >>= g) := by
  refine follows_bind hx (fun c d hcd => ?_)
  rw [hcd]
  exact hf d

theorem follows_query {f : σ → Except ε α} {g : σ → Except ε β}
    (h : ∀ s t, R s t → ∀ a, f s = .ok a → ∃ b, g t = .ok b ∧ Q a b) :
    Follows R Q (query f) (query g) := by
  intro s t hst a s' ha
  rcases returns_query.mp ha with ⟨hvalue, rfl⟩
  rcases h s t hst a hvalue with ⟨b, hb, hab⟩
  exact ⟨b, t, returns_query.mpr ⟨hb, rfl⟩, hab, hst⟩

theorem follows_query_eq {f g : σ → Except ε α} (h : ∀ s t, R s t → g t = f s) :
    Follows R Eq (query f) (query g) :=
  follows_query (fun s t hst a ha => ⟨a, (h s t hst).trans ha, rfl⟩)

theorem follows_execute {f g : σ → σ} (h : ∀ s t, R s t → R (f s) (g t)) :
    Follows R Eq (execute f : Program σ ε Unit) (execute g) := by
  intro s t hst a s' ha
  have hs' : f s = s' := returns_execute.mp ha
  rw [← hs']
  exact ⟨(), g t, returns_execute.mpr rfl, rfl, h s t hst⟩

/-- A check that refuses less. -/
theorem follows_raiseIf {c d : Prop} [Decidable c] [Decidable d] {e : ε} (h : d → c) :
    Follows R Eq (raiseIf c e : Program σ ε Unit) (raiseIf d e) := by
  intro s t hst a s' ha
  rcases returns_raiseIf.mp ha with ⟨hc, rfl⟩
  exact ⟨(), t, returns_raiseIf.mpr ⟨fun hd => hc (h hd), rfl⟩, rfl, hst⟩

/-- A check that refuses less, in front of a program. -/
theorem follows_check {c d : Prop} [Decidable c] [Decidable d] {e : ε} {x : Program σ ε α}
    {y : Program σ ε β} (h : d → c) (hx : Follows R Q x y) :
    Follows R Q (do raiseIf c e; x) (do raiseIf d e; y) :=
  follows_bind_eq (follows_raiseIf h) (fun _ => hx)

theorem follows_catching {handle : ε → ε} {x : Program σ ε α} {y : Program σ ε β}
    (h : Follows R Q x y) : Follows R Q (catching handle x) (catching handle y) := by
  intro s t hst a s' ha
  rcases h s t hst a s' (returns_catching.mp ha) with ⟨b, t', hb, hrest⟩
  exact ⟨b, t', returns_catching.mpr hb, hrest⟩

theorem follows_atomically {restore : σ → σ → σ} {x : Program σ ε α} {y : Program σ ε β}
    (h : Follows R Q x y) : Follows R Q (atomically restore x) (atomically restore y) := by
  intro s t hst a s' ha
  rcases h s t hst a s' (returns_atomically.mp ha) with ⟨b, t', hb, hrest⟩
  exact ⟨b, t', returns_atomically.mpr hb, hrest⟩

theorem follows_ite {c : Prop} [Decidable c] {x y : Program σ ε α} {x' y' : Program σ ε β}
    (hx : Follows R Q x x') (hy : Follows R Q y y') :
    Follows R Q (if c then x else y) (if c then x' else y') := by
  by_cases hc : c
  · rw [if_pos hc, if_pos hc]
    exact hx
  · rw [if_neg hc, if_neg hc]
    exact hy

end Follows

/-- From both states the program returns the same or raises the same error, and it
    leaves them alone. -/
def ReadsAlike (x : Program σ ε α) (s t : σ) : Prop :=
  (∃ a, Returns x s a s ∧ Returns x t a t) ∨ ∃ e, Raises x s e s ∧ Raises x t e t

section ReadsAlike

variable {s t : σ}

theorem readsAlike_symm {x : Program σ ε α} (h : ReadsAlike x s t) : ReadsAlike x t s := by
  rcases h with ⟨a, hs, ht⟩ | ⟨e, hs, ht⟩
  · exact Or.inl ⟨a, ht, hs⟩
  · exact Or.inr ⟨e, ht, hs⟩

theorem readsAlike_pure (a : α) : ReadsAlike (pure a : Program σ ε α) s t :=
  Or.inl ⟨a, returns_pure.mpr ⟨rfl, rfl⟩, returns_pure.mpr ⟨rfl, rfl⟩⟩

theorem readsAlike_query {f : σ → Except ε α} (h : f s = f t) : ReadsAlike (query f) s t := by
  cases hf : f t with
  | ok a =>
      exact Or.inl ⟨a, returns_query.mpr ⟨h.trans hf, rfl⟩, returns_query.mpr ⟨hf, rfl⟩⟩
  | error e =>
      exact Or.inr ⟨e, raises_query.mpr ⟨h.trans hf, rfl⟩, raises_query.mpr ⟨hf, rfl⟩⟩

theorem readsAlike_raiseIf (c : Prop) [Decidable c] (e : ε) :
    ReadsAlike (raiseIf c e : Program σ ε Unit) s t :=
  readsAlike_query rfl

/-- What follows a read may rely on what was read. -/
theorem readsAlike_bind {x : Program σ ε β} {f : β → Program σ ε α} (hx : ReadsAlike x s t)
    (hf : ∀ b, Returns x s b s → ReadsAlike (f b) s t) : ReadsAlike (x >>= f) s t := by
  rcases hx with ⟨b, hs, ht⟩ | ⟨e, hs, ht⟩
  · rcases hf b hs with ⟨a, has, hat⟩ | ⟨e, hes, het⟩
    · exact Or.inl ⟨a, returns_bind.mpr ⟨b, s, hs, has⟩, returns_bind.mpr ⟨b, t, ht, hat⟩⟩
    · exact Or.inr ⟨e, raises_bind.mpr (Or.inr ⟨b, s, hs, hes⟩),
        raises_bind.mpr (Or.inr ⟨b, t, ht, het⟩)⟩
  · exact Or.inr ⟨e, raises_bind.mpr (Or.inl hs), raises_bind.mpr (Or.inl ht)⟩

theorem readsAlike_catching {handle : ε → ε} {x : Program σ ε α} (h : ReadsAlike x s t) :
    ReadsAlike (catching handle x) s t := by
  rcases h with ⟨a, hs, ht⟩ | ⟨e, hs, ht⟩
  · exact Or.inl ⟨a, returns_catching.mpr hs, returns_catching.mpr ht⟩
  · exact Or.inr ⟨handle e, raises_catching.mpr ⟨e, hs, rfl⟩, raises_catching.mpr ⟨e, ht, rfl⟩⟩

theorem readsAlike_recovering {recover : ε → Option α} {x : Program σ ε α}
    (h : ReadsAlike x s t) : ReadsAlike (recovering recover x) s t := by
  rcases h with ⟨a, hs, ht⟩ | ⟨e, hs, ht⟩
  · exact Or.inl ⟨a, returns_recovering.mpr (Or.inl hs), returns_recovering.mpr (Or.inl ht)⟩
  · cases hrecover : recover e with
    | some a =>
        exact Or.inl ⟨a, returns_recovering.mpr (Or.inr ⟨e, hs, hrecover⟩),
          returns_recovering.mpr (Or.inr ⟨e, ht, hrecover⟩)⟩
    | none =>
        exact Or.inr ⟨e, raises_recovering.mpr ⟨hs, hrecover⟩,
          raises_recovering.mpr ⟨ht, hrecover⟩⟩

theorem readsAlike_mapError {ε' : Type} {wrap : ε → ε'} {x : Program σ ε α}
    (h : ReadsAlike x s t) : ReadsAlike (mapError wrap x) s t := by
  rcases h with ⟨a, hs, ht⟩ | ⟨e, hs, ht⟩
  · exact Or.inl ⟨a, returns_mapError.mpr hs, returns_mapError.mpr ht⟩
  · exact Or.inr ⟨wrap e, raises_mapError.mpr ⟨e, hs, rfl⟩, raises_mapError.mpr ⟨e, ht, rfl⟩⟩

/-- Wrapping the error hides nothing. -/
theorem readsAlike_of_mapError {ε' : Type} {wrap : ε → ε'} (hwrap : Function.Injective wrap)
    {x : Program σ ε α} (h : ReadsAlike (mapError wrap x) s t) : ReadsAlike x s t := by
  rcases h with ⟨a, hs, ht⟩ | ⟨e, hs, ht⟩
  · exact Or.inl ⟨a, returns_mapError.mp hs, returns_mapError.mp ht⟩
  · rcases raises_mapError.mp hs with ⟨e₁, hs, h₁⟩
    rcases raises_mapError.mp ht with ⟨e₂, ht, h₂⟩
    rw [← hwrap (h₂.trans h₁.symm)] at hs
    exact Or.inr ⟨e₂, hs, ht⟩

/-- Wrapping the result hides nothing. -/
theorem readsAlike_of_bind_pure {wrap : β → α} (hwrap : Function.Injective wrap)
    {x : Program σ ε β} (h : ReadsAlike (x >>= fun b => pure (wrap b)) s t) :
    ReadsAlike x s t := by
  rcases h with ⟨a, hs, ht⟩ | ⟨e, hs, ht⟩
  · rcases returns_bind.mp hs with ⟨b, s', hs, hb⟩
    rcases returns_bind.mp ht with ⟨c, t', ht, hc⟩
    rcases returns_pure.mp hb with ⟨hab, rfl⟩
    rcases returns_pure.mp hc with ⟨hac, rfl⟩
    rw [hwrap (hab.trans hac.symm)] at hs
    exact Or.inl ⟨c, hs, ht⟩
  · rcases raises_bind.mp hs with hs | ⟨b, _, _, hb⟩
    · rcases raises_bind.mp ht with ht | ⟨c, _, _, hc⟩
      · exact Or.inr ⟨e, hs, ht⟩
      · exact absurd hc raises_pure
    · exact absurd hb raises_pure

/-- Different errors are no same answer. -/
theorem not_readsAlike_of_raises {x : Program σ ε α} {e e' : ε} (hs : Raises x s e s)
    (ht : Raises x t e' t) (hne : e ≠ e') : ¬ ReadsAlike x s t := by
  intro h
  rcases h with ⟨a, has, _⟩ | ⟨e₀, hes, het⟩
  · exact not_raises_of_returns has hs
  · rw [Raises, hs] at hes
    rw [Raises, ht] at het
    cases hes
    cases het
    exact hne rfl

end ReadsAlike

end Program

end SyncMaster
