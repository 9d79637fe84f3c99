import Mathlib.Data.List.Forall2

/-!
# Validation

The outcome of validating a value that has several parts.

A part may be refused, and then the others are still looked at, since all the
errors are reported together. An exception that is not an error of validation
is another matter: it ends the validation there and then. So there are three
outcomes, and the parts are put together by an applicative functor, in order,
while a check that runs after a value has been validated is put behind it by
`andThen`, and does not run when the value is refused.

The rules say for each construct when it accepts and when an exception leaves
it. Whether a value is merely refused needs no rules of its own, being the
remaining case.

## Main definitions

* `Validated`: The three outcomes.
* `andThen`: A check of a value that was accepted.
* `list`: All the items of a list.
* `ofOption`: A value that is refused where there is none.
* `Raises`: An exception leaves the validation.
* `Yields`: What is accepted has a property.

## Theorems

* `raises_map`, `raises_seq`, `raises_andThen` and `raises_list`: When an
  exception leaves the construct.
* `map_eq_ok`, `seq_eq_ok`, `andThen_eq_ok` and `list_eq_ok`: When it accepts,
  and what.
* `yields_map`, `yields_seq`: What is accepted, part by part.
-/

namespace SyncMaster

/-- What comes of validating a value. -/
inductive Validated (E α : Type) where
  | ok (value : α)
  | invalid
  | raised (exception : E)
  deriving DecidableEq

namespace Validated

variable {E α β : Type}

def map (f : α → β) : Validated E α → Validated E β
  | ok value => ok (f value)
  | invalid => invalid
  | raised e => raised e

/-- A refused part does not keep the next one from being looked at. -/
def seq : Validated E (α → β) → Validated E α → Validated E β
  | raised e, _ => raised e
  | ok _, raised e | invalid, raised e => raised e
  | ok f, ok value => ok (f value)
  | ok _, invalid | invalid, ok _ | invalid, invalid => invalid

instance : Applicative (Validated E) where
  pure := ok
  map := map
  seq f x := seq f (x ())

/-- A check of the value, once it is accepted. -/
def andThen (x : Validated E α) (check : α → Validated E β) : Validated E β :=
  match x with
  | ok value => check value
  | invalid => invalid
  | raised e => raised e

/-- The items of a list, in order. -/
def list (check : α → Validated E β) : List α → Validated E (List β)
  | [] => ok []
  | item :: items => List.cons <$> check item <*> list check items

/-- The value, if there is one. -/
def ofOption : Option α → Validated E α
  | some value => ok value
  | none => invalid

/-- An exception leaves the validation. -/
def Raises (x : Validated E α) : Prop := ∃ e, x = raised e

/-! ## Exceptions -/

section Raises

variable {x : Validated E α} {f : Validated E (α → β)} {check : α → Validated E β}

theorem raises_raised (e : E) : (raised e : Validated E α).Raises := ⟨e, rfl⟩

theorem not_raises_ok (value : α) : ¬ (ok value : Validated E α).Raises := by
  intro h
  rcases h with ⟨e, he⟩
  cases he

theorem not_raises_invalid : ¬ (invalid : Validated E α).Raises := by
  intro h
  rcases h with ⟨e, he⟩
  cases he

theorem not_raises_ofOption (value : Option α) : ¬ (ofOption value : Validated E α).Raises := by
  cases value with
  | none => exact not_raises_invalid
  | some value => exact not_raises_ok value

theorem not_raises_ite {c : Prop} [Decidable c] {y : Validated E α} (hx : ¬ x.Raises)
    (hy : ¬ y.Raises) : ¬ (if c then x else y).Raises := by
  by_cases h : c
  · rw [if_pos h]
    exact hx
  · rw [if_neg h]
    exact hy

theorem raises_map (g : α → β) : (g <$> x).Raises ↔ x.Raises := by
  change (x.map g).Raises ↔ _
  cases x with
  | ok value => exact iff_of_false (not_raises_ok _) (not_raises_ok _)
  | invalid => exact iff_of_false not_raises_invalid not_raises_invalid
  | raised e => exact iff_of_true (raises_raised e) (raises_raised e)

theorem raises_seq : (f <*> x).Raises ↔ f.Raises ∨ x.Raises := by
  change (seq f x).Raises ↔ _
  cases f with
  | raised e => exact iff_of_true (raises_raised e) (Or.inl (raises_raised e))
  | ok g =>
      rw [or_iff_right (not_raises_ok g)]
      cases x with
      | ok value => exact iff_of_false (not_raises_ok _) (not_raises_ok _)
      | invalid => exact iff_of_false not_raises_invalid not_raises_invalid
      | raised e => exact iff_of_true (raises_raised e) (raises_raised e)
  | invalid =>
      rw [or_iff_right not_raises_invalid]
      cases x with
      | ok value => exact iff_of_false not_raises_invalid (not_raises_ok _)
      | invalid => exact iff_of_false not_raises_invalid not_raises_invalid
      | raised e => exact iff_of_true (raises_raised e) (raises_raised e)

theorem raises_andThen :
    (x.andThen check).Raises ↔ x.Raises ∨ ∃ value, x = ok value ∧ (check value).Raises := by
  cases x with
  | ok value =>
      rw [or_iff_right (not_raises_ok value)]
      constructor
      · intro h
        exact ⟨value, rfl, h⟩
      · intro h
        rcases h with ⟨value', hvalue, h⟩
        cases hvalue
        exact h
  | invalid =>
      refine iff_of_false not_raises_invalid ?_
      intro h
      rcases h with h | ⟨value, hvalue, _⟩
      · exact not_raises_invalid h
      · cases hvalue
  | raised e => exact iff_of_true (raises_raised e) (Or.inl (raises_raised e))

theorem raises_list {items : List α} :
    (list check items).Raises ↔ ∃ item ∈ items, (check item).Raises := by
  induction items with
  | nil => exact iff_of_false (not_raises_ok []) (by simp)
  | cons item items ih =>
      unfold list
      rw [raises_seq, raises_map, ih]
      simp

end Raises

/-! ## Acceptance -/

section Accepts

variable {x : Validated E α} {f : Validated E (α → β)} {check : α → Validated E β} {value : β}

theorem ofOption_eq_ok {o : Option α} {value : α} :
    (ofOption o : Validated E α) = ok value ↔ o = some value := by
  cases o with
  | none => simp [ofOption]
  | some a => simp [ofOption]

theorem ite_eq_ok {c : Prop} [Decidable c] {a : β} :
    (if c then ok a else invalid : Validated E β) = ok value ↔ c ∧ a = value := by
  by_cases h : c
  · simp [h]
  · simp [h]

theorem map_eq_ok (g : α → β) : g <$> x = ok value ↔ ∃ a, x = ok a ∧ g a = value := by
  change x.map g = _ ↔ _
  cases x <;> simp [map]

theorem seq_eq_ok : f <*> x = ok value ↔ ∃ g a, f = ok g ∧ x = ok a ∧ g a = value := by
  change seq f x = _ ↔ _
  cases f <;> cases x <;> simp [seq]

theorem andThen_eq_ok : x.andThen check = ok value ↔ ∃ a, x = ok a ∧ check a = ok value := by
  cases x <;> simp [andThen]

/-- A list is accepted with all its items. -/
theorem list_eq_ok {items : List α} {values : List β} :
    list check items = ok values ↔ List.Forall₂ (fun a b => check a = ok b) items values := by
  induction items generalizing values with
  | nil =>
      unfold list
      rw [List.forall₂_nil_left_iff]
      constructor
      · intro h
        cases h
        rfl
      · intro h
        rw [h]
  | cons item items ih =>
      unfold list
      rw [seq_eq_ok]
      simp only [map_eq_ok]
      constructor
      · intro h
        rcases h with ⟨_, rest, ⟨b, hb, rfl⟩, hrest, rfl⟩
        exact List.Forall₂.cons hb (ih.mp hrest)
      · intro h
        cases h with
        | cons hb hrest => exact ⟨_, _, ⟨_, hb, rfl⟩, ih.mpr hrest, rfl⟩

/-- Whatever is accepted has the property. -/
def Yields (P : α → Prop) (x : Validated E α) : Prop := ∀ value, x = ok value → P value

theorem yields_map {P : β → Prop} {g : α → β} (h : ∀ a, x = ok a → P (g a)) :
    Yields P (g <$> x) := by
  intro value hvalue
  rcases (map_eq_ok g).mp hvalue with ⟨a, ha, heq⟩
  exact heq ▸ h a ha

theorem yields_seq {P : β → Prop} (h : Yields (fun g => ∀ a, x = ok a → P (g a)) f) :
    Yields P (f <*> x) := by
  intro value hvalue
  rcases seq_eq_ok.mp hvalue with ⟨g, a, hg, ha, heq⟩
  exact heq ▸ h g hg a ha

end Accepts

end Validated

end SyncMaster
