import SyncMaster.Library.Validation
import SyncMaster.Library.Python
import SyncMaster.Schemas

/-!
# Values of a Body

How the values of a JSON body become the values of a schema.

A field is looked up by its name; if it is missing, it is refused or takes its
default, and a default is not validated. A string has to be a string, and so on
for dictionaries and lists. The schemas that are chosen by a discriminator look
at the field `type` first, which has to be a string they know.

The conversions to numbers and truth values accept many spellings. They are the
library's, and so is the reader of byte sizes, which may raise. `Pydantic` is
what the schemas ask of it.

## Main definitions

* `Checked`: What comes of validating a value of a body.
* `Pydantic`: The conversions of the library.
* `str`, `dict`, `array`, `nullable`: The values that are taken as they are.
* `field`, `fieldOr`: The fields of a dictionary.
* `tagged`: A schema chosen by its discriminator.

## Theorems

* `not_raises_str`, `raises_field` and the others: When an exception leaves them.
-/

namespace SyncMaster

/-- What comes of validating a value of a body. -/
abbrev Checked (α : Type) : Type := Validated PyException α

/-- The conversions of the library. -/
structure Pydantic where
  int : Json → Option Int
  bool : Json → Option Bool
  /-- `ByteSize`. -/
  byteSize : Json → Checked Int

/-- Numbers and truth values that are written as such. A size is not negative. -/
def plainPydantic : Pydantic where
  int := fun j => match j with
    | .num n => some n
    | _ => none
  bool := fun j => match j with
    | .bool b => some b
    | _ => none
  byteSize := fun j => match j with
    | .num n => if 0 ≤ n then .ok n else .invalid
    | _ => .invalid

open Validated

/-! ## Values -/

def str : Json → Checked String
  | .str s => .ok s
  | _ => .invalid

def dict : Json → Checked Dict
  | .obj d => .ok d
  | _ => .invalid

def Pydantic.integer (pydantic : Pydantic) (j : Json) : Checked Int :=
  ofOption (pydantic.int j)

def Pydantic.boolean (pydantic : Pydantic) (j : Json) : Checked Bool :=
  ofOption (pydantic.bool j)

/-- A list of values. -/
def array {α : Type} (check : Json → Checked α) : Json → Checked (List α)
  | .arr items => list check items
  | _ => .invalid

/-- `check(...) | None`. -/
def nullable {α : Type} (check : Json → Checked α) : Json → Checked (Option α)
  | .null => .ok none
  | j => some <$> check j

/-- A value that is accepted if it meets the condition. -/
def constrained {α : Type} (p : α → Prop) [DecidablePred p] (a : α) : Checked { a : α // p a } :=
  if h : p a then .ok ⟨a, h⟩ else .invalid

/-- The member of an enumeration with the value. -/
def member {α : Type} (value : α → String) (members : List α) (j : Json) : Checked α :=
  (str j).andThen (fun s => ofOption (members.find? (fun m => value m == s)))

/-! ## Fields -/

/-- A field without a default. -/
def field {α : Type} (d : Dict) (key : String) (check : Json → Checked α) : Checked α :=
  match d.lookup key with
  | some j => check j
  | none => .invalid

/-- A field with a default. -/
def fieldOr {α : Type} (d : Dict) (key : String) (default : α) (check : Json → Checked α) :
    Checked α :=
  match d.lookup key with
  | some j => check j
  | none => .ok default

/-- The schema that the discriminator chooses. -/
def tagged {α β : Type} (value : α → String) (members : List α) (check : α → Dict → Checked β)
    (j : Json) : Checked β :=
  (dict j).andThen (fun d => (field d "type" (member value members)).andThen (fun tag => check tag d))

/-! ## Exceptions -/

section Raises

variable {α β : Type} {check : Json → Checked α} {d : Dict} {key : String} {j : Json}

theorem not_raises_str (j : Json) : ¬ (str j).Raises := by
  cases j with
  | str s => exact not_raises_ok s
  | _ => exact not_raises_invalid

theorem not_raises_dict (j : Json) : ¬ (dict j).Raises := by
  cases j with
  | obj d => exact not_raises_ok d
  | _ => exact not_raises_invalid

theorem Pydantic.not_raises_integer (pydantic : Pydantic) (j : Json) :
    ¬ (pydantic.integer j).Raises :=
  not_raises_ofOption _

theorem Pydantic.not_raises_boolean (pydantic : Pydantic) (j : Json) :
    ¬ (pydantic.boolean j).Raises :=
  not_raises_ofOption _

theorem raises_array :
    (array check j).Raises ↔ ∃ items, j = .arr items ∧ ∃ item ∈ items, (check item).Raises := by
  cases j with
  | arr items =>
      unfold array
      rw [raises_list]
      constructor
      · intro h
        exact ⟨items, rfl, h⟩
      · intro h
        rcases h with ⟨items', heq, h⟩
        cases heq
        exact h
  | _ =>
      refine iff_of_false not_raises_invalid ?_
      intro h
      rcases h with ⟨items, heq, _⟩
      cases heq

theorem not_raises_nullable (h : ∀ j, ¬ (check j).Raises) : ¬ (nullable check j).Raises := by
  cases j with
  | null => exact not_raises_ok none
  | _ =>
      unfold nullable
      rw [raises_map]
      exact h _

theorem not_raises_constrained (p : α → Prop) [DecidablePred p] (a : α) :
    ¬ (constrained p a).Raises := by
  unfold constrained
  by_cases h : p a
  · rw [dif_pos h]
    exact not_raises_ok _
  · rw [dif_neg h]
    exact not_raises_invalid

/-- A check that raises nothing may follow one that raises nothing. -/
theorem not_raises_andThen {x : Checked α} {f : α → Checked β} (hx : ¬ x.Raises)
    (hf : ∀ a, ¬ (f a).Raises) : ¬ (x.andThen f).Raises := by
  intro h
  rcases raises_andThen.mp h with h | ⟨a, _, h⟩
  · exact hx h
  · exact hf a h

theorem not_raises_member (value : α → String) (members : List α) (j : Json) :
    ¬ (member value members j).Raises :=
  not_raises_andThen (not_raises_str j) (fun _ => not_raises_ofOption _)

theorem raises_field :
    (field d key check).Raises ↔ ∃ j, d.lookup key = some j ∧ (check j).Raises := by
  unfold field
  cases d.lookup key with
  | none => exact iff_of_false not_raises_invalid (by simp)
  | some j => simp

theorem raises_fieldOr {default : α} :
    (fieldOr d key default check).Raises ↔ ∃ j, d.lookup key = some j ∧ (check j).Raises := by
  unfold fieldOr
  cases d.lookup key with
  | none => exact iff_of_false (not_raises_ok default) (by simp)
  | some j => simp

theorem not_raises_field (h : ∀ j, ¬ (check j).Raises) : ¬ (field d key check).Raises := by
  rw [raises_field]
  intro hraises
  rcases hraises with ⟨j, _, hj⟩
  exact h j hj

theorem not_raises_fieldOr {default : α} (h : ∀ j, ¬ (check j).Raises) :
    ¬ (fieldOr d key default check).Raises := by
  rw [raises_fieldOr]
  intro hraises
  rcases hraises with ⟨j, _, hj⟩
  exact h j hj

/-- The value is a dictionary with a discriminator that is known. -/
def Tagged (value : α → String) (members : List α) (j : Json) (tag : α) (d : Dict) : Prop :=
  j = .obj d ∧ ∃ s, d.lookup "type" = some (.str s) ∧
    members.find? (fun m => value m == s) = some tag

theorem dict_eq_ok : dict j = .ok d ↔ j = .obj d := by
  cases j <;> simp [dict]

theorem str_eq_ok {s : String} : str j = .ok s ↔ j = .str s := by
  cases j <;> simp [str]

theorem member_eq_ok {value : α → String} {members : List α} {a : α} :
    member value members j = .ok a ↔
      ∃ s, j = .str s ∧ members.find? (fun m => value m == s) = some a := by
  unfold member
  simp only [andThen_eq_ok, str_eq_ok, ofOption_eq_ok]

theorem field_eq_ok {a : α} : field d key check = .ok a ↔ ∃ j, d.lookup key = some j ∧ check j = .ok a := by
  unfold field
  cases d.lookup key <;> simp

/-- An exception leaves the schema that the discriminator chooses. -/
theorem raises_tagged {value : α → String} {members : List α} {check : α → Dict → Checked β} :
    (tagged value members check j).Raises ↔
      ∃ tag d, Tagged value members j tag d ∧ (check tag d).Raises := by
  unfold tagged Tagged
  constructor
  · intro h
    rcases raises_andThen.mp h with h | ⟨d, hd, h⟩
    · exact absurd h (not_raises_dict j)
    · rcases raises_andThen.mp h with h | ⟨tag, htag, h⟩
      · exact absurd h (not_raises_field (not_raises_member value members))
      · rcases field_eq_ok.mp htag with ⟨v, hv, hmember⟩
        rcases member_eq_ok.mp hmember with ⟨s, hs, hfind⟩
        exact ⟨tag, d, ⟨dict_eq_ok.mp hd, s, hs ▸ hv, hfind⟩, h⟩
  · intro h
    rcases h with ⟨tag, d, ⟨hj, s, hs, hfind⟩, h⟩
    refine raises_andThen.mpr (Or.inr ⟨d, dict_eq_ok.mpr hj, raises_andThen.mpr (Or.inr ⟨tag, ?_, h⟩)⟩)
    exact field_eq_ok.mpr ⟨.str s, hs, member_eq_ok.mpr ⟨s, rfl, hfind⟩⟩

end Raises

end SyncMaster
