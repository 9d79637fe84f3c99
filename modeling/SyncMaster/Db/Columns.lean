import Mathlib.Algebra.Group.Int.Defs
import Mathlib.Algebra.Group.Nat.Defs
import Mathlib.Data.List.Basic

/-!
# Column Types

The values of the columns, and which of them PostgreSQL stores.

No text has a NUL character. A `VARCHAR(n)` takes texts of up to `n` characters;
of a longer one it cuts the blanks at the end, and refuses it if something else
is beyond the width. A `JSON` column takes what `json.dumps` writes, unless there
is an infinite number in it: a decimal that is too large for a float is read from
the body as `inf` and written as `Infinity`, which is no JSON. An escaped NUL is
JSON, but the search vector of a row is computed from the fields of its JSON
columns, and that unescapes the whole value.

## Main definitions

* `Json`, `Dict`: The content of a JSON column.
* `NulFree`, `Fits`: Texts that a column holds.
* `varchar`, `Storable`: What a column makes of a text, and which ones it takes.
* `Json.Finite`, `Json.Searchable`: JSON values that a column takes.
* `Json.depth`: How deep a JSON value is nested.
* `InBigint`, `InYears`: Identifiers and instants that a column takes.

## Theorems

* `storable_iff_fits`: What is storable fits after the cut.
* `varchar_of_length_le`: The cut leaves what fits.
-/

namespace SyncMaster

/-! ## Values -/

/-- The values of the `BigInteger` columns that identify rows. -/
abbrev Id := Int

/-- A `DateTime` column or a clock reading, in microseconds from the epoch. -/
abbrev Time := Int

inductive Json where
  | null
  | bool (b : Bool)
  | num (n : Int)
  | decimal (mantissa exponent : Int)
  | str (s : String)
  | arr (items : List Json)
  | obj (fields : List (String × Json))

/-- A `dict` with string keys, such as the content of a JSON column. -/
abbrev Dict := List (String × Json)

/-- `d[key] = value`. -/
def Dict.set (d : Dict) (key : String) (value : Json) : Dict :=
  if d.any (fun kv => kv.1 == key) then
    d.map (fun kv => if kv.1 == key then (key, value) else kv)
  else d ++ [(key, value)]

/-- The range of a `BigInteger` column. -/
def InBigint (id : Id) : Prop := -2 ^ 63 ≤ id ∧ id < 2 ^ 63

instance (id : Id) : Decidable (InBigint id) :=
  inferInstanceAs (Decidable (_ ∧ _))

/-- The instant is in a year from 1 to 9999, as a `datetime` in UTC has to be. -/
def InYears (t : Time) : Prop := -62135596800000000 ≤ t ∧ t < 253402300800000000

instance (t : Time) : Decidable (InYears t) :=
  inferInstanceAs (Decidable (_ ∧ _))

/-! ## Texts -/

/-- The character that no text of the database has. -/
def nul : Char := Char.ofNat 0

def NulFree (s : String) : Prop := nul ∉ s.toList

instance (s : String) : Decidable (NulFree s) :=
  inferInstanceAs (Decidable (_ ∉ _))

/-- A column of the width holds the text. -/
def Fits (s : String) (width : Nat) : Prop :=
  s.length ≤ width ∧ NulFree s

instance (s : String) (width : Nat) : Decidable (Fits s width) :=
  inferInstanceAs (Decidable (_ ∧ _))

/-- There are only blanks beyond the width. -/
def blankBeyond (width : Nat) (s : String) : Bool :=
  (s.toList.drop width).all (· == ' ')

/-- What a column of the width makes of a text: blanks beyond the width are cut. -/
def varchar (width : Nat) (s : String) : String :=
  if blankBeyond width s then String.ofList (s.toList.take width) else s

/-- A column of the width takes the text. -/
def Storable (s : String) (width : Nat) : Prop :=
  NulFree s ∧ blankBeyond width s = true

instance (s : String) (width : Nat) : Decidable (Storable s width) :=
  inferInstanceAs (Decidable (_ ∧ _))

section Texts

variable {s : String} {width : Nat}

theorem blankBeyond_of_length_le (h : s.length ≤ width) : blankBeyond width s = true := by
  rw [blankBeyond, List.drop_eq_nil_of_le (by rwa [String.length_toList]), List.all_nil]

theorem varchar_of_length_le (h : s.length ≤ width) : varchar width s = s := by
  rw [varchar, if_pos (blankBeyond_of_length_le h),
    List.take_of_length_le (by rwa [String.length_toList]), String.ofList_toList]

theorem length_varchar_le (h : blankBeyond width s = true) : (varchar width s).length ≤ width := by
  rw [varchar, if_pos h, String.length_ofList]
  exact List.length_take_le _ _

/-- What is cut is no NUL. -/
theorem nulFree_varchar : NulFree (varchar width s) ↔ NulFree s := by
  by_cases hblank : blankBeyond width s = true
  · have hnul : nul ∉ s.toList.drop width := by
      intro h
      have heq := List.all_eq_true.mp hblank nul h
      exact absurd (beq_iff_eq.mp heq) (by decide)
    have hsplit : nul ∈ s.toList ↔ nul ∈ s.toList.take width := by
      rw [← List.take_append_drop width s.toList, List.mem_append, or_iff_left hnul,
        List.take_append_drop]
    rw [NulFree, NulFree, hsplit, varchar, if_pos hblank, String.toList_ofList]
  · rw [varchar, if_neg hblank]

/-- What is storable is what fits after the cut. -/
theorem storable_iff_fits : Storable s width ↔ Fits (varchar width s) width := by
  rw [Storable, Fits, nulFree_varchar]
  refine ⟨fun h => ⟨length_varchar_le h.2, h.1⟩, fun h => ⟨h.2, ?_⟩⟩
  -- A text that is not cut fits as it is, so there is nothing beyond the width.
  by_cases hblank : blankBeyond width s = true
  · exact hblank
  · have hlength := h.1
    rw [varchar, if_neg hblank] at hlength
    exact blankBeyond_of_length_le hlength

/-- A text that is cut does not become empty. -/
theorem varchar_eq_empty_iff (hwidth : 0 < width) : varchar width s = "" ↔ s = "" := by
  unfold varchar
  split
  · rw [String.ofList_eq_empty_iff, List.take_eq_nil_iff, String.toList_eq_nil_iff,
      or_iff_right (Nat.pos_iff_ne_zero.mp hwidth)]
  · rfl

end Texts

/-! ## JSON -/

namespace Json

mutual

/-- Every text of the value, keys included, and every decimal meets its condition. -/
def all (text : String → Bool) (decimal : Int → Int → Bool) : Json → Bool
  | .null | .bool _ | .num _ => true
  | .decimal mantissa exponent => decimal mantissa exponent
  | .str s => text s
  | .arr items => allItems text decimal items
  | .obj fields => allFields text decimal fields

def allItems (text : String → Bool) (decimal : Int → Int → Bool) : List Json → Bool
  | [] => true
  | item :: rest => item.all text decimal && allItems text decimal rest

def allFields (text : String → Bool) (decimal : Int → Int → Bool) : List (String × Json) → Bool
  | [] => true
  | (key, value) :: rest => text key && value.all text decimal && allFields text decimal rest

end

mutual

/-- How many values are inside one another, the value itself included. -/
def depth : Json → Nat
  | .null | .bool _ | .num _ | .decimal _ _ | .str _ => 1
  | .arr items => depthItems items + 1
  | .obj fields => depthFields fields + 1

def depthItems : List Json → Nat
  | [] => 0
  | item :: rest => max item.depth (depthItems rest)

def depthFields : List (String × Json) → Nat
  | [] => 0
  | (_, value) :: rest => max value.depth (depthFields rest)

end

/-- The decimal is read as a float that is not infinite. -/
def isFinite (mantissa exponent : Int) : Bool :=
  decide (mantissa.natAbs * 10 ^ exponent.toNat < (2 ^ 1024 - 2 ^ 970) * 10 ^ (-exponent).toNat)

/-- No number of the value is infinite. -/
def Finite (j : Json) : Prop :=
  j.all (fun _ => true) isFinite = true

/-- No number of the value is infinite, and no text of it has a NUL. -/
def Searchable (j : Json) : Prop :=
  j.all (fun s => decide (NulFree s)) isFinite = true

instance (j : Json) : Decidable j.Finite :=
  inferInstanceAs (Decidable (_ = _))

instance (j : Json) : Decidable j.Searchable :=
  inferInstanceAs (Decidable (_ = _))

end Json

end SyncMaster
