import Mathlib.Data.List.Nodup

/-!
# Dictionaries and Keyword Arguments

Dictionaries as lists of entries, in the order of insertion, and the binding of
a dictionary to the parameters of a constructor.

What a dictionary means is what `lookup` finds in it, and every operation comes
with the lemma that says so. `put` writes in place or behind, `update` puts one
entry after the other, `erase` drops a key.

A constructor that takes keyword arguments has a signature: its parameters,
some with a default. `bind` refuses an argument that is not in the signature
and a parameter without default that gets no argument, and these are the only
two ways to fail, as `bind_eq_ok` says. What is bound is looked up as the
argument, or else the default.

## Main definitions

* `keys`, `put`, `update`, `erase`: Operations on dictionaries.
* `Signature`, `Signature.bind`: The parameters of a constructor, and a call.
* `BindError`: The two ways in which a call is refused.

## Theorems

* `lookup_put`, `lookup_update`, `lookup_erase`: The operations, by `lookup`.
* `bind_eq_ok`: A call that passes what it has to.
* `lookup_bound`: What the constructor has for a parameter.
* `lookup_bound_of_argument`, `argument_or_default`: Where it has it from.
-/

namespace SyncMaster

namespace Assoc

variable {K V : Type} [DecidableEq K]

/-! ## Dictionaries -/

def keys (d : List (K × V)) : List K := d.map Prod.fst

/-- `d[key] = value`. -/
def put (d : List (K × V)) (key : K) (value : V) : List (K × V) :=
  if d.any (fun kv => kv.1 == key) then
    d.map (fun kv => if kv.1 == key then (key, value) else kv)
  else d ++ [(key, value)]

/-- `d.update(e)`. -/
def update (d e : List (K × V)) : List (K × V) :=
  e.foldl (fun d kv => put d kv.1 kv.2) d

/-- `d` without the key. -/
def erase (d : List (K × V)) (key : K) : List (K × V) :=
  d.filter (fun kv => !(kv.1 == key))

/-- A key that is there can be looked up. -/
theorem exists_lookup {d : List (K × V)} {key : K} (h : key ∈ keys d) :
    ∃ value, d.lookup key = some value := by
  refine Option.isSome_iff_exists.mp (List.lookup_isSome_iff.mpr ?_)
  rcases List.mem_map.mp h with ⟨kv, hkv, hkey⟩
  exact ⟨kv, hkv, beq_iff_eq.mpr hkey.symm⟩

theorem mem_of_lookup {d : List (K × V)} {key : K} {value : V} (h : d.lookup key = some value) :
    (key, value) ∈ d := by
  rcases List.lookup_eq_some_iff.mp h with ⟨before, after, hd, _⟩
  rw [hd]
  exact List.mem_append_right _ List.mem_cons_self

theorem mem_keys_of_lookup {d : List (K × V)} {key : K} {value : V}
    (h : d.lookup key = some value) : key ∈ keys d :=
  List.mem_map.mpr ⟨(key, value), mem_of_lookup h, rfl⟩

theorem isSome_lookup {d : List (K × V)} {key : K} :
    (d.lookup key).isSome = true ↔ key ∈ keys d := by
  rw [Option.isSome_iff_exists]
  constructor
  · intro h
    rcases h with ⟨value, hvalue⟩
    exact mem_keys_of_lookup hvalue
  · intro h
    exact exists_lookup h

theorem lookup_eq_none {d : List (K × V)} {key : K} (h : key ∉ keys d) : d.lookup key = none := by
  cases hl : d.lookup key with
  | none => rfl
  | some value => exact absurd (mem_keys_of_lookup hl) h

/-- With keys of their own, the entries are what is looked up. -/
theorem lookup_of_mem {d : List (K × V)} (hd : (keys d).Nodup) {kv : K × V} (h : kv ∈ d) :
    d.lookup kv.1 = some kv.2 := by
  induction d with
  | nil => exact absurd h List.not_mem_nil
  | cons entry rest ih =>
      rw [keys, List.map_cons, List.nodup_cons] at hd
      rcases List.mem_cons.mp h with heq | hrest
      · rw [heq, List.lookup_cons, beq_self_eq_true]
      · have hne : (kv.1 == entry.1) = false := by
          rw [beq_eq_false_iff_ne]
          intro heq
          exact hd.1 (heq ▸ List.mem_map_of_mem hrest)
        rw [List.lookup_cons, hne]
        exact ih hd.2 hrest

theorem lookup_append {d e : List (K × V)} {key : K} :
    (d ++ e).lookup key = (d.lookup key).or (e.lookup key) :=
  List.lookup_append

/-- Setting a key that is there keeps the keys. -/
theorem put_of_mem {d : List (K × V)} {key : K} (h : key ∈ keys d) (value : V) :
    put d key value = d.map (fun kv => (kv.1, if kv.1 = key then value else kv.2)) := by
  have hany : d.any (fun kv => kv.1 == key) = true := by
    rcases List.mem_map.mp h with ⟨kv, hkv, hkey⟩
    exact List.any_eq_true.mpr ⟨kv, hkv, beq_iff_eq.mpr hkey⟩
  unfold put
  rw [if_pos hany]
  refine List.map_congr_left (fun kv _ => ?_)
  by_cases hkey : kv.1 = key
  · rw [if_pos (beq_iff_eq.mpr hkey), if_pos hkey, hkey]
  · rw [if_neg (fun heq => hkey (beq_iff_eq.mp heq)), if_neg hkey]

theorem lookup_put (d : List (K × V)) (key : K) (value : V) (k : K) :
    (put d key value).lookup k = if k = key then some value else d.lookup k := by
  by_cases hmem : key ∈ keys d
  -- The key is there: its value is replaced in place, and each other entry is kept.
  · rw [put_of_mem hmem]
    induction d with
    | nil => exact absurd hmem List.not_mem_nil
    | cons entry rest ih =>
        rw [List.map_cons, List.lookup_cons, List.lookup_cons]
        by_cases hk : k = entry.1
        · rw [beq_iff_eq.mpr hk]
          by_cases hentry : entry.1 = key
          · rw [if_pos (hk.trans hentry)]
            exact congrArg some (if_pos hentry)
          · rw [if_neg (fun h => hentry (hk.symm.trans h))]
            exact congrArg some (if_neg hentry)
        · rw [beq_eq_false_iff_ne.mpr hk]
          by_cases hrest : key ∈ keys rest
          · exact ih hrest
          · -- The key is the one of the entry, so nothing behind it changes.
            have hkey : k ≠ key := by
              intro h
              rcases List.mem_cons.mp hmem with hhead | hbehind
              · exact hk (h.trans hhead)
              · exact hrest hbehind
            have hsame : rest.map (fun kv => (kv.1, if kv.1 = key then value else kv.2)) = rest := by
              refine (List.map_congr_left (fun kv hkv => ?_)).trans (List.map_id rest)
              have hne : kv.1 ≠ key := fun h => hrest (h ▸ List.mem_map_of_mem hkv)
              rw [if_neg hne]
              rfl
            simp only
            rw [if_neg hkey, hsame]
  -- The key is new, and goes to the end.
  · have hany : ¬ d.any (fun kv => kv.1 == key) = true := by
      intro h
      rcases List.any_eq_true.mp h with ⟨kv, hkv, hkey⟩
      exact hmem (List.mem_map.mpr ⟨kv, hkv, beq_iff_eq.mp hkey⟩)
    unfold put
    rw [if_neg hany, lookup_append, List.lookup_cons]
    by_cases hk : k = key
    · rw [hk, lookup_eq_none hmem, if_pos rfl, beq_self_eq_true]
      rfl
    · rw [if_neg hk, beq_eq_false_iff_ne.mpr hk]
      exact Option.or_none

/-- The entries of `e` win, the last of them first. -/
theorem lookup_update (d e : List (K × V)) (he : (keys e).Nodup) (k : K) :
    (update d e).lookup k = (e.lookup k).or (d.lookup k) := by
  induction e generalizing d with
  | nil => exact (Option.none_or).symm
  | cons entry rest ih =>
      rw [keys, List.map_cons, List.nodup_cons] at he
      have hstep : update d (entry :: rest) = update (put d entry.1 entry.2) rest := rfl
      rw [hstep, ih _ he.2, lookup_put, List.lookup_cons]
      by_cases hk : k = entry.1
      · have hnone : rest.lookup k = none := lookup_eq_none (hk ▸ he.1)
        rw [hnone, if_pos hk, beq_iff_eq.mpr hk]
        rfl
      · rw [if_neg hk, beq_eq_false_iff_ne.mpr hk]

theorem lookup_erase (d : List (K × V)) (key k : K) :
    (erase d key).lookup k = if k = key then none else d.lookup k := by
  induction d with
  | nil => rw [erase, List.filter_nil, List.lookup_nil, ite_self]
  | cons entry rest ih =>
      unfold erase at ih ⊢
      rw [List.filter_cons]
      by_cases hentry : entry.1 = key
      · have hdrop : (!(entry.1 == key)) = false := by
          rw [beq_iff_eq.mpr hentry]
          rfl
        rw [hdrop, if_neg Bool.false_ne_true, ih, List.lookup_cons]
        by_cases hk : k = key
        · rw [if_pos hk, if_pos hk]
        · rw [if_neg hk, if_neg hk, beq_eq_false_iff_ne.mpr (fun h => hk (h.trans hentry))]
      · have hkeep : (!(entry.1 == key)) = true := by
          rw [beq_eq_false_iff_ne.mpr hentry]
          rfl
        rw [if_pos hkeep, List.lookup_cons, List.lookup_cons, ih]
        by_cases hk : k = entry.1
        · have hkey : k ≠ key := fun h => hentry (hk.symm.trans h)
          rw [beq_iff_eq.mpr hk]
          exact (if_neg hkey).symm
        · rw [beq_eq_false_iff_ne.mpr hk]

/-! ## Keyword arguments -/

/-- The parameters of a constructor, with their defaults. -/
structure Signature (K V : Type) where
  parameters : List (K × Option V)

inductive BindError (K : Type) where
  | unexpectedArgument (key : K)
  | missingArgument (key : K)
  deriving DecidableEq, Repr

namespace Signature

variable (sig : Signature K V)

def names : List K := keys sig.parameters

/-- The parameters without a default. -/
def required : List K :=
  keys (sig.parameters.filter (fun parameter => parameter.2.isNone))

/-- What a parameter gets: the argument, or the default. -/
def argument (kwargs : List (K × V)) (parameter : K × Option V) : Option V :=
  (kwargs.lookup parameter.1).or parameter.2

/-- A call with keyword arguments. -/
def bind (kwargs : List (K × V)) : Except (BindError K) (List (K × V)) :=
  match kwargs.find? (fun kv => !sig.names.contains kv.1) with
  | some kv => .error (.unexpectedArgument kv.1)
  | none =>
      match sig.parameters.find? (fun parameter => (argument kwargs parameter).isNone) with
      | some parameter => .error (.missingArgument parameter.1)
      | none => .ok (sig.parameters.filterMap (fun parameter =>
          (argument kwargs parameter).map (fun value => (parameter.1, value))))

/-- The parameters with what they are bound to. -/
def bound (kwargs : List (K × V)) : List (K × V) :=
  sig.parameters.filterMap (fun parameter =>
    (argument kwargs parameter).map (fun value => (parameter.1, value)))

variable {sig} {kwargs : List (K × V)}

/-- A call is accepted when its arguments are in the signature and nothing that
    is required is missing. -/
theorem bind_eq_ok (hknown : ∀ k, (kwargs.lookup k).isSome = true → k ∈ sig.names)
    (hrequired : ∀ k ∈ sig.required, (kwargs.lookup k).isSome = true) :
    sig.bind kwargs = .ok (sig.bound kwargs) := by
  have hexpected : kwargs.find? (fun kv => !sig.names.contains kv.1) = none := by
    refine List.find?_eq_none.mpr (fun kv hkv => ?_)
    have hmem : kv.1 ∈ keys kwargs := List.mem_map_of_mem hkv
    rcases exists_lookup hmem with ⟨value, hvalue⟩
    have hname := hknown kv.1 (by rw [hvalue]; rfl)
    rw [List.contains_iff_mem.mpr hname]
    exact Bool.false_ne_true
  have hcomplete : sig.parameters.find? (fun parameter =>
      (argument kwargs parameter).isNone) = none := by
    refine List.find?_eq_none.mpr (fun parameter hparameter => ?_)
    unfold argument
    cases hdefault : parameter.2 with
    | some value => simp
    | none =>
        have hmem : parameter.1 ∈ sig.required := by
          refine List.mem_map_of_mem (List.mem_filter.mpr ⟨hparameter, ?_⟩)
          rw [hdefault]
          rfl
        rcases Option.isSome_iff_exists.mp (hrequired _ hmem) with ⟨value, hvalue⟩
        rw [hvalue]
        exact Bool.false_ne_true
  unfold bind
  rw [hexpected]
  simp only [hcomplete]
  rfl

/-- What is bound to a parameter. -/
theorem lookup_bound (hnames : sig.names.Nodup) (k : K) :
    (sig.bound kwargs).lookup k =
      (sig.parameters.lookup k).bind (fun default => (kwargs.lookup k).or default) := by
  rcases sig with ⟨parameters⟩
  change (keys parameters).Nodup at hnames
  unfold bound
  change (parameters.filterMap _).lookup k = (parameters.lookup k).bind _
  induction parameters with
  | nil => rfl
  | cons parameter rest ih =>
      rw [keys, List.map_cons, List.nodup_cons] at hnames
      rw [List.filterMap_cons, List.lookup_cons]
      by_cases hk : k = parameter.1
      · -- The names are distinct, so nothing behind it is bound to the name.
        have hnone : rest.lookup k = none := lookup_eq_none (hk ▸ hnames.1)
        rw [beq_iff_eq.mpr hk]
        unfold argument
        cases harg : (kwargs.lookup parameter.1).or parameter.2 with
        | none =>
            have hrest := ih hnames.2
            rw [hnone] at hrest
            simp only [Option.map_none, Option.bind_some, hk]
            rw [harg, ← hk]
            exact hrest
        | some value =>
            simp only [Option.map_some, Option.bind_some, hk, harg]
            rw [List.lookup_cons, beq_self_eq_true]
      · rw [beq_eq_false_iff_ne.mpr hk]
        -- Whatever the first parameter is bound to, the name is looked up behind it.
        cases harg : argument kwargs parameter with
        | none => exact ih hnames.2
        | some value =>
            simp only [Option.map_some]
            rw [List.lookup_cons, beq_eq_false_iff_ne.mpr hk]
            exact ih hnames.2

/-- An argument is bound to its parameter. -/
theorem lookup_bound_of_argument (hnames : sig.names.Nodup) {k : K} {value : V}
    (hk : k ∈ sig.names) (h : kwargs.lookup k = some value) :
    (sig.bound kwargs).lookup k = some value := by
  rcases exists_lookup hk with ⟨default, hdefault⟩
  rw [lookup_bound hnames, hdefault, h]
  rfl

/-- What is bound is an argument or a default. -/
theorem argument_or_default (hnames : sig.names.Nodup) {k : K} {value : V}
    (h : (sig.bound kwargs).lookup k = some value) :
    kwargs.lookup k = some value ∨
      (kwargs.lookup k = none ∧ sig.parameters.lookup k = some (some value)) := by
  rw [lookup_bound hnames] at h
  rcases Option.bind_eq_some_iff.mp h with ⟨default, hdefault, hvalue⟩
  cases hargument : kwargs.lookup k with
  | some v =>
      rw [hargument] at hvalue
      exact Or.inl hvalue
  | none =>
      rw [hargument, Option.none_or] at hvalue
      exact Or.inr ⟨rfl, hvalue ▸ hdefault⟩

end Signature

end Assoc

end SyncMaster
