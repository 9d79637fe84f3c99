import SyncMaster.Library.Templates
import Mathlib.Tactic.LinearCombination
import Mathlib.Tactic.Ring

/-!
# Stretches of Digits

Two numbers that are written next to each other cannot be told apart: `1` and
`11` read like `11` and `1`. Where the digits end can be told. So the symbols of
a template are cut at those that bring a character that is no digit, and what is
left between two cuts is a stretch of numbers and digits. Texts that are the
same are the same in each stretch.

Inside a stretch the lengths decide. If one number is longer by some digits, the
other has to be shorter, in the proportion in which the two occur. Two stretches
with different proportions leave only one way, that neither is longer, and so
does a stretch with one of the numbers alone. Then the numbers stand in the same
places and are the same.

## Main definitions

* `Separates`: Which symbols bring a character that is no digit.
* `stretches`: What is left between them.
* `TellsApart`: The proportions of two numbers differ.

## Theorems

* `digits_cut`: Digits end at the same place in equal texts.
* `stretches_eq`: Equal texts have equal stretches.
* `eq_of_length_eq`, `eq_of_tellsApart`: The number can be read off the text.
* `write_eq_of_not_tellsApart`: Where nothing tells, there are equal texts.
-/

namespace SyncMaster

/-! ## Where digits end -/

section Digits

variable {u u' r r' : List Char}

theorem digits_cut_char {c : Char} (hu : ∀ d ∈ u, d.isDigit = true)
    (hu' : ∀ d ∈ u', d.isDigit = true) (hc : c.isDigit = false)
    (h : u ++ c :: r = u' ++ c :: r') : u = u' ∧ r = r' := by
  have hcount : ∀ v : List Char, (∀ d ∈ v, d.isDigit = true) → v.count c = 0 := by
    intro v hv
    refine List.count_eq_zero.mpr (fun hmem => ?_)
    rw [hv c hmem] at hc
    cases hc
  exact cut_eq h ((hcount u hu).trans (hcount u' hu').symm)

/-- A text that is not all digits, cut at the first character that is none. -/
theorem exists_first_break {w : List Char} (h : ∃ c ∈ w, c.isDigit = false) :
    ∃ front c behind, w = front ++ c :: behind ∧ (∀ d ∈ front, d.isDigit = true) ∧
      c.isDigit = false := by
  induction w with
  | nil =>
      rcases h with ⟨c, hc, _⟩
      exact absurd hc List.not_mem_nil
  | cons d w ih =>
      by_cases hd : d.isDigit = true
      · have hrest : ∃ c ∈ w, c.isDigit = false := by
          rcases h with ⟨c, hc, hbreak⟩
          rcases List.mem_cons.mp hc with rfl | hc
          · rw [hd] at hbreak
            cases hbreak
          · exact ⟨c, hc, hbreak⟩
        rcases ih hrest with ⟨front, c, behind, rfl, hfront, hbreak⟩
        exact ⟨d :: front, c, behind, rfl, List.forall_mem_cons.mpr ⟨hd, hfront⟩, hbreak⟩
      · exact ⟨[], d, w, rfl, List.forall_mem_nil _, Bool.eq_false_iff.mpr hd⟩

/-- Digits end where a text begins that is not all digits, if it is the same text. -/
theorem digits_cut {w : List Char} (hu : ∀ d ∈ u, d.isDigit = true)
    (hu' : ∀ d ∈ u', d.isDigit = true) (hw : ∃ c ∈ w, c.isDigit = false)
    (h : u ++ (w ++ r) = u' ++ (w ++ r')) : u = u' ∧ r = r' := by
  rcases exists_first_break hw with ⟨front, c, behind, rfl, hfront, hc⟩
  rw [List.append_assoc, List.cons_append, List.append_assoc, List.cons_append,
    ← List.append_assoc, ← List.append_assoc] at h
  have hdigits : ∀ v : List Char, (∀ d ∈ v, d.isDigit = true) →
      ∀ d ∈ v ++ front, d.isDigit = true :=
    fun v hv => List.forall_mem_append.mpr ⟨hv, hfront⟩
  have hcut := digits_cut_char (hdigits u hu) (hdigits u' hu') hc h
  exact ⟨List.append_cancel_right hcut.1, List.append_cancel_left hcut.2⟩

end Digits

/-! ## Stretches -/

section Stretches

variable {separates : Symbol → Bool} {values values' : String → String}
  {addresses addresses' : Nat → Nat} {symbols : List Symbol}

def stretches (separates : Symbol → Bool) (symbols : List Symbol) : List (List Symbol) :=
  symbols.splitOnP separates

/-- What separates stretches is the same in both texts and is not all digits. What
    does not is all digits. -/
structure Separates (separates : Symbol → Bool) (values values' : String → String)
    (symbols : List Symbol) : Prop where
  address : ∀ text, separates (.address text) = true
  same : ∀ symbol ∈ symbols, separates symbol = true → (∀ text, symbol ≠ .address text) →
    symbol.text values 0 = symbol.text values' 0
  breaks : ∀ symbol ∈ symbols, separates symbol = true → (∀ text, symbol ≠ .address text) →
    ∃ c ∈ symbol.text values 0, c.isDigit = false
  digits : ∀ symbol ∈ symbols, separates symbol = false →
    ∀ c ∈ symbol.text values 0, c.isDigit = true
  digits' : ∀ symbol ∈ symbols, separates symbol = false →
    ∀ c ∈ symbol.text values' 0, c.isDigit = true

theorem Separates.tail {symbol : Symbol}
    (h : Separates separates values values' (symbol :: symbols)) :
    Separates separates values values' symbols where
  address := h.address
  same other hother := h.same other (List.mem_cons_of_mem symbol hother)
  breaks other hother := h.breaks other (List.mem_cons_of_mem symbol hother)
  digits other hother := h.digits other (List.mem_cons_of_mem symbol hother)
  digits' other hother := h.digits' other (List.mem_cons_of_mem symbol hother)

theorem Separates.ne_address (h : Separates separates values values' symbols) {symbol : Symbol}
    (hno : separates symbol = false) (text : String) : symbol ≠ .address text := by
  rintro rfl
  rw [h.address] at hno
  cases hno

theorem mem_of_mem_stretch {s : List Symbol} (hs : s ∈ stretches separates symbols)
    {symbol : Symbol} (hsymbol : symbol ∈ s) : symbol ∈ symbols ∧ separates symbol = false :=
  mem_of_mem_splitOnP hs hsymbol

/-- A symbol that does not separate is in a stretch. -/
theorem exists_stretch {symbol : Symbol} (hsymbol : symbol ∈ symbols)
    (hseparates : separates symbol = false) : ∃ s ∈ stretches separates symbols, symbol ∈ s :=
  exists_mem_splitOnP hsymbol hseparates

/-- The induction goes from one cut to the next, with the symbols since the last
    one in front. -/
theorem stretches_eq_from {front : List Symbol} (h : Separates separates values values' symbols)
    (hfront : ∀ symbol ∈ front, separates symbol = false)
    (hdigits : ∀ c ∈ front.flatMap (Symbol.text values 0), c.isDigit = true)
    (hdigits' : ∀ c ∈ front.flatMap (Symbol.text values' 0), c.isDigit = true)
    (hwrite : front.flatMap (Symbol.text values 0) ++ write values addresses symbols =
      front.flatMap (Symbol.text values' 0) ++ write values' addresses' symbols) :
    ∀ s ∈ stretches separates (front ++ symbols),
      s.flatMap (Symbol.text values 0) = s.flatMap (Symbol.text values' 0) := by
  induction symbols generalizing front addresses addresses' with
  | nil =>
      rw [write, write, List.append_nil, List.append_nil] at hwrite
      rw [stretches, List.append_nil, List.splitOnP_eq_singleton hfront]
      exact List.forall_mem_singleton.mpr hwrite
  | cons symbol symbols ih =>
      rw [write, write] at hwrite
      by_cases hsymbol : separates symbol = true
      · have hcut : front.flatMap (Symbol.text values 0) = front.flatMap (Symbol.text values' 0) ∧
            write values (fun k => addresses (k + 1)) symbols =
              write values' (fun k => addresses' (k + 1)) symbols := by
          by_cases haddress : ∃ text, symbol = .address text
          · rcases haddress with ⟨text, rfl⟩
            -- The bracket that opens an address is no digit.
            have hopens := digits_cut_char hdigits hdigits' rfl hwrite
            rw [hopens.1] at hwrite
            exact ⟨hopens.1, tail_of_address (List.append_cancel_left hwrite)⟩
          · have hne : ∀ text, symbol ≠ .address text := fun text heq => haddress ⟨text, heq⟩
            rw [text_of_plain values hne, text_of_plain values' hne,
              ← h.same symbol List.mem_cons_self hsymbol hne] at hwrite
            exact digits_cut hdigits hdigits' (h.breaks symbol List.mem_cons_self hsymbol hne) hwrite
        rw [stretches, List.splitOnP_append_cons_of_forall_mem hfront symbol hsymbol]
        refine List.forall_mem_cons.mpr ⟨hcut.1, ?_⟩
        exact ih h.tail (List.forall_mem_nil _) (List.forall_mem_nil _) (List.forall_mem_nil _) hcut.2
      · have hno : separates symbol = false := Bool.eq_false_iff.mpr hsymbol
        have hne := h.ne_address hno
        rw [text_of_plain values hne, text_of_plain values' hne, ← List.append_assoc,
          ← List.append_assoc, ← flatMap_text_snoc, ← flatMap_text_snoc] at hwrite
        have hlonger := ih h.tail (List.forall_mem_append.mpr
          ⟨hfront, List.forall_mem_singleton.mpr hno⟩) ?_ ?_ hwrite
        · rw [List.append_assoc] at hlonger
          exact hlonger
        · rw [flatMap_text_snoc]
          exact List.forall_mem_append.mpr ⟨hdigits, h.digits symbol List.mem_cons_self hno⟩
        · rw [flatMap_text_snoc]
          exact List.forall_mem_append.mpr ⟨hdigits', h.digits' symbol List.mem_cons_self hno⟩

/-- Equal texts have equal stretches. -/
theorem stretches_eq (h : Separates separates values values' symbols)
    (hwrite : write values addresses symbols = write values' addresses' symbols) :
    ∀ s ∈ stretches separates symbols,
      s.flatMap (Symbol.text values 0) = s.flatMap (Symbol.text values' 0) :=
  stretches_eq_from h (List.forall_mem_nil _) (List.forall_mem_nil _) (List.forall_mem_nil _) hwrite

theorem write_eq_from (addresses : Nat → Nat) {front : List Symbol}
    (h : Separates separates values values' symbols)
    (hfront : ∀ symbol ∈ front, separates symbol = false)
    (hparts : ∀ s ∈ stretches separates (front ++ symbols),
      s.flatMap (Symbol.text values 0) = s.flatMap (Symbol.text values' 0)) :
    front.flatMap (Symbol.text values 0) ++ write values addresses symbols =
      front.flatMap (Symbol.text values' 0) ++ write values' addresses symbols := by
  induction symbols generalizing front addresses with
  | nil =>
      rw [stretches, List.append_nil, List.splitOnP_eq_singleton hfront] at hparts
      rw [write, write, List.append_nil, List.append_nil]
      exact hparts front (List.mem_singleton_self front)
  | cons symbol symbols ih =>
      rw [write, write]
      -- The symbol ends the stretch in front of it, and has the same text on both sides.
      by_cases hsymbol : separates symbol = true
      · rw [stretches, List.splitOnP_append_cons_of_forall_mem hfront symbol hsymbol] at hparts
        have hnil := ih (fun k => addresses (k + 1)) h.tail (List.forall_mem_nil _)
          (fun s hs => hparts s (List.mem_cons_of_mem front hs))
        have htext : symbol.text values (addresses 0) = symbol.text values' (addresses 0) := by
          by_cases haddress : ∃ text, symbol = .address text
          · rcases haddress with ⟨text, rfl⟩
            rfl
          · have hne : ∀ text, symbol ≠ .address text := fun text heq => haddress ⟨text, heq⟩
            rw [text_of_plain values hne, text_of_plain values' hne,
              h.same symbol List.mem_cons_self hsymbol hne]
        rw [hparts front List.mem_cons_self, htext]
        exact congrArg (fun rest => _ ++ (_ ++ rest)) hnil
      -- The symbol goes on with the stretch, so the induction takes it to the front.
      · have hno : separates symbol = false := Bool.eq_false_iff.mpr hsymbol
        have hne := h.ne_address hno
        rw [text_of_plain values hne, text_of_plain values' hne, ← List.append_assoc,
          ← List.append_assoc, ← flatMap_text_snoc, ← flatMap_text_snoc]
        refine ih _ h.tail (List.forall_mem_append.mpr
          ⟨hfront, List.forall_mem_singleton.mpr hno⟩) ?_
        rw [List.append_assoc]
        exact hparts

/-- Where all stretches are equal, so are the texts. -/
theorem write_eq_of_stretches (h : Separates separates values values' symbols)
    (hparts : ∀ s ∈ stretches separates symbols,
      s.flatMap (Symbol.text values 0) = s.flatMap (Symbol.text values' 0)) :
    write values addresses symbols = write values' addresses symbols :=
  write_eq_from addresses h (List.forall_mem_nil _) hparts

end Stretches

/-! ## Two numbers in the stretches -/

section Numbers

variable {separates : Symbol → Bool} {values values' : String → String}
  {addresses addresses' : Nat → Nat} {symbols : List Symbol} {x y : String}

/-- How much longer the text of an argument is with the first values. -/
def excess (values values' : String → String) (x : String) : Int :=
  (values x).toList.length - (values' x).toList.length

theorem length_eq_of_excess (h : excess values values' x = 0) :
    (values x).toList.length = (values' x).toList.length := by
  unfold excess at h
  omega

/-- Some stretch has the first number without the second, or two stretches have
    them in different proportions. -/
def TellsApart (x y : String) (parts : List (List Symbol)) : Prop :=
  (∃ s ∈ parts, s.count (.argument x) ≠ 0 ∧ s.count (.argument y) = 0) ∨
    ∃ s ∈ parts, ∃ t ∈ parts,
      s.count (.argument x) * t.count (.argument y) ≠ t.count (.argument x) * s.count (.argument y)

instance (x y : String) (parts : List (List Symbol)) : Decidable (TellsApart x y parts) :=
  inferInstanceAs (Decidable (_ ∨ _))

/-- The values agree on what is in a stretch, up to the two numbers. -/
def AgreeBut (x y : String) (values values' : String → String) (s : List Symbol) : Prop :=
  ∀ symbol ∈ s, symbol ≠ .argument x → symbol ≠ .argument y →
    symbol.text values 0 = symbol.text values' 0

/-- The difference in length is that of the numbers, as often as they occur. -/
theorem length_stretch {s : List Symbol} (hxy : x ≠ y) (h : AgreeBut x y values values' s) :
    ((s.flatMap (Symbol.text values 0)).length : Int) =
      (s.flatMap (Symbol.text values' 0)).length + s.count (.argument x) * excess values values' x +
        s.count (.argument y) * excess values values' y := by
  induction s with
  | nil => simp
  | cons symbol s ih =>
      have hrest := ih (fun other hother => h other (List.mem_cons_of_mem symbol hother))
      rw [List.flatMap_cons, List.flatMap_cons, List.length_append, List.length_append,
        List.count_cons, List.count_cons]
      push_cast
      -- A symbol adds to the excess only if it is one of the two arguments.
      by_cases hx : symbol = .argument x
      · have hne : (symbol == Symbol.argument y) = false := by
          rw [hx]
          exact beq_eq_false_iff_ne.mpr (fun heq => hxy (Symbol.argument.inj heq))
        rw [hne, hx, beq_self_eq_true, hrest]
        simp only [Symbol.text, excess, if_true, Bool.false_eq_true, if_false]
        ring
      · have hnx : (symbol == Symbol.argument x) = false := beq_eq_false_iff_ne.mpr hx
        by_cases hy : symbol = .argument y
        · rw [hnx, hy, beq_self_eq_true, hrest]
          simp only [Symbol.text, excess, if_true, Bool.false_eq_true, if_false]
          ring
        · have hny : (symbol == Symbol.argument y) = false := beq_eq_false_iff_ne.mpr hy
          rw [hnx, hny, h symbol List.mem_cons_self hx hy, hrest]
          simp only [Bool.false_eq_true, if_false]
          ring

/-- A number that is not longer stands in the same places. -/
theorem eq_of_excess_eq_zero {s : List Symbol} (hxy : x ≠ y) (h : AgreeBut x y values values' s)
    (hx : Symbol.argument x ∈ s) (hexcess : excess values values' x = 0)
    (htext : s.flatMap (Symbol.text values 0) = s.flatMap (Symbol.text values' 0)) :
    values x = values' x := by
  have hlength := length_stretch hxy h
  rw [htext, hexcess, mul_zero, add_zero] at hlength
  have hy : (s.count (.argument y) : Int) * excess values values' y = 0 := by omega
  have hsame : ∀ symbol ∈ s,
      (symbol.text values 0).length = (symbol.text values' 0).length := by
    intro symbol hsymbol
    by_cases hsx : symbol = .argument x
    · rw [hsx]
      exact length_eq_of_excess hexcess
    by_cases hsy : symbol = .argument y
    · -- The other number is in the stretch, so it is not longer either.
      have hcount : (s.count (.argument y) : Int) ≠ 0 := by
        have hpos := List.count_pos_iff.mpr (hsy ▸ hsymbol)
        omega
      have hzero := (mul_eq_zero.mp hy).resolve_left hcount
      rw [hsy]
      exact length_eq_of_excess hzero
    · exact congrArg List.length (h symbol hsymbol hsx hsy)
  exact String.toList_inj.mp (flatMap_inj hsame htext _ hx)

/-- Numbers of the same length can be read off the text. -/
theorem eq_of_length_eq (hxy : x ≠ y) (h : Separates separates values values' symbols)
    (hother : ∀ s ∈ stretches separates symbols, AgreeBut x y values values' s)
    (hx : Symbol.argument x ∈ symbols) (hseparates : separates (.argument x) = false)
    (hlength : (values x).toList.length = (values' x).toList.length)
    (hwrite : write values addresses symbols = write values' addresses' symbols) :
    values x = values' x := by
  rcases exists_stretch hx hseparates with ⟨s, hs, hmem⟩
  have hexcess : excess values values' x = 0 := by
    unfold excess
    omega
  exact eq_of_excess_eq_zero hxy (hother s hs) hmem hexcess (stretches_eq h hwrite s hs)

/-- So can a number that the stretches tell apart from the other one. -/
theorem eq_of_tellsApart (hxy : x ≠ y) (h : Separates separates values values' symbols)
    (hother : ∀ s ∈ stretches separates symbols, AgreeBut x y values values' s)
    (htells : TellsApart x y (stretches separates symbols))
    (hwrite : write values addresses symbols = write values' addresses' symbols) :
    values x = values' x := by
  have htext := stretches_eq h hwrite
  -- Texts of one length: the numbers' digits are balanced in every stretch.
  have hbalance : ∀ s ∈ stretches separates symbols,
      (s.count (.argument x) : Int) * excess values values' x +
        s.count (.argument y) * excess values values' y = 0 := by
    intro s hs
    have hlength := length_stretch hxy (hother s hs)
    rw [htext s hs] at hlength
    omega
  rcases htells with ⟨s, hs, hx, hy⟩ | ⟨s, hs, t, ht, hne⟩
  -- A stretch with `x` and without `y` settles it alone.
  · have hmem := List.count_pos_iff.mp (Nat.pos_of_ne_zero hx)
    have hexcess : excess values values' x = 0 := by
      have hzero := hbalance s hs
      rw [hy, Nat.cast_zero, zero_mul, add_zero] at hzero
      exact (mul_eq_zero.mp hzero).resolve_left (by exact_mod_cast hx)
    exact eq_of_excess_eq_zero hxy (hother s hs) hmem hexcess (htext s hs)
  · -- Two equations with a determinant that is not zero.
    have hexcess : excess values values' x = 0 := by
      have hs' := hbalance s hs
      have ht' := hbalance t ht
      have hdet : ((s.count (.argument x) : Int) * t.count (.argument y) -
          t.count (.argument x) * s.count (.argument y)) * excess values values' x = 0 := by
        linear_combination (t.count (.argument y) : Int) * hs' - (s.count (.argument y) : Int) * ht'
      refine (mul_eq_zero.mp hdet).resolve_left (fun hzero => hne ?_)
      exact_mod_cast sub_eq_zero.mp hzero
    have hsome : ∃ p ∈ stretches separates symbols, Symbol.argument x ∈ p := by
      by_cases hzero : s.count (.argument x) = 0
      · refine ⟨t, ht, List.count_pos_iff.mp (Nat.pos_of_ne_zero (fun htzero => hne ?_))⟩
        rw [hzero, htzero, zero_mul, zero_mul]
      · exact ⟨s, hs, List.count_pos_iff.mp (Nat.pos_of_ne_zero hzero)⟩
    rcases hsome with ⟨p, hp, hmem⟩
    exact eq_of_excess_eq_zero hxy (hother p hp) hmem hexcess (htext p hp)

/-! ## Numbers that cannot be told apart -/

/-- The number that is written with so many ones. -/
def repunit : Nat → Nat
  | 0 => 0
  | k + 1 => 10 * repunit k + 1

theorem toDigits_repunit (k : Nat) :
    Nat.toDigits 10 (repunit (k + 1)) = List.replicate (k + 1) '1' := by
  induction k with
  | zero => rfl
  | succ k ih =>
      have hlarge : 10 ≤ repunit (k + 2) := by
        simp only [repunit]
        omega
      have hdiv : repunit (k + 2) / 10 = repunit (k + 1) := by
        rw [repunit]
        omega
      have hmod : repunit (k + 2) % 10 = 1 := by
        rw [repunit]
        omega
      rw [Nat.toDigits_of_base_le (by decide) hlarge, hdiv, hmod, ih]
      exact List.replicate_succ'.symm

theorem toDigits_repunit_one_add (k : Nat) :
    Nat.toDigits 10 (repunit (1 + k)) = List.replicate (1 + k) '1' := by
  rw [Nat.add_comm, toDigits_repunit]

/-- Longer ones are larger. -/
theorem repunit_ne {k : Nat} (hk : k ≠ 0) : repunit (1 + k) ≠ repunit 1 := by
  intro heq
  have hdigits := congrArg (Nat.toDigits 10) heq
  rw [toDigits_repunit_one_add, toDigits_repunit] at hdigits
  have hlength := congrArg List.length hdigits
  rw [List.length_replicate, List.length_replicate] at hlength
  omega

/-- A stretch of two numbers of ones is ones. -/
theorem flatMap_ones {s : List Symbol} {a b : Nat} (hxy : x ≠ y)
    (hs : ∀ symbol ∈ s, symbol = .argument x ∨ symbol = .argument y)
    (hx : (values x).toList = List.replicate a '1') (hy : (values y).toList = List.replicate b '1') :
    s.flatMap (Symbol.text values 0) =
      List.replicate (s.count (.argument x) * a + s.count (.argument y) * b) '1' := by
  induction s with
  | nil => simp
  | cons symbol s ih =>
      rw [List.flatMap_cons, ih (fun other hother => hs other (List.mem_cons_of_mem symbol hother)),
        List.count_cons, List.count_cons]
      rcases hs symbol List.mem_cons_self with rfl | rfl
      · have hne : (Symbol.argument x == Symbol.argument y) = false :=
          beq_eq_false_iff_ne.mpr (fun heq => hxy (Symbol.argument.inj heq))
        rw [hne, beq_self_eq_true, if_pos rfl, if_neg Bool.false_ne_true, Symbol.text, hx,
          List.replicate_append_replicate]
        exact congrArg (List.replicate · '1') (by ring)
      · have hne : (Symbol.argument y == Symbol.argument x) = false :=
          beq_eq_false_iff_ne.mpr (fun heq => hxy (Symbol.argument.inj heq).symm)
        rw [hne, beq_self_eq_true, if_pos rfl, if_neg Bool.false_ne_true, Symbol.text, hy,
          List.replicate_append_replicate]
        exact congrArg (List.replicate · '1') (by ring)

/-- The numbers stand in stretches without digits of their own. -/
def Bare (x y : String) (parts : List (List Symbol)) : Prop :=
  ∀ s ∈ parts, (.argument x ∈ s ∨ .argument y ∈ s) →
    ∀ symbol ∈ s, symbol = .argument x ∨ symbol = .argument y

/-- Where the stretches do not tell, the first number may be longer by as many ones
    as the second is shorter, in their proportion. -/
theorem write_eq_of_not_tellsApart {s₀ : List Symbol} (hxy : x ≠ y)
    (h : Separates separates values values' symbols)
    (hother : ∀ s ∈ stretches separates symbols, AgreeBut x y values values' s)
    (hbare : Bare x y (stretches separates symbols))
    (hnot : ¬ TellsApart x y (stretches separates symbols))
    (hs₀ : s₀ ∈ stretches separates symbols)
    (hx : (values x).toList = List.replicate (1 + s₀.count (.argument y)) '1')
    (hy : (values y).toList = List.replicate 1 '1')
    (hx' : (values' x).toList = List.replicate 1 '1')
    (hy' : (values' y).toList = List.replicate (1 + s₀.count (.argument x)) '1') :
    write values addresses symbols = write values' addresses symbols := by
  refine write_eq_of_stretches h (fun s hs => ?_)
  by_cases hnumber : Symbol.argument x ∈ s ∨ Symbol.argument y ∈ s
  · rw [flatMap_ones hxy (hbare s hs hnumber) hx hy, flatMap_ones hxy (hbare s hs hnumber) hx' hy']
    have hproportion : s.count (.argument x) * s₀.count (.argument y) =
        s₀.count (.argument x) * s.count (.argument y) := by
      by_contra hne
      exact hnot (Or.inr ⟨s, hs, s₀, hs₀, hne⟩)
    refine congrArg (List.replicate · '1') ?_
    linear_combination hproportion
  · rw [not_or] at hnumber
    refine List.flatMap_congr (fun symbol hsymbol => hother s hs symbol hsymbol ?_ ?_)
    · exact fun heq => hnumber.1 (heq ▸ hsymbol)
    · exact fun heq => hnumber.2 (heq ▸ hsymbol)

end Numbers

end SyncMaster
