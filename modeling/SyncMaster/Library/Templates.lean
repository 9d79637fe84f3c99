import SyncMaster.Library.Python
import Mathlib.Data.List.Count
import Mathlib.Algebra.Order.BigOperators.Group.List
import Mathlib.Algebra.Order.Ring.Nat

/-!
# Templates and the Types of their Arguments

`str.format` takes arguments of any type. A field prints its argument, or what
is at a path of attributes of it. Which attributes there are depends on the type
of the argument, not on its value, so a template that formats with one argument
may fail with another of a different type.

A template is read for the types first. What is left is a list of symbols that
cannot fail: characters, arguments, and objects that print with their address
in memory. The addresses are not known, and no two calls need to have the same.

Two texts of one template that differ in a single argument are then compared
from left to right. An address is closed by a bracket, so it can be taken off.
Between two addresses the template has a fixed number of opening brackets, and
what is left of the text there has a length that grows with the argument.

## Main definitions

* `Attribute`: What a path of attributes leads to.
* `Interpreter`: The interpreter, with the attributes of both types.
* `Interpreter.read`: A template, read for arguments of given types.
* `write`: The text.
* `Interpreter.formatArguments`: `str.format`.
* `Found`: All attributes along a path exist.

## Theorems

* `read_isOk_iff`, `mem_read`: A template is read piece by piece.
* `cut_eq`, `cut_last_eq`: Where a character stands for the same time, or for the
  last, two texts are cut alike.
* `write_injective`: The argument can be read off the text.
-/

namespace SyncMaster

/-- The types of the arguments of a template. -/
inductive ArgumentType where
  | int | str
  deriving DecidableEq, Repr

/-- What a path of attributes leads to: the object that it starts from, an object
    that prints the same for all objects of the type, or one that prints with
    its address. -/
inductive Attribute where
  | itself
  | constant (text : String)
  | addressed (text : String)
  deriving DecidableEq, Repr

/-- The interpreter, with the attributes of numbers as well. -/
structure Interpreter extends Python where
  attributeOf : ArgumentType → List String → Option Attribute
  getattr_isSome : ∀ value path,
    (toPython.getattr value path).isSome = (attributeOf .str path).isSome

/-- A character, the text of an argument, or the text of an object with its
    address. -/
inductive Symbol where
  | char (c : Char)
  | argument (name : String)
  | address (text : String)
  deriving DecidableEq, Repr

/-! ## Reading for the types -/

/-- The symbols of an attribute of an argument. -/
def Attribute.symbols (name : String) : Attribute → List Symbol
  | .itself => [.argument name]
  | .constant text => text.toList.map .char
  | .addressed text => [.address text]

namespace Interpreter

variable (py : Interpreter)

/-- The attribute at the end of a path. -/
def attributeAt (type : ArgumentType) (path : List String) (found : Attribute) :
    List (List Char) → Except FormatError Attribute
  | [] => .ok found
  | name :: names =>
      if name.isEmpty then .error .valueError
      else match py.attributeOf type (path ++ [String.ofList name]) with
        | none => .error (.attributeError (String.ofList name))
        | some found => attributeAt type (path ++ [String.ofList name]) found names

variable (types : List (String × ArgumentType))

/-- The symbols of a replacement field. There are no positional arguments. -/
def fieldSymbols (name : List Char) : Except FormatError (List Symbol) :=
  let (first, attributes) := splitDots name
  if first.isEmpty then .error (.indexError 0)
  else match py.toPython.integer 0 first with
    | .error e => .error e
    | .ok (some index) => .error (.indexError index)
    | .ok none =>
        match types.lookup (String.ofList first) with
        | none => .error (.keyError (String.ofList first))
        | some type =>
            (py.attributeAt type [] .itself attributes).map (·.symbols (String.ofList first))

def pieceSymbols : Piece → Except FormatError (List Symbol)
  | .literal c => .ok [.char c]
  | .field name => py.fieldSymbols types name
  | .malformed => .error .valueError

def readPieces : List Piece → Except FormatError (List Symbol)
  | [] => .ok []
  | piece :: rest =>
      match py.pieceSymbols types piece with
      | .error e => .error e
      | .ok symbols => (readPieces rest).map (symbols ++ ·)

/-- The symbols of a template. -/
def read (template : String) : Except FormatError (List Symbol) :=
  py.readPieces types (pieces template)

end Interpreter

/-! ## Writing -/

def Symbol.text (values : String → String) (address : Nat) : Symbol → List Char
  | .char c => [c]
  | .argument name => (values name).toList
  | .address text =>
      '<' :: (text.toList ++ " at 0x".toList ++ Nat.toDigits 16 address ++ ['>'])

/-- The text of the symbols. Every one of them may have an address of its own. -/
def write (values : String → String) : (Nat → Nat) → List Symbol → List Char
  | _, [] => []
  | addresses, symbol :: symbols =>
      symbol.text values (addresses 0) ++ write values (fun k => addresses (k + 1)) symbols

/-- An argument: its type, and what it prints as. -/
structure Argument where
  type : ArgumentType
  text : String

/-- `template.format(**arguments)` -/
def Interpreter.formatArguments (py : Interpreter) (arguments : List (String × Argument))
    (addresses : Nat → Nat) (template : String) : Except FormatError String :=
  (py.read (arguments.map (fun entry => (entry.1, entry.2.type))) template).map (fun symbols =>
    String.ofList
      (write (fun name => ((arguments.lookup name).map Argument.text).getD "") addresses symbols))

/-! ## Attributes along a path -/

/-- The attributes of a path exist, one after the other. -/
def Found {α : Type} (get : List String → Option α) (path : List String) :
    List (List Char) → Prop
  | [] => True
  | name :: names =>
      name ≠ [] ∧ (get (path ++ [String.ofList name])).isSome = true ∧
        Found get (path ++ [String.ofList name]) names

instance {α : Type} (get : List String → Option α) :
    (path : List String) → (names : List (List Char)) → Decidable (Found get path names)
  | _, [] => isTrue trivial
  | path, name :: names =>
      have : Decidable (Found get (path ++ [String.ofList name]) names) :=
        instDecidableFound get (path ++ [String.ofList name]) names
      inferInstanceAs (Decidable (_ ∧ _ ∧ _))

theorem found_congr {α β : Type} {get : List String → Option α} {get' : List String → Option β}
    (h : ∀ path, (get path).isSome = (get' path).isSome) {path : List String}
    {names : List (List Char)} : Found get path names ↔ Found get' path names := by
  induction names generalizing path with
  | nil => exact Iff.rfl
  | cons name names ih =>
      unfold Found
      rw [h, ih]

theorem attributeText_isOk_iff {py : Python} {value text : String} {path : List String}
    {names : List (List Char)} :
    (∃ result, py.attributeText value path text names = .ok result) ↔
      Found (py.getattr value) path names := by
  induction names generalizing path text with
  | nil => exact iff_of_true ⟨text, rfl⟩ trivial
  | cons name names ih =>
      unfold Python.attributeText Found
      by_cases hname : name = []
      · rw [if_pos (List.isEmpty_iff.mpr hname)]
        refine iff_of_false ?_ (fun h => h.1 hname)
        rintro ⟨_, h⟩
        cases h
      · rw [if_neg (fun h => hname (List.isEmpty_iff.mp h))]
        cases hget : py.getattr value (path ++ [String.ofList name]) with
        | none =>
            refine iff_of_false ?_ (fun h => absurd h.2.1 Bool.false_ne_true)
            rintro ⟨_, h⟩
            cases h
        | some found =>
            refine ih.trans ?_
            rw [and_iff_right hname, Option.isSome_some, and_iff_right rfl]

theorem mapped_eq_ok {ε α β : Type} {f : α → β} {x : Except ε α} {b : β} :
    x.map f = .ok b ↔ ∃ a, x = .ok a ∧ f a = b := by
  cases x <;> simp [Except.map]

namespace Interpreter

variable {py : Interpreter} {types : List (String × ArgumentType)} {type : ArgumentType}

theorem attributeAt_isOk_iff {path : List String} {found : Attribute} {names : List (List Char)} :
    (∃ result, py.attributeAt type path found names = .ok result) ↔
      Found (py.attributeOf type) path names := by
  induction names generalizing path found with
  | nil => exact iff_of_true ⟨found, rfl⟩ trivial
  | cons name names ih =>
      unfold attributeAt Found
      by_cases hname : name = []
      · rw [if_pos (List.isEmpty_iff.mpr hname)]
        exact iff_of_false (fun h => nomatch h) (fun h => h.1 hname)
      · rw [if_neg (fun h => hname (List.isEmpty_iff.mp h))]
        cases hget : py.attributeOf type (path ++ [String.ofList name]) with
        | none =>
            refine iff_of_false (fun h => nomatch h) (fun h => ?_)
            exact absurd h.2.1 Bool.false_ne_true
        | some found =>
            refine ih.trans ?_
            rw [and_iff_right hname, Option.isSome_some, and_iff_right rfl]

/-- A path leads to where its last attribute is. -/
theorem attributeAt_eq {path : List String} {found result : Attribute}
    {names : List (List Char)} (h : py.attributeAt type path found names = .ok result)
    (hne : names ≠ []) : py.attributeOf type (path ++ names.map String.ofList) = some result := by
  induction names generalizing path found with
  | nil => exact absurd rfl hne
  | cons name names ih =>
      unfold attributeAt at h
      by_cases hname : name.isEmpty = true
      · rw [if_pos hname] at h
        cases h
      · rw [if_neg hname] at h
        cases hget : py.attributeOf type (path ++ [String.ofList name]) with
        | none =>
            rw [hget] at h
            cases h
        | some next =>
            rw [hget] at h
            cases names with
            | nil =>
                rw [← Except.ok.inj h]
                exact hget
            | cons other names =>
                have hlast := ih h (List.cons_ne_nil _ _)
                rw [List.append_assoc] at hlast
                exact hlast

/-! ## Pieces -/

theorem fieldSymbols_eq_ok {name : List Char} {symbols : List Symbol} :
    py.fieldSymbols types name = .ok symbols ↔
      (splitDots name).1 ≠ [] ∧ py.toPython.integer 0 (splitDots name).1 = .ok none ∧
        ∃ type found, types.lookup (String.ofList (splitDots name).1) = some type ∧
          py.attributeAt type [] .itself (splitDots name).2 = .ok found ∧
            found.symbols (String.ofList (splitDots name).1) = symbols := by
  unfold fieldSymbols
  by_cases hfirst : (splitDots name).1 = []
  · simp [hfirst]
  · have hempty : ¬ (splitDots name).1.isEmpty = true := fun h => hfirst (List.isEmpty_iff.mp h)
    simp only [if_neg hempty, ne_eq, hfirst, not_false_eq_true, true_and]
    cases hinteger : py.toPython.integer 0 (splitDots name).1 with
    | error e => simp
    | ok number =>
        cases number with
        | some index => simp
        | none =>
            cases hlookup : types.lookup (String.ofList (splitDots name).1) with
            | none => simp
            | some type =>
                cases hfound : py.attributeAt type [] .itself (splitDots name).2 with
                | error e => simp [hfound, Except.map]
                | ok found => simp [hfound, Except.map]

theorem readPieces_isOk_iff {ps : List Piece} :
    (∃ symbols, py.readPieces types ps = .ok symbols) ↔
      ∀ p ∈ ps, ∃ symbols, py.pieceSymbols types p = .ok symbols := by
  induction ps with
  | nil => exact iff_of_true ⟨[], rfl⟩ (fun p hp => absurd hp List.not_mem_nil)
  | cons p ps ih =>
      unfold readPieces
      rw [List.forall_mem_cons]
      cases hp : py.pieceSymbols types p with
      | error e => exact iff_of_false (fun h => nomatch h) (fun h => nomatch h.1)
      | ok symbols =>
          rw [and_iff_right ⟨symbols, rfl⟩, ← ih]
          cases py.readPieces types ps with
          | error e => exact iff_of_false (fun h => nomatch h) (fun h => nomatch h)
          | ok rest => exact iff_of_true ⟨_, rfl⟩ ⟨rest, rfl⟩

theorem mem_readPieces {ps : List Piece} {symbols : List Symbol} {symbol : Symbol}
    (h : py.readPieces types ps = .ok symbols) :
    symbol ∈ symbols ↔ ∃ p ∈ ps, ∃ own, py.pieceSymbols types p = .ok own ∧ symbol ∈ own := by
  induction ps generalizing symbols with
  | nil =>
      cases h
      refine iff_of_false List.not_mem_nil (fun h => ?_)
      rcases h with ⟨p, hp, _⟩
      exact absurd hp List.not_mem_nil
  | cons p ps ih =>
      unfold readPieces at h
      rw [List.exists_mem_cons_iff]
      cases hp : py.pieceSymbols types p with
      | error e =>
          rw [hp] at h
          cases h
      | ok own =>
          rw [hp] at h
          rcases mapped_eq_ok.mp h with ⟨rest, hrest, rfl⟩
          rw [List.mem_append, ih hrest]
          refine or_congr ?_ Iff.rfl
          constructor
          · exact fun hmem => ⟨own, rfl, hmem⟩
          · intro hmem
            rcases hmem with ⟨other, hother, hmem⟩
            rw [Except.ok.inj hother]
            exact hmem

end Interpreter

/-! ## Cutting -/

section Cutting

variable {α β : Type}

/-- Two texts are cut alike at a character that both have stood for as often
    before. -/
theorem cut_eq [DecidableEq α] {u u' r r' : List α} {c : α} (h : u ++ c :: r = u' ++ c :: r')
    (hcount : u.count c = u'.count c) : u = u' ∧ r = r' := by
  induction u generalizing u' with
  | nil =>
      cases u' with
      | nil => exact ⟨rfl, (List.cons.inj h).2⟩
      | cons a u' =>
          have ha : c = a := (List.cons.inj h).1
          rw [← ha, List.count_nil, List.count_cons_self] at hcount
          omega
  | cons a u ih =>
      cases u' with
      | nil =>
          have ha : a = c := (List.cons.inj h).1
          rw [ha, List.count_nil, List.count_cons_self] at hcount
          omega
      | cons b u' =>
          rcases List.cons.inj h with ⟨hhead, htail⟩
          rw [hhead, List.count_cons, List.count_cons] at hcount
          rcases ih htail (Nat.add_right_cancel hcount) with ⟨hu, hr⟩
          exact ⟨by rw [hhead, hu], hr⟩

/-- Two texts are cut alike at the last place where a character stands. -/
theorem cut_last_eq [DecidableEq α] {u u' r r' : List α} {c : α} (hr : c ∉ r) (hr' : c ∉ r')
    (h : u ++ c :: r = u' ++ c :: r') : u = u' ∧ r = r' := by
  refine cut_eq h ?_
  have hcount := congrArg (List.count c) h
  rw [List.count_append, List.count_append, List.count_cons_self, List.count_cons_self,
    List.count_eq_zero.mpr hr, List.count_eq_zero.mpr hr'] at hcount
  exact Nat.add_right_cancel hcount

/-- Texts that are put together of parts of the same lengths have the same
    parts. -/
theorem flatMap_inj {f g : α → List β} {s : List α}
    (hlength : ∀ a ∈ s, (f a).length = (g a).length) (h : s.flatMap f = s.flatMap g) :
    ∀ a ∈ s, f a = g a := by
  induction s with
  | nil => exact fun a ha => absurd ha List.not_mem_nil
  | cons b s ih =>
      rw [List.flatMap_cons, List.flatMap_cons] at h
      rcases List.append_inj h (hlength b List.mem_cons_self) with ⟨hhead, htail⟩
      have hrest := ih (fun a ha => hlength a (List.mem_cons_of_mem b ha)) htail
      exact List.forall_mem_cons.mpr ⟨hhead, hrest⟩

theorem length_flatMap_lt {f g : α → List β} {s : List α} {a : α}
    (hle : ∀ b ∈ s, (f b).length ≤ (g b).length) (ha : a ∈ s)
    (hlt : (f a).length < (g a).length) : (s.flatMap f).length < (s.flatMap g).length := by
  rw [List.length_flatMap, List.length_flatMap]
  exact List.sum_lt_sum _ _ hle ⟨a, ha, hlt⟩

end Cutting

/-! ## Reading an argument off the text -/

section Write

variable {values values' : String → String} {addresses addresses' : Nat → Nat} {x : String}

theorem write_append (values : String → String) (addresses : Nat → Nat)
    (front symbols : List Symbol) :
    write values addresses (front ++ symbols) =
      write values addresses front ++ write values (fun k => addresses (k + front.length)) symbols := by
  induction front generalizing addresses with
  | nil => rfl
  | cons symbol front ih =>
      rw [List.cons_append, write, write, ih, List.append_assoc]
      rfl

theorem flatMap_text_snoc (values : String → String) (front : List Symbol) (symbol : Symbol) :
    (front ++ [symbol]).flatMap (Symbol.text values 0) =
      front.flatMap (Symbol.text values 0) ++ symbol.text values 0 := by
  rw [List.flatMap_append, List.flatMap_singleton]

/-- There are no addresses. -/
def Plain (symbols : List Symbol) : Prop := ∀ text, Symbol.address text ∉ symbols

theorem text_of_plain (values : String → String) {symbol : Symbol}
    (h : ∀ text, symbol ≠ .address text) (address : Nat) :
    symbol.text values address = symbol.text values 0 := by
  cases symbol with
  | char c => rfl
  | argument name => rfl
  | address text => exact absurd rfl (h text)

/-- The arguments are the same, up to one that is written without brackets. -/
structure DifferAt (x : String) (values values' : String → String) : Prop where
  same : ∀ name, name ≠ x → values name = values' name
  bracket : '<' ∉ (values x).toList
  bracket' : '<' ∉ (values' x).toList

theorem text_of_ne (hdiffer : DifferAt x values values') {symbol : Symbol}
    (hne : symbol ≠ .argument x) (address : Nat) :
    symbol.text values address = symbol.text values' address := by
  cases symbol with
  | char c => rfl
  | argument name =>
      have hname : name ≠ x := fun h => hne (h ▸ rfl)
      exact congrArg String.toList (hdiffer.same name hname)
  | address text => rfl

/-- Without addresses the length of the text decides. -/
theorem plain_injective {symbols : List Symbol} (hdiffer : DifferAt x values values')
    (hmem : Symbol.argument x ∈ symbols)
    (h : symbols.flatMap (Symbol.text values 0) = symbols.flatMap (Symbol.text values' 0)) :
    values x = values' x := by
  have hlength := congrArg List.length h
  have hother : ∀ symbol : Symbol, symbol ≠ .argument x →
      (symbol.text values 0).length = (symbol.text values' 0).length :=
    fun symbol hne => congrArg List.length (text_of_ne hdiffer hne 0)
  -- If one value were shorter, so would be its text, since no other symbol differs.
  rcases lt_trichotomy (values x).toList.length (values' x).toList.length with hlt | heq | hgt
  · have hshorter := length_flatMap_lt (f := (Symbol.text values 0))
      (g := (Symbol.text values' 0)) ?_ hmem hlt
    · omega
    · intro symbol _
      by_cases hx : symbol = .argument x
      · rw [hx]
        exact le_of_lt hlt
      · exact le_of_eq (hother symbol hx)
  · refine String.toList_inj.mp (flatMap_inj ?_ h _ hmem)
    intro symbol _
    by_cases hx : symbol = .argument x
    · rw [hx]
      exact heq
    · exact hother symbol hx
  · have hlonger := length_flatMap_lt (f := (Symbol.text values' 0))
      (g := (Symbol.text values 0)) ?_ hmem hgt
    · omega
    · intro symbol _
      by_cases hx : symbol = .argument x
      · rw [hx]
        exact le_of_lt hgt
      · exact le_of_eq (hother symbol hx).symm

theorem count_bracket (hdiffer : DifferAt x values values') (symbols : List Symbol) :
    (symbols.flatMap (Symbol.text values 0)).count '<' =
      (symbols.flatMap (Symbol.text values' 0)).count '<' := by
  rw [List.count_flatMap, List.count_flatMap]
  refine congrArg List.sum (List.map_congr_left (fun symbol _ => ?_))
  by_cases hx : symbol = .argument x
  · rw [hx]
    exact (List.count_eq_zero.mpr hdiffer.bracket).trans (List.count_eq_zero.mpr hdiffer.bracket').symm
  · exact congrArg (List.count '<') (text_of_ne hdiffer hx 0)

/-- A character that is no digit of the sixteen is in no number. -/
theorem notMem_toDigits {base : Nat} (hbase : 1 < base) (hle : base ≤ 16) {c : Char}
    (hc : ∀ n < 16, Nat.digitChar n ≠ c) (n : Nat) : c ∉ Nat.toDigits base n := by
  induction n using Nat.strong_induction_on with
  | _ n ih =>
      by_cases hn : n < base
      · rw [Nat.toDigits_of_lt_base hn, List.mem_singleton]
        exact (hc n (Nat.lt_of_lt_of_le hn hle)).symm
      · have hlt : n / base < n := Nat.div_lt_self (by omega) hbase
        have hdigit : n % base < 16 := Nat.lt_of_lt_of_le (Nat.mod_lt n (by omega)) hle
        rw [Nat.toDigits_of_base_le hbase (by omega), List.mem_append, List.mem_singleton]
        rintro (h | h)
        · exact ih (n / base) hlt h
        · exact hc (n % base) hdigit h.symm

/-- The bracket that closes an address is not in it. -/
theorem bracket_notMem_toDigits (n : Nat) : '>' ∉ Nat.toDigits 16 n :=
  notMem_toDigits (by decide) (by decide) (by decide) n

/-- The text behind an address. -/
theorem tail_of_address {text : String} {a a' : Nat} {r r' : List Char}
    (h : Symbol.text values a (.address text) ++ r = Symbol.text values' a' (.address text) ++ r') :
    r = r' := by
  have hsame : Nat.toDigits 16 a ++ '>' :: r = Nat.toDigits 16 a' ++ '>' :: r' := by
    simpa [Symbol.text] using h
  have hcount : (Nat.toDigits 16 a).count '>' = (Nat.toDigits 16 a').count '>' := by
    rw [List.count_eq_zero.mpr (bracket_notMem_toDigits a),
      List.count_eq_zero.mpr (bracket_notMem_toDigits a')]
  exact (cut_eq hsame hcount).2

/-- The induction goes from one address to the next, with the symbols since the
    last one in front. -/
theorem write_injective_from (hdiffer : DifferAt x values values') {front symbols : List Symbol}
    (hplain : Plain front) (hmem : Symbol.argument x ∈ front ++ symbols)
    (h : front.flatMap (Symbol.text values 0) ++ write values addresses symbols =
      front.flatMap (Symbol.text values' 0) ++ write values' addresses' symbols) :
    values x = values' x := by
  induction symbols generalizing front addresses addresses' with
  | nil =>
      rw [List.append_nil] at hmem
      rw [write, write, List.append_nil, List.append_nil] at h
      exact plain_injective hdiffer hmem h
  | cons symbol symbols ih =>
      unfold write at h
      by_cases haddress : ∃ text, symbol = .address text
      · rcases haddress with ⟨text, rfl⟩
        -- The bracket that opens the address is at the same place in both texts.
        have hcut := cut_eq h (count_bracket hdiffer front)
        by_cases hfront : Symbol.argument x ∈ front
        · exact plain_injective hdiffer hfront hcut.1
        · have hrest : Symbol.argument x ∈ symbols := by
            rcases List.mem_append.mp hmem with hmem | hmem
            · exact absurd hmem hfront
            · rcases List.mem_cons.mp hmem with hmem | hmem
              · cases hmem
              · exact hmem
          rw [hcut.1] at h
          have htail := tail_of_address (List.append_cancel_left h)
          have hnil : Plain [] := fun _ => List.not_mem_nil
          exact ih hnil hrest htail
      · have hne : ∀ text, symbol ≠ .address text := fun text heq => haddress ⟨text, heq⟩
        rw [text_of_plain values hne, text_of_plain values' hne, ← List.append_assoc,
          ← List.append_assoc] at h
        rw [← flatMap_text_snoc, ← flatMap_text_snoc] at h
        have hlonger : Plain (front ++ [symbol]) := by
          intro text hmem
          rcases List.mem_append.mp hmem with hmem | hmem
          · exact hplain text hmem
          · exact hne text (List.mem_singleton.mp hmem).symm
        refine ih hlonger ?_ h
        rw [List.append_assoc]
        exact hmem

/-- An argument can be read off the text, whatever the addresses are. -/
theorem write_injective (hdiffer : DifferAt x values values') {symbols : List Symbol}
    (hmem : Symbol.argument x ∈ symbols)
    (h : write values addresses symbols = write values' addresses' symbols) :
    values x = values' x := by
  have hnil : Plain [] := fun _ => List.not_mem_nil
  exact write_injective_from hdiffer hnil hmem h

/-- Only the arguments that are shown matter. -/
theorem write_congr {symbols : List Symbol}
    (h : ∀ name, .argument name ∈ symbols → values name = values' name) (addresses : Nat → Nat) :
    write values addresses symbols = write values' addresses symbols := by
  induction symbols generalizing addresses with
  | nil => rfl
  | cons symbol symbols ih =>
      have hrest := ih (fun name hname => h name (List.mem_cons_of_mem symbol hname))
        (fun k => addresses (k + 1))
      have htext : symbol.text values (addresses 0) = symbol.text values' (addresses 0) := by
        cases symbol with
        | char c => rfl
        | argument name => exact congrArg String.toList (h name List.mem_cons_self)
        | address text => rfl
      rw [write, write, htext, hrest]

/-- Without the argument the text says nothing about it. -/
theorem write_eq_of_notMem (hsame : ∀ name, name ≠ x → values name = values' name)
    {symbols : List Symbol} (hmem : Symbol.argument x ∉ symbols) (addresses : Nat → Nat) :
    write values addresses symbols = write values' addresses symbols :=
  write_congr (fun name hname => hsame name (fun heq => hmem (heq ▸ hname))) addresses

end Write

end SyncMaster
