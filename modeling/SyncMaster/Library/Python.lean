import Mathlib.Data.List.Infix
import Mathlib.Algebra.Group.Nat.Defs

/-!
# Patterns and Templates

The parts of the Python standard library that programs on texts call: the
character classes of `re`, `str.split` and `str.translate`, and `str.format`
with keyword arguments.

A template is read into its pieces first. Reading never fails by itself; a
brace that does not belong is a piece that cannot be rendered. Rendering goes
through the pieces from left to right and ends at the first one that fails, so
which error a template ends with is a matter of which piece comes first, and
`renderPieces_eq_error` says just that.

The pieces are those of a template without format specifications, conversions
and subscripts. A pattern keeps the characters for them out of the templates
that are read here.

What depends on the Unicode tables, on the attributes of the objects of the
interpreter and on the grammar of regular expressions is a parameter. The
characters of ASCII are not left to it.

## Main definitions

* `Python`: The parameter.
* `Python.isWord`, `isSpace`: The classes `\w` and `\s`.
* `punctuation`, `replaceWithSpaces`, `split`: Texts cut into words.
* `Piece`, `pieces`: A template, read.
* `Python.fieldText`: The text of a replacement field.
* `Python.format`: A template, rendered.
* `Python.Positional`: A field for a positional argument.

## Theorems

* `mem_split`, `exists_mem_split`: The characters of the words.
* `toString_int_injective`: An integer can be read off its text.
* `renderPieces_eq_error`: The first piece that fails decides.
* `format_eq_error`: The same of a template.
* `fieldText_eq_indexError`: The fields for positional arguments.
-/

namespace SyncMaster

/-- The exceptions that are not errors of validation. -/
inductive PyException where
  | typeError
  | keyError (key : String)
  | indexError
  | attributeError (name : String)
  | other
  deriving DecidableEq, Repr

/-- What `re.compile` does with a pattern. Its errors and `ValueError`s are one
    case. -/
inductive Compiled where
  | pattern
  | error
  | raised (exception : PyException)
  deriving DecidableEq, Repr

/-- The interpreter, apart from what is defined below. -/
structure Python where
  /-- `\w`, beyond ASCII. -/
  otherWord : Char → Bool
  /-- The value of a decimal digit, beyond ASCII. -/
  otherDecimal : Char → Option Nat
  /-- The text of what is at the path of attributes of a string, if it exists. -/
  getattr : String → List String → Option String
  /-- `re.compile`. -/
  compile : String → Compiled

/-- An interpreter that knows the characters of ASCII, no attributes of strings
    and no pattern that is malformed. -/
def asciiPython : Python where
  otherWord := fun _ => false
  otherDecimal := fun _ => none
  getattr := fun _ _ => none
  compile := fun _ => .pattern

/-! ## Character classes -/

/-- `\w`. -/
def Python.isWord (py : Python) (c : Char) : Bool :=
  if c.toNat < 128 then c.isAlphanum || c == '_' else py.otherWord c

/-- The value of a decimal digit. -/
def Python.decimal (py : Python) (c : Char) : Option Nat :=
  if c.toNat < 128 then if c.isDigit then some (c.toNat - 48) else none else py.otherDecimal c

/-- `\s`. -/
def isSpace (c : Char) : Bool :=
  let n := c.toNat
  decide (9 ≤ n ∧ n ≤ 13) || decide (28 ≤ n ∧ n ≤ 32) || n == 0x85 || n == 0xA0 || n == 0x1680 ||
    decide (0x2000 ≤ n ∧ n ≤ 0x200A) || n == 0x2028 || n == 0x2029 || n == 0x202F || n == 0x205F ||
    n == 0x3000

/-- The letter of a pattern under `IGNORECASE`. -/
def sameLetter (letter c : Char) : Bool :=
  c == letter || c == letter.toUpper || (letter == 's' && c == 'ſ') ||
    (letter == 'i' && (c == 'İ' || c == 'ı'))

/-- What `$` leaves of the text: it also matches before a last newline. -/
def beforeEnd (text : List Char) : List Char :=
  if text.getLast? = some '\n' then text.dropLast else text

/-- The rest of the text behind a word in any case, which has to end there. -/
def Python.afterWord (py : Python) : List Char → List Char → Option (List Char)
  | [], [] => some []
  | [], c :: text => if py.isWord c then none else some (c :: text)
  | _ :: _, [] => none
  | letter :: word, c :: text => if sameLetter letter c then py.afterWord word text else none

/-- The parts of the text between the dots. -/
def splitDots : List Char → List Char × List (List Char)
  | [] => ([], [])
  | c :: text =>
      let (first, rest) := splitDots text
      if c = '.' then ([], first :: rest) else (c :: first, rest)

/-! ## Words -/

/-- `string.punctuation`. -/
def punctuation : List Char :=
  "!\"#$%&'()*+,-./:;<=>?@[\\]^_`\x7b|\x7d~".toList

/-- `str.translate`, with a table that has a space for each of the characters. -/
def replaceWithSpaces (chars text : List Char) : List Char :=
  text.map (fun c => if c ∈ chars then ' ' else c)

/-- `str.split` without a separator. -/
def split (text : List Char) : List (List Char) :=
  (text.splitOnP isSpace).filter (fun word => !word.isEmpty)

section Splitting

variable {α : Type} {separates : α → Bool} {xs piece : List α} {x : α}

/-- What is in a piece was in the list and separates nothing. -/
theorem mem_of_mem_splitOnP (hpiece : piece ∈ xs.splitOnP separates) (hx : x ∈ piece) :
    x ∈ xs ∧ separates x = false := by
  induction xs generalizing piece with
  | nil =>
      rw [List.splitOnP_nil, List.mem_singleton] at hpiece
      rw [hpiece] at hx
      exact absurd hx List.not_mem_nil
  | cons first xs ih =>
      rw [List.splitOnP_cons_eq_if_modifyHead] at hpiece
      by_cases hfirst : separates first = true
      · rw [if_pos hfirst] at hpiece
        rcases List.mem_cons.mp hpiece with rfl | hpiece
        · exact absurd hx List.not_mem_nil
        · exact ⟨List.mem_cons_of_mem first (ih hpiece hx).1, (ih hpiece hx).2⟩
      · -- The first element belongs to the first piece of the rest.
        rw [if_neg hfirst] at hpiece
        rcases List.exists_cons_of_ne_nil (List.splitOnP_ne_nil separates xs) with
          ⟨head, rest, heq⟩
        rw [heq] at ih
        rw [heq, List.modifyHead_cons] at hpiece
        rcases List.mem_cons.mp hpiece with rfl | hpiece
        · rcases List.mem_cons.mp hx with rfl | hx
          · exact ⟨List.mem_cons_self, Bool.eq_false_iff.mpr hfirst⟩
          · have hhead := ih List.mem_cons_self hx
            exact ⟨List.mem_cons_of_mem first hhead.1, hhead.2⟩
        · have hrest := ih (List.mem_cons_of_mem head hpiece) hx
          exact ⟨List.mem_cons_of_mem first hrest.1, hrest.2⟩

/-- What separates nothing is in a piece. -/
theorem exists_mem_splitOnP (hx : x ∈ xs) (hseparates : separates x = false) :
    ∃ piece ∈ xs.splitOnP separates, x ∈ piece := by
  induction xs with
  | nil => exact absurd hx List.not_mem_nil
  | cons first xs ih =>
      rw [List.splitOnP_cons_eq_if_modifyHead]
      by_cases hfirst : separates first = true
      · rw [if_pos hfirst]
        rcases List.mem_cons.mp hx with rfl | hx
        · rw [hfirst] at hseparates
          cases hseparates
        · rcases ih hx with ⟨piece, hpiece, hmem⟩
          exact ⟨piece, List.mem_cons_of_mem [] hpiece, hmem⟩
      · rw [if_neg hfirst]
        rcases List.exists_cons_of_ne_nil (List.splitOnP_ne_nil separates xs) with
          ⟨head, rest, heq⟩
        rw [heq] at ih
        rw [heq, List.modifyHead_cons]
        rcases List.mem_cons.mp hx with rfl | hx
        · exact ⟨x :: head, List.mem_cons_self, List.mem_cons_self⟩
        · rcases ih hx with ⟨piece, hpiece, hmem⟩
          rcases List.mem_cons.mp hpiece with rfl | hpiece
          · exact ⟨first :: piece, List.mem_cons_self, List.mem_cons_of_mem first hmem⟩
          · exact ⟨piece, List.mem_cons_of_mem _ hpiece, hmem⟩

end Splitting

section Words

variable {chars text word : List Char} {c : Char}

/-- A word is not empty, and its characters are those of the text that are no
    spaces. -/
theorem mem_split (hword : word ∈ split text) :
    word ≠ [] ∧ ∀ c ∈ word, c ∈ text ∧ isSpace c = false := by
  rcases List.mem_filter.mp hword with ⟨hpiece, hne⟩
  refine ⟨fun hnil => ?_, fun c hc => mem_of_mem_splitOnP hpiece hc⟩
  rw [hnil] at hne
  cases hne

theorem exists_mem_split (hc : c ∈ text) (hspace : isSpace c = false) :
    ∃ word ∈ split text, c ∈ word := by
  rcases exists_mem_splitOnP hc hspace with ⟨word, hpiece, hmem⟩
  refine ⟨word, List.mem_filter.mpr ⟨hpiece, ?_⟩, hmem⟩
  cases word with
  | nil => exact absurd hmem List.not_mem_nil
  | cons => rfl

theorem split_eq_nil_iff : split text = [] ↔ ∀ c ∈ text, isSpace c = true := by
  constructor
  · intro h c hc
    by_contra hspace
    rcases exists_mem_split hc (Bool.eq_false_iff.mpr hspace) with ⟨word, hword, _⟩
    rw [h] at hword
    exact absurd hword List.not_mem_nil
  · intro h
    refine List.eq_nil_iff_forall_not_mem.mpr (fun word hword => ?_)
    rcases mem_split hword with ⟨hne, hchars⟩
    rcases List.exists_mem_of_ne_nil word hne with ⟨c, hc⟩
    rcases hchars c hc with ⟨hmem, hspace⟩
    rw [h c hmem] at hspace
    cases hspace

/-- A character that is no space was there before and was not replaced. -/
theorem mem_replaceWithSpaces (hspace : isSpace c = false) :
    c ∈ replaceWithSpaces chars text ↔ c ∈ text ∧ c ∉ chars := by
  rw [replaceWithSpaces, List.mem_map]
  constructor
  · intro h
    rcases h with ⟨d, hd, hdc⟩
    by_cases hchars : d ∈ chars
    · rw [if_pos hchars] at hdc
      rw [← hdc] at hspace
      cases hspace
    · rw [if_neg hchars] at hdc
      rw [← hdc]
      exact ⟨hd, hchars⟩
  · intro h
    exact ⟨c, h.1, if_neg h.2⟩

end Words

/-! ## Numbers -/

section Numbers

variable {i j : Nat} {n m : Int} {c : Char}

theorem isDigit_of_mem_toString (h : c ∈ (toString i).toList) : c.isDigit = true := by
  rw [Nat.toString_eq_repr, Nat.toList_repr] at h
  exact Nat.isDigit_of_mem_toDigits (by decide) (by decide) h

theorem toString_injective (h : toString i = toString j) : i = j := by
  have hdigits := congrArg String.toList h
  rw [Nat.toString_eq_repr, Nat.toString_eq_repr, Nat.toList_repr, Nat.toList_repr] at hdigits
  rw [← Nat.ofDigitChars_ten_toDigits (n := i), hdigits, Nat.ofDigitChars_ten_toDigits]

theorem toString_of_nonneg (hn : 0 ≤ n) : toString n = toString n.toNat := by
  rw [Int.toString_eq_repr, Int.repr_eq_if, if_pos hn, Nat.toString_eq_repr]

theorem toString_of_neg (hn : ¬ 0 ≤ n) : toString n = "-" ++ toString (-n).toNat := by
  rw [Int.toString_eq_repr, Int.repr_eq_if, if_neg hn, Nat.toString_eq_repr]

/-- No digit is a sign. -/
theorem toString_ne_of_sign (hn : 0 ≤ n) (hm : ¬ 0 ≤ m) : toString n ≠ toString m := by
  intro h
  rw [toString_of_nonneg hn, toString_of_neg hm] at h
  have hsign : '-' ∈ (toString n.toNat).toList := by
    rw [h, String.toList_append]
    exact List.mem_append_left _ List.mem_cons_self
  exact absurd (isDigit_of_mem_toString hsign) (by decide)

/-- An integer can be read off its text. -/
theorem toString_int_injective (h : toString n = toString m) : n = m := by
  by_cases hn : 0 ≤ n
  · by_cases hm : 0 ≤ m
    · rw [toString_of_nonneg hn, toString_of_nonneg hm] at h
      have hnat := toString_injective h
      omega
    · exact absurd h (toString_ne_of_sign hn hm)
  · by_cases hm : 0 ≤ m
    · exact absurd h.symm (toString_ne_of_sign hm hn)
    · rw [toString_of_neg hn, toString_of_neg hm, String.append_right_inj] at h
      have hnat := toString_injective h
      omega

end Numbers

/-! ## Templates -/

inductive FormatError where
  | valueError
  | keyError (key : String)
  | indexError (index : Nat)
  | attributeError (name : String)
  deriving DecidableEq, Repr

/-- A piece of a template: a character, a replacement field with what is between
    its braces, or a brace that does not belong. -/
inductive Piece where
  | literal (c : Char)
  | field (name : List Char)
  | malformed
  deriving DecidableEq, Repr

/-- Read a template, given the field name read so far inside a field. -/
def scan : Option (List Char) → List Char → List Piece
  | none, [] => []
  | none, '{' :: '{' :: text => .literal '{' :: scan none text
  | none, ['{'] => [.malformed]
  | none, '{' :: text => scan (some []) text
  | none, '}' :: '}' :: text => .literal '}' :: scan none text
  | none, '}' :: _ => [.malformed]
  | none, c :: text => .literal c :: scan none text
  | some _, [] => [.malformed]
  | some _, '{' :: _ => [.malformed]
  | some name, '}' :: text => .field name :: scan none text
  | some name, c :: text => scan (some (name ++ [c])) text

def pieces (template : String) : List Piece := scan none template.toList

/-- The largest index, `PY_SSIZE_T_MAX`. -/
def maxIndex : Nat := 2 ^ 63 - 1

namespace Python

variable (py : Python)

/-- The number that the digits stand for, if they are digits. -/
def integer (accumulator : Nat) : List Char → Except FormatError (Option Nat)
  | [] => .ok (some accumulator)
  | c :: text =>
      match py.decimal c with
      | none => .ok none
      | some digit =>
          if (maxIndex - digit) / 10 < accumulator then .error .valueError
          else integer (accumulator * 10 + digit) text

/-- The attribute at the end of a path. -/
def attributeText (value : String) (path : List String) (text : String) :
    List (List Char) → Except FormatError String
  | [] => .ok text
  | name :: names =>
      if name.isEmpty then .error .valueError
      else match py.getattr value (path ++ [String.ofList name]) with
        | none => .error (.attributeError (String.ofList name))
        | some text => attributeText value (path ++ [String.ofList name]) text names

/-- The text of a replacement field. There are no positional arguments. -/
def fieldText (kwargs : List (String × String)) (name : List Char) : Except FormatError String :=
  let (first, attributes) := splitDots name
  if first.isEmpty then .error (.indexError 0)
  else match py.integer 0 first with
    | .error e => .error e
    | .ok (some index) => .error (.indexError index)
    | .ok none =>
        match kwargs.lookup (String.ofList first) with
        | none => .error (.keyError (String.ofList first))
        | some value => py.attributeText value [] value attributes

def pieceText (kwargs : List (String × String)) : Piece → Except FormatError (List Char)
  | .literal c => .ok [c]
  | .field name => (py.fieldText kwargs name).map String.toList
  | .malformed => .error .valueError

def renderPieces (kwargs : List (String × String)) : List Piece → Except FormatError (List Char)
  | [] => .ok []
  | piece :: rest =>
      match py.pieceText kwargs piece with
      | .error e => .error e
      | .ok text => (renderPieces kwargs rest).map (text ++ ·)

/-- `template.format(**kwargs)`. -/
def format (kwargs : List (String × String)) (template : String) : Except FormatError String :=
  (py.renderPieces kwargs (pieces template)).map String.ofList

variable {py} {kwargs : List (String × String)}

/-- A template fails with the error of its first piece that fails. -/
theorem renderPieces_eq_error {ps : List Piece} {e : FormatError} :
    py.renderPieces kwargs ps = .error e ↔
      ∃ before piece behind, ps = before ++ piece :: behind ∧
        (∀ p ∈ before, ∃ text, py.pieceText kwargs p = .ok text) ∧
        py.pieceText kwargs piece = .error e := by
  induction ps with
  | nil =>
      constructor
      · intro h
        cases h
      · intro h
        rcases h with ⟨before, piece, behind, hps, _⟩
        exact absurd hps (by simp)
  | cons p ps ih =>
      unfold renderPieces
      cases hp : py.pieceText kwargs p with
      | error e' =>
          -- The first piece fails: nothing before it, and its error is the template's.
          constructor
          · intro h
            cases h
            exact ⟨[], p, ps, rfl, by simp, hp⟩
          · intro h
            rcases h with ⟨before, piece, behind, hps, hbefore, hpiece⟩
            cases before with
            | nil =>
                have hhead : p = piece := (List.cons.inj hps).1
                rw [hhead, hpiece] at hp
                exact hp.symm
            | cons q before =>
                -- It renders, so what is before the failing piece cannot start with it.
                have hhead : p = q := (List.cons.inj hps).1
                rcases hbefore q List.mem_cons_self with ⟨text, htext⟩
                rw [← hhead, hp] at htext
                cases htext
      | ok text =>
          -- The first piece renders, and the error comes from the rest.
          have hrest : ((py.renderPieces kwargs ps).map (text ++ ·) = .error e) ↔
              py.renderPieces kwargs ps = .error e := by
            cases py.renderPieces kwargs ps <;> simp [Except.map]
          refine hrest.trans (ih.trans ?_)
          constructor
          · intro h
            rcases h with ⟨before, piece, behind, hps, hbefore, hpiece⟩
            refine ⟨p :: before, piece, behind, by rw [hps]; rfl, ?_, hpiece⟩
            intro q hq
            rcases List.mem_cons.mp hq with heq | hmem
            · exact ⟨text, heq ▸ hp⟩
            · exact hbefore q hmem
          · intro h
            rcases h with ⟨before, piece, behind, hps, hbefore, hpiece⟩
            cases before with
            | nil =>
                have hhead : p = piece := (List.cons.inj hps).1
                rw [hhead, hpiece] at hp
                cases hp
            | cons q before =>
                exact ⟨before, piece, behind, (List.cons.inj hps).2,
                  fun r hr => hbefore r (List.mem_cons_of_mem q hr), hpiece⟩

/-- All pieces of a template that is rendered are. -/
theorem pieceText_of_renderPieces {ps : List Piece} {text : List Char}
    (h : py.renderPieces kwargs ps = .ok text) {p : Piece} (hp : p ∈ ps) :
    ∃ own, py.pieceText kwargs p = .ok own := by
  induction ps generalizing text with
  | nil => exact absurd hp List.not_mem_nil
  | cons q ps ih =>
      unfold renderPieces at h
      cases hq : py.pieceText kwargs q with
      | error e =>
          rw [hq] at h
          cases h
      | ok own =>
          rw [hq] at h
          rcases List.mem_cons.mp hp with rfl | hp
          · exact ⟨own, hq⟩
          · cases hrest : py.renderPieces kwargs ps with
            | error e =>
                rw [hrest] at h
                cases h
            | ok rest => exact ih hrest hp

theorem integer_ne_error {accumulator : Nat} {text : List Char} {e : FormatError}
    (h : py.integer accumulator text = .error e) : e = .valueError := by
  induction text generalizing accumulator with
  | nil => cases h
  | cons c text ih =>
      unfold integer at h
      cases hc : py.decimal c with
      | none =>
          simp only [hc] at h
          cases h
      | some digit =>
          simp only [hc] at h
          by_cases hmax : (maxIndex - digit) / 10 < accumulator
          · rw [if_pos hmax] at h
            exact (Except.error.inj h).symm
          · rw [if_neg hmax] at h
            exact ih h

theorem attributeText_ne_indexError {value text : String} {path : List String}
    {names : List (List Char)} {index : Nat} :
    py.attributeText value path text names ≠ .error (.indexError index) := by
  induction names generalizing path text with
  | nil => exact fun h => nomatch h
  | cons name names ih =>
      unfold attributeText
      split
      · exact fun h => nomatch h
      · split
        · exact fun h => nomatch h
        · exact ih

/-- The field names a positional argument: by its number, or by nothing. -/
def Positional (py : Python) (name : List Char) : Prop :=
  (splitDots name).1 = [] ∨ ∃ index, py.integer 0 (splitDots name).1 = .ok (some index)

/-- There are no positional arguments. -/
theorem fieldText_eq_indexError {name : List Char} :
    (∃ index, py.fieldText kwargs name = .error (.indexError index)) ↔ py.Positional name := by
  unfold fieldText Positional
  by_cases hfirst : (splitDots name).1 = []
  · exact iff_of_true ⟨0, by simp [hfirst]⟩ (Or.inl hfirst)
  · have hempty : ¬ (splitDots name).1.isEmpty = true := fun h => hfirst (List.isEmpty_iff.mp h)
    simp only [if_neg hempty, hfirst, false_or]
    cases hinteger : py.integer 0 (splitDots name).1 with
    | error e =>
        have he := integer_ne_error hinteger
        rw [he]
        simp
    | ok number =>
        cases number with
        | some index => simp
        | none =>
            refine iff_of_false ?_ (by simp)
            intro h
            rcases h with ⟨index, h⟩
            simp only at h
            cases hlookup : kwargs.lookup (String.ofList (splitDots name).1) with
            | none =>
                rw [hlookup] at h
                cases h
            | some value =>
                rw [hlookup] at h
                exact attributeText_ne_indexError h

/-- The field names an argument, and an attribute that it has. -/
theorem fieldText_eq_ok {name : List Char} {text : String} :
    py.fieldText kwargs name = .ok text ↔
      (splitDots name).1 ≠ [] ∧ py.integer 0 (splitDots name).1 = .ok none ∧
        ∃ value, kwargs.lookup (String.ofList (splitDots name).1) = some value ∧
          py.attributeText value [] value (splitDots name).2 = .ok text := by
  unfold fieldText
  by_cases hfirst : (splitDots name).1 = []
  · simp [hfirst]
  · have hempty : ¬ (splitDots name).1.isEmpty = true := fun h => hfirst (List.isEmpty_iff.mp h)
    simp only [if_neg hempty, ne_eq, hfirst, not_false_eq_true, true_and]
    cases hinteger : py.integer 0 (splitDots name).1 with
    | error e => simp
    | ok number =>
        cases number with
        | some index => simp
        | none =>
            cases hlookup : kwargs.lookup (String.ofList (splitDots name).1) with
            | none => simp
            | some value => simp

theorem pieceText_field_eq_error {name : List Char} {e : FormatError} :
    py.pieceText kwargs (.field name) = .error e ↔ py.fieldText kwargs name = .error e := by
  change (py.fieldText kwargs name).map String.toList = .error e ↔ _
  cases py.fieldText kwargs name <;> simp [Except.map]

theorem format_eq_error {template : String} {e : FormatError} :
    py.format kwargs template = .error e ↔ py.renderPieces kwargs (pieces template) = .error e := by
  unfold format
  cases py.renderPieces kwargs (pieces template) <;> simp [Except.map]

end Python

end SyncMaster
