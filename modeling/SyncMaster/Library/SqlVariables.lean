import Mathlib.Data.List.TakeWhile
import SyncMaster.Library.SqlGrammar

/-!
# Variables in Conditions

Some systems look for references to variables in a text, `${name}` or
`${scheme:name}`, and put in what they know under the name before the text is
read. A reference to nothing they know is left as it is.

A text is read in the same way under all variables only if there are no
references in it. That is clear when every variable may be empty: what is left is
lighter than what was written, and what is read never weighs more than the text.

No reference has a blank in it. So where blanks stand between the names and the
literals of a condition, each reference is in one of them.

## Main definitions

* `reference`, `refers`: The references of a text.
* `substitute`: Variables in place of references.
* `Stops`: What no reference goes on in.
* `spaced`: Parts with blanks between their holes.

## Theorems

* `substitute_of_not_refers`: Without references nothing happens.
* `weight_substitute_lt`: Where all variables are empty, references are lost.
* `refers_printAll`: The references of a condition.
* `parse_substitute_iff`: When a condition is read back under all variables.
-/

namespace SyncMaster

namespace Sql

/-! ## References -/

def isSpace (c : Char) : Bool :=
  isBlank c || c == '\x0b'

/-- At least one character and no space, up to the next closing brace. -/
def upToBrace : List Char → Option (List Char)
  | [] => none
  | c :: text =>
      if isSpace c then none
      else if text.head? = some '}' then some [c]
      else (upToBrace text).map (c :: ·)

/-- What is between the braces of a reference, from the text behind the first. If it
    begins with a word and a colon, at least one more character belongs to it. -/
def reference (text : List Char) : Option (List Char) :=
  let scheme := text.takeWhile isWordChar
  let behind := text.dropWhile isWordChar
  if scheme ≠ [] ∧ behind.head? = some ':' then
    ((upToBrace behind.tail).map (fun name => scheme ++ ':' :: name)).or (upToBrace text)
  else upToBrace text

/-- The name of a reference that begins with the character. -/
def referenceAt (c : Char) (text : List Char) : Option (List Char) :=
  if c = '$' ∧ text.head? = some '{' then reference text.tail else none

def refers : List Char → Bool
  | [] => false
  | c :: text => (referenceAt c text).isSome || refers text

theorem upToBrace_append {front text : List Char} (hfront : ∀ c ∈ front, isSpace c = false)
    (h : (upToBrace text).isSome = true) : (upToBrace (front ++ text)).isSome = true := by
  induction front with
  | nil => exact h
  | cons c front ih =>
      have hrest := ih (fun r hr => hfront r (List.mem_cons_of_mem c hr))
      rw [List.cons_append, upToBrace, hfront c List.mem_cons_self, if_neg Bool.false_ne_true]
      split
      · rfl
      · rw [Option.isSome_map]
        exact hrest

theorem isSpace_of_isWordChar {c : Char} (h : isWordChar c = true) : isSpace c = false := by
  rw [isSpace, Bool.or_eq_false_iff]
  refine ⟨Bool.eq_false_iff.mpr (not_isBlank_of_isWordChar h), ?_⟩
  refine beq_eq_false_iff_ne.mpr (fun heq => ?_)
  subst heq
  exact absurd h (by decide)

/-- The word in front of a colon only tells where the name begins. -/
theorem isSome_reference (text : List Char) :
    (reference text).isSome = (upToBrace text).isSome := by
  unfold reference
  by_cases hscheme : text.takeWhile isWordChar ≠ [] ∧
      (text.dropWhile isWordChar).head? = some ':'
  · simp only
    rw [if_pos hscheme, Option.isSome_or, Option.isSome_map]
    -- If a name is left, so is one that the word belongs to.
    rcases List.head?_eq_some_iff.mp hscheme.2 with ⟨name, hname⟩
    have htext : text = (text.takeWhile isWordChar ++ [':']) ++ name := by
      rw [List.append_assoc, List.singleton_append, ← hname, List.takeWhile_append_dropWhile]
    have himplies : (upToBrace name).isSome = true → (upToBrace text).isSome = true := by
      intro h
      rw [htext]
      refine upToBrace_append (List.forall_mem_append.mpr ⟨fun c hc => ?_, ?_⟩) h
      · exact isSpace_of_isWordChar (List.mem_takeWhile_imp hc)
      · exact List.forall_mem_singleton.mpr rfl
    rw [hname, List.tail_cons]
    cases hleft : (upToBrace name).isSome with
    | false => rfl
    | true => exact (himplies hleft).symm
  · simp only
    rw [if_neg hscheme]

theorem isSome_referenceAt {c : Char} {text : List Char} :
    (referenceAt c text).isSome = true ↔
      (c = '$' ∧ text.head? = some '{') ∧ (upToBrace text.tail).isSome = true := by
  unfold referenceAt
  by_cases hopens : c = '$' ∧ text.head? = some '{'
  · rw [if_pos hopens, isSome_reference]
    exact (and_iff_right hopens).symm
  · rw [if_neg hopens]
    exact iff_of_false Bool.false_ne_true (fun hboth => hopens hboth.1)

/-! ## Variables -/

/-- The text with variables in place of references, from where the characters to
    skip end. -/
def substitute (known : List Char → Option (List Char)) : Nat → List Char → List Char
  | _, [] => []
  | skip + 1, _ :: text => substitute known skip text
  | 0, c :: text =>
      match referenceAt c text with
      | some name =>
          (known name).getD (c :: '{' :: name ++ ['}']) ++
            substitute known (name.length + 2) text
      | none => c :: substitute known 0 text

theorem substitute_of_not_refers {known : List Char → Option (List Char)} {text : List Char}
    (h : refers text = false) : substitute known 0 text = text := by
  induction text with
  | nil => rfl
  | cons c text ih =>
      rcases Bool.or_eq_false_iff.mp h with ⟨hhere, hbehind⟩
      have hnone : referenceAt c text = none :=
        Option.isNone_iff_eq_none.mp (Option.isSome_eq_false_iff.mp hhere)
      rw [substitute, hnone, ih hbehind]

/-- Every variable is empty. -/
def emptied : List Char → Option (List Char) :=
  fun _ => some []

theorem weight_substitute_le (skip : Nat) (text : List Char) :
    weight (substitute emptied skip text) ≤ weight text := by
  induction text generalizing skip with
  | nil =>
      rw [substitute]
  | cons c text ih =>
      rw [weight_cons c text]
      cases skip with
      | succ skip => exact (ih skip).trans (Nat.le_add_left _ _)
      | zero =>
          rw [substitute]
          cases referenceAt c text with
          | some name => exact (ih _).trans (Nat.le_add_left _ _)
          | none =>
              rw [weight_cons]
              exact Nat.add_le_add_left (ih 0) _

/-- A reference to an empty variable is lost. -/
theorem weight_substitute_lt {text : List Char} (h : refers text = true) :
    weight (substitute emptied 0 text) < weight text := by
  induction text with
  | nil => cases h
  | cons c text ih =>
      rw [weight_cons, substitute]
      cases hhere : referenceAt c text with
      | some name =>
          -- The reference goes with its dollar sign.
          have hsome : (referenceAt c text).isSome = true := by
            rw [hhere]
            rfl
          have hone : weight [c] = 1 := by
            rw [(isSome_referenceAt.mp hsome).1.1]
            rfl
          have hle := weight_substitute_le (name.length + 2) text
          have hempty : (emptied name).getD (c :: '{' :: name ++ ['}']) = [] := rfl
          rw [hone]
          simp only [hempty, List.nil_append]
          omega
      | none =>
          have hbehind : refers text = true := by
            rw [refers, hhere] at h
            exact h
          simp only [weight_cons c (substitute emptied 0 text)]
          exact Nat.add_lt_add_left (ih hbehind) _

/-! ## Where references end -/

/-- No reference goes on in the text. -/
def Stops (text : List Char) : Prop :=
  text.head? ≠ some '{' ∧ text.head? ≠ some '}' ∧ upToBrace text = none

theorem stops_nil : Stops [] :=
  ⟨(fun h => nomatch h), (fun h => nomatch h), rfl⟩

theorem stops_blank (text : List Char) : Stops (' ' :: text) :=
  ⟨(fun h => nomatch h), (fun h => nomatch h), rfl⟩

theorem stops_cons {c : Char} {text : List Char} (hopen : c ≠ '{') (hclose : c ≠ '}')
    (h : Stops text) : Stops (c :: text) := by
  refine ⟨fun heq => hopen (Option.some.inj heq), fun heq => hclose (Option.some.inj heq), ?_⟩
  rw [upToBrace, if_neg h.2.1, h.2.2]
  split <;> rfl

theorem stops_append {front text : List Char} (hfront : ∀ c ∈ front, c ≠ '{' ∧ c ≠ '}')
    (h : Stops text) : Stops (front ++ text) := by
  induction front with
  | nil => exact h
  | cons c front ih =>
      have hc := hfront c List.mem_cons_self
      exact stops_cons hc.1 hc.2 (ih (fun r hr => hfront r (List.mem_cons_of_mem c hr)))

theorem isSome_upToBrace_append {behind : List Char} (h : Stops behind) (text : List Char) :
    (upToBrace (text ++ behind)).isSome = (upToBrace text).isSome := by
  induction text with
  | nil => rw [List.nil_append, h.2.2, upToBrace]
  | cons c text ih =>
      have hhead : (text ++ behind).head? = some '}' ↔ text.head? = some '}' := by
        cases text with
        | nil => exact iff_of_false h.2.1 (fun heq => by cases heq)
        | cons next text => exact Iff.rfl
      rw [List.cons_append, upToBrace, upToBrace]
      by_cases hspace : isSpace c = true
      · rw [if_pos hspace, if_pos hspace]
      rw [if_neg hspace, if_neg hspace]
      by_cases hbrace : text.head? = some '}'
      · rw [if_pos (hhead.mpr hbrace), if_pos hbrace]
      · rw [if_neg (fun heq => hbrace (hhead.mp heq)), if_neg hbrace, Option.isSome_map,
          Option.isSome_map, ih]

/-- The references of a text and of what stops it are apart. -/
theorem refers_append {behind : List Char} (h : Stops behind) (text : List Char) :
    refers (text ++ behind) = (refers text || refers behind) := by
  induction text with
  | nil => rfl
  | cons c text ih =>
      have hhere : (referenceAt c (text ++ behind)).isSome = (referenceAt c text).isSome := by
        refine Bool.eq_iff_iff.mpr ?_
        rw [isSome_referenceAt, isSome_referenceAt]
        cases text with
        | nil => exact iff_of_false (fun hboth => h.1 hboth.1.2) (fun hboth => nomatch hboth.1.2)
        | cons next text =>
            rw [List.cons_append, List.tail_cons, isSome_upToBrace_append h]
            exact Iff.rfl
      rw [List.cons_append, refers, refers, hhere, ih, Bool.or_assoc]

theorem refers_of_noDollar {front : List Char} (hfront : '$' ∉ front) (text : List Char) :
    refers (front ++ text) = refers text := by
  induction front with
  | nil => rfl
  | cons c front ih =>
      have hc : ¬ (c = '$' ∧ (front ++ text).head? = some '{') :=
        fun hboth => hfront (hboth.1 ▸ List.mem_cons_self)
      rw [List.cons_append, refers, referenceAt, if_neg hc,
        ih (fun hmem => hfront (List.mem_cons_of_mem c hmem))]
      rfl

/-! ## The references of parts -/

namespace Part

def isHole (part : Part) : Bool :=
  part.isName || part.isValue

def refers : Part → Bool
  | .name text | .value text => Sql.refers text
  | _ => false

end Part

/-- Whether there is a blank before the next hole, if there is one. -/
def clear : List Part → Bool
  | [] => true
  | part :: parts => part == .blank || (!part.isHole && clear parts)

/-- Whether there is a blank between any two holes. -/
def spaced : List Part → Bool
  | [] => true
  | part :: parts => (!part.isHole || clear parts) && spaced parts

theorem clear_fill (parts : List Part) (field value : List Char) :
    clear (parts.map (Part.fill field value)) = clear parts := by
  induction parts with
  | nil => rfl
  | cons part parts ih =>
      rw [List.map_cons, clear, clear, ih]
      cases part <;> rfl

theorem spaced_fill (parts : List Part) (field value : List Char) :
    spaced (parts.map (Part.fill field value)) = spaced parts := by
  induction parts with
  | nil => rfl
  | cons part parts ih =>
      rw [List.map_cons, spaced, spaced, ih, clear_fill]
      cases part <;> rfl

section Parts

variable {d : Dialect} {part : Part} {parts : List Part}

/-- What stands around the holes begins no reference and ends none. -/
theorem notMem_text (hfits : part.Fits d) (hhole : part.isHole = false) :
    ∀ c ∈ part.text d, c ≠ '$' ∧ c ≠ '{' ∧ c ≠ '}' := by
  have hwordChar : ∀ c, isWordChar c = true → c ≠ '$' ∧ c ≠ '{' ∧ c ≠ '}' := by
    intro c hc
    refine ⟨?_, ?_, ?_⟩ <;> (intro heq; subst heq; exact absurd hc (by decide))
  intro c hc
  cases part with
  | blank =>
      rw [List.mem_singleton.mp hc]
      decide
  | punctuation mark =>
      have hmark : isPunctuation c = true := List.mem_singleton.mp hc ▸ hfits
      rcases isPunctuation_iff.mp hmark with rfl | rfl | rfl <;> decide
  | word text => exact hwordChar c (hfits.1.2 c hc)
  | symbol text =>
      rcases isSymbol_iff.mp (hfits.2 c hc) with rfl | rfl | rfl | rfl | rfl <;> decide
  | name text => cases hhole
  | value text => cases hhole

theorem stops_textOf {behind : List Char} (hfits : ∀ part ∈ parts, part.Fits d)
    (hclear : clear parts = true) (h : Stops behind) : Stops (textOf d parts ++ behind) := by
  induction parts with
  | nil => exact h
  | cons part parts ih =>
      rw [textOf, List.flatMap_cons, List.append_assoc]
      rcases Bool.or_eq_true_iff.mp hclear with hblank | hrest
      · rw [eq_of_beq hblank]
        exact stops_blank _
      · rcases Bool.and_eq_true_iff.mp hrest with ⟨hhole, hrest⟩
        have hnone : part.isHole = false := by
          rw [Bool.not_eq_true'] at hhole
          exact hhole
        refine stops_append (fun c hc => ?_)
          (ih (fun p hp => hfits p (List.mem_cons_of_mem _ hp)) hrest)
        exact (notMem_text (hfits part List.mem_cons_self) hnone c hc).2

theorem refers_quoted {kind : Kind} {text behind : List Char} (h : Stops behind) :
    refers (d.quoted kind text ++ behind) = (refers text || refers behind) := by
  have hquote : d.quote kind = '\'' ∨ d.quote kind = '"' ∨ d.quote kind = '`' := by
    cases kind with
    | literal => exact Or.inl rfl
    | identifier => exact Or.inr d.quote_eq
  have hother : '$' ∉ [d.quote kind] ∧ d.quote kind ≠ '{' ∧ d.quote kind ≠ '}' := by
    rcases hquote with heq | heq | heq <;> (rw [heq]; decide)
  have htext : d.quoted kind text ++ behind =
      [d.quote kind] ++ (text ++ d.quote kind :: behind) := by
    rw [Dialect.quoted, List.append_assoc]
    rfl
  rw [htext, refers_of_noDollar hother.1, refers_append (stops_cons hother.2.1 hother.2.2 h)]
  exact congrArg _ (refers_of_noDollar hother.1 behind)

/-- The references of parts are those of their names and literals. -/
theorem refers_textOf {behind : List Char} (hfits : ∀ part ∈ parts, part.Fits d)
    (hspaced : spaced parts = true) (h : Stops behind) :
    refers (textOf d parts ++ behind) = (parts.any Part.refers || refers behind) := by
  induction parts with
  | nil => rfl
  | cons part parts ih =>
      rcases Bool.and_eq_true_iff.mp hspaced with ⟨hclear, hrest⟩
      have hpart := hfits part List.mem_cons_self
      have hparts : ∀ p ∈ parts, p.Fits d := fun p hp => hfits p (List.mem_cons_of_mem _ hp)
      have hbehind := ih hparts hrest
      have hstops : part.isHole = true → Stops (textOf d parts ++ behind) := by
        intro hhole
        rw [hhole] at hclear
        exact stops_textOf hparts hclear h
      -- A hole is closed by what comes behind it, and the other parts have no references.
      have hfirst : refers (part.text d ++ (textOf d parts ++ behind)) =
          (part.refers || refers (textOf d parts ++ behind)) := by
        cases part with
        | name text =>
            by_cases hplain : d.plainIdentifiers = true
            · rw [Part.text, if_pos hplain, refers_append (hstops rfl)]
              rfl
            · rw [Part.text, if_neg hplain, refers_quoted (hstops rfl)]
              rfl
        | value text => exact refers_quoted (hstops rfl)
        | blank | punctuation | word | symbol =>
            exact refers_of_noDollar (fun hmem => (notMem_text hpart rfl _ hmem).1 rfl) _
      rw [textOf, List.flatMap_cons, List.append_assoc, List.any_cons, Bool.or_assoc, ← hbehind]
      exact hfirst

end Parts

/-- Whether the name or the literal has a reference. -/
def Predicate.refers (predicate : Predicate) : Bool :=
  Sql.refers predicate.field.toList || Sql.refers predicate.literal

namespace Grammar

variable {g : Grammar} {predicate : Predicate} {predicates : List Predicate}

theorem refers_print {behind : List Char} (hspaced : ∀ form ∈ g.forms, spaced form.pattern = true)
    (h : g.Sayable predicate) (hstops : Stops behind) :
    refers (g.print predicate ++ behind) = (predicate.refers || refers behind) := by
  rcases form_of_sayable h with ⟨form, hform, _, hvalue, hprint, _, _⟩
  have hparts : (form.parts predicate.field.toList predicate.literal).any Part.refers =
      predicate.refers := by
    refine Bool.eq_iff_iff.mpr ?_
    rw [Predicate.refers, Bool.or_eq_true_iff, List.any_eq_true]
    constructor
    · intro h
      rcases h with ⟨filled, hfilled, hrefers⟩
      rcases List.mem_map.mp hfilled with ⟨part, _, rfl⟩
      cases part with
      | name text => exact Or.inl hrefers
      | value text => exact Or.inr hrefers
      | blank | punctuation | word | symbol => cases hrefers
    · intro h
      rcases h with hfield | hliteral
      · rcases List.any_eq_true.mp (g.fits form hform).1 with ⟨part, hpart, hname⟩
        refine ⟨part.fill predicate.field.toList predicate.literal, List.mem_map_of_mem hpart, ?_⟩
        cases part with
        | name text => exact hfield
        | blank | punctuation | word | symbol | value => cases hname
      · -- An empty literal has no references, so the form has a hole for this one.
        have hhas : form.hasValue = true := by
          rw [hvalue]
          cases hsome : predicate.value with
          | some value => rfl
          | none =>
              rw [Predicate.literal, hsome] at hliteral
              cases hliteral
        rcases List.any_eq_true.mp hhas with ⟨part, hpart, hpartValue⟩
        refine ⟨part.fill predicate.field.toList predicate.literal, List.mem_map_of_mem hpart, ?_⟩
        cases part with
        | value text => exact hliteral
        | blank | punctuation | word | symbol | name => cases hpartValue
  have hfilled : spaced (form.parts predicate.field.toList predicate.literal) = true :=
    (spaced_fill _ _ _).trans (hspaced form hform)
  rw [hprint, refers_textOf (fits_parts hform _ _) hfilled hstops, hparts]

/-- A condition has the references of its names and literals. -/
theorem refers_printAll (hspaced : ∀ form ∈ g.forms, spaced form.pattern = true)
    (hne : predicates ≠ []) (h : ∀ predicate ∈ predicates, g.Sayable predicate) :
    refers (g.printAll predicates) = predicates.any Predicate.refers := by
  induction predicates with
  | nil => exact absurd rfl hne
  | cons predicate predicates ih =>
      have hfirst := h predicate List.mem_cons_self
      rw [List.any_cons]
      by_cases hnil : predicates = []
      · have hprint := refers_print hspaced hfirst stops_nil
        rw [List.append_nil] at hprint
        rw [hnil, printAll_singleton, hprint]
        rfl
      · have hjoint : refers (textOf g.dialect joint ++ g.printAll predicates) =
            refers (g.printAll predicates) :=
          refers_of_noDollar (fun hmem => absurd hmem (by decide : '$' ∉ [' ', 'A', 'N', 'D', ' '])) _
        have hstops : Stops (textOf g.dialect joint ++ g.printAll predicates) := stops_blank _
        rw [printAll_cons hnil, refers_print hspaced hfirst hstops, hjoint,
          ih hnil (fun p hp => h p (List.mem_cons_of_mem _ hp))]

/-- A condition is read back under all variables exactly when it is clean and has no
    references. -/
theorem parse_substitute_iff (hspaced : ∀ form ∈ g.forms, spaced form.pattern = true)
    (hne : predicates ≠ []) (h : ∀ predicate ∈ predicates, g.Sayable predicate) :
    (∀ known, g.parse (substitute known 0 (g.printAll predicates)) = some predicates) ↔
      ((∀ predicate ∈ predicates, g.Clean predicate) ∧ g.endsMisread predicates = false) ∧
        ∀ predicate ∈ predicates, predicate.refers = false := by
  have hrefers := refers_printAll hspaced hne h
  rw [← parse_printAll_iff hne h]
  constructor
  · intro hread
    have hnone : refers (g.printAll predicates) = false := by
      refine Bool.eq_false_iff.mpr (fun hsome => ?_)
      -- With empty variables the text would be too light.
      exact absurd (weight_le_of_parse hne h (hread emptied))
        (Nat.not_le_of_lt (weight_substitute_lt hsome))
    refine ⟨?_, fun predicate hpredicate => ?_⟩
    · have hsame := hread emptied
      rwa [substitute_of_not_refers hnone] at hsame
    · rw [hrefers] at hnone
      exact Bool.eq_false_iff.mpr (List.any_eq_false.mp hnone predicate hpredicate)
  · intro h known
    rcases h with ⟨hparse, hnone⟩
    have hno : refers (g.printAll predicates) = false := by
      rw [hrefers]
      exact List.any_eq_false.mpr (fun predicate hpredicate =>
        Bool.eq_false_iff.mp (hnone predicate hpredicate))
    rw [substitute_of_not_refers hno]
    exact hparse

end Grammar

end Sql

end SyncMaster
