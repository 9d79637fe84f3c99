import SyncMaster.Library.SqlLexer
import SyncMaster.Library.Table

/-!
# Conjunctions of Predicates

The conditions that a filter needs: predicates joined by `AND`, each of which is
an operator with a name and mostly a literal. How a predicate is written depends
on the operator, so a grammar is a list of forms. A form says which operator it
is for and what its parts are, with holes for the name and the literal.

`printAll` writes predicates as a program does that puts each text between
quotes as it is. `parse` reads a condition. The question is when the second
undoes the first, and the answer is exact: when every name and every literal is
clean. Nothing weaker will do, since a text never weighs less than its tokens
and printing gives each predicate a text that weighs as much as the tokens it is
to become.

Where names have no quotes, a form begins with its name, so that the word in that
place is the name and the one behind it the operator. A grammar may be one of more
than conjunctions and read some last predicates in another way, which `misread`
tells.

## Main definitions

* `Part`, `Form`, `Predicate`: What conditions are made of.
* `Form.Leads`: The name stands first.
* `Grammar`: The forms of a dialect, which can be told apart.
* `Grammar.printAll`, `Grammar.parse`: Writing and reading.

## Theorems

* `scan_printAll`, `resolve_wordsAll`: Clean predicates become the tokens they are
  to become.
* `clean_of_resolve`: What becomes these tokens is clean.
* `parse_eq_some_iff`: Reading finds predicates exactly where the tokens are
  theirs.
* `parse_printAll_iff`: Reading undoes writing exactly when all is clean.
-/

namespace SyncMaster

namespace Sql

/-! ## Parts -/

inductive Part where
  | blank
  | punctuation (c : Char)
  | word (text : List Char)
  | symbol (text : List Char)
  | name (text : List Char)
  | value (text : List Char)
  deriving DecidableEq, Repr

namespace Dialect

variable (d : Dialect)

def quoted (kind : Kind) (text : List Char) : List Char :=
  d.quote kind :: text ++ [d.quote kind]

end Dialect

namespace Part

def text (d : Dialect) : Part → List Char
  | .blank => [' ']
  | .punctuation c => [c]
  | .word text | .symbol text => text
  | .name text => if d.plainIdentifiers then text else d.quoted .identifier text
  | .value text => d.quoted .literal text

/-- The tokens that the lexer is to make of the part. -/
def words (d : Dialect) : Part → List Token
  | .blank => []
  | .punctuation c => [.keyword [c]]
  | .word text => [.word text]
  | .symbol text => [.keyword text]
  | .name text => if d.plainIdentifiers then [.word text] else [.identifier text]
  | .value text => [.literal text]

/-- The tokens that these are to stand for. -/
def tokens : Part → List Token
  | .blank => []
  | .punctuation c => [.keyword [c]]
  | .word text | .symbol text => [.keyword text]
  | .name text => [.identifier text]
  | .value text => [.literal text]

/-- Whether nothing in front of the part or behind it can be taken for more of it. -/
def separates : Part → Bool
  | .blank | .punctuation _ => true
  | _ => false

/-- What a part has to be that is no name and no literal. -/
def Fits (d : Dialect) : Part → Prop
  | .blank | .name _ | .value _ => True
  | .punctuation c => isPunctuation c = true
  | .word text => Dialect.PlainWord text ∧ upper text = text ∧ text ∈ d.keywords
  | .symbol text => text ≠ [] ∧ ∀ c ∈ text, isSymbol c = true

instance (d : Dialect) : (part : Part) → Decidable (part.Fits d)
  | .blank | .name _ | .value _ => isTrue trivial
  | .punctuation c => inferInstanceAs (Decidable (isPunctuation c = true))
  | .word _ => inferInstanceAs (Decidable (_ ∧ _))
  | .symbol text =>
      decidable_of_iff (text ≠ [] ∧ text.all isSymbol = true)
        (and_congr_right (fun _ => List.all_eq_true))

def isName : Part → Bool
  | .name _ => true
  | _ => false

def isValue : Part → Bool
  | .value _ => true
  | _ => false

/-- The part with a name and a literal in its holes. -/
def fill (field value : List Char) : Part → Part
  | .name _ => .name field
  | .value _ => .value value
  | part => part

end Part

def Apart (part next : Part) : Prop :=
  part.separates = true ∨ next.separates = true

instance (part next : Part) : Decidable (Apart part next) :=
  inferInstanceAs (Decidable (_ ∨ _))

/-- The text of the parts, one behind the other. -/
def textOf (d : Dialect) (parts : List Part) : List Char :=
  parts.flatMap (Part.text d)

def wordsOf (d : Dialect) (parts : List Part) : List Token :=
  parts.flatMap (Part.words d)

def tokensOf (parts : List Part) : List Token :=
  parts.flatMap Part.tokens

namespace Dialect

variable {d : Dialect}

theorem weight_quoted (kind : Kind) (text : List Char) :
    weight (d.quoted kind text) = weight text + 2 := by
  rw [quoted, weight_append, weight_cons, weight_quote]
  omega

/-- A part weighs as much as its tokens, whatever the name or the literal is. -/
theorem weight_text (part : Part) : weight (part.text d) = d.total part.tokens := by
  cases part with
  | blank => rfl
  | punctuation c => rfl
  | word text => rfl
  | symbol text => rfl
  | value text => exact weight_quoted .literal text
  | name text =>
      by_cases hplain : d.plainIdentifiers = true
      · rw [Part.text, if_pos hplain, Part.tokens, total_cons, tokenWeight, if_pos hplain]
        rfl
      · rw [Part.text, if_neg hplain, Part.tokens, total_cons, tokenWeight, if_neg hplain,
          weight_quoted]
        rfl

theorem weight_textOf (parts : List Part) : weight (textOf d parts) = d.total (tokensOf parts) := by
  induction parts with
  | nil => rfl
  | cons part parts ih =>
      rw [textOf, tokensOf, List.flatMap_cons, List.flatMap_cons, weight_append, total_append,
        weight_text]
      exact congrArg _ ih

/-! ## Reading parts -/

theorem isBlank_or_isPunctuation_iff {c : Char} :
    isBlank c = true ∨ isPunctuation c = true ↔
      (c = ' ' ∨ c = '\t' ∨ c = '\n' ∨ c = '\r' ∨ c = '\x0c') ∨ c = '(' ∨ c = ')' ∨ c = ',' := by
  rw [isBlank_iff, isPunctuation_iff]

/-- A blank or a punctuation mark is more of nothing. -/
theorem separator_cases {c : Char} (h : isBlank c = true ∨ isPunctuation c = true) :
    isWordChar c = false ∧ isSymbol c = false ∧ ∀ kind, c ≠ d.quote kind := by
  have hquote : ∀ kind, d.quote kind = '\'' ∨ d.quote kind = '"' ∨ d.quote kind = '`' := by
    intro kind
    cases kind with
    | literal => exact Or.inl rfl
    | identifier => exact Or.inr d.quote_eq
  have hother : c ≠ '\'' ∧ c ≠ '"' ∧ c ≠ '`' ∧ isWordChar c = false ∧ isSymbol c = false := by
    rcases isBlank_or_isPunctuation_iff.mp h with
      (rfl | rfl | rfl | rfl | rfl) | rfl | rfl | rfl <;> decide
  refine ⟨hother.2.2.2.1, hother.2.2.2.2, fun kind heq => ?_⟩
  rcases hquote kind with h | h | h
  · exact hother.1 (heq.trans h)
  · exact hother.2.1 (heq.trans h)
  · exact hother.2.2.1 (heq.trans h)

/-- Whether what comes behind a part cannot be taken for more of it. -/
def Closes (behind : List Char) : Prop :=
  ∀ c ∈ behind.head?, isBlank c = true ∨ isPunctuation c = true

/-- A part is read as its tokens, if it is clean and ends where it has to. -/
theorem scan_part {part : Part} {behind : List Char} (hfits : part.Fits d)
    (hclean : ∀ token ∈ part.words d, d.Clean token)
    (hbehind : part.separates = true ∨ Closes behind) :
    d.scan .between (part.text d ++ behind) =
      (d.scan .between behind).map (part.words d ++ ·) := by
  have hcloses : part.separates = false → Closes behind := by
    intro hno
    rcases hbehind with h | h
    · rw [hno] at h
      cases h
    · exact h
  -- What ends a word is no word character, since the next part closes it.
  have hword : part.separates = false → ∀ text, PlainWord text →
      d.scan .between (text ++ behind) = (d.scan .between behind).map (.word text :: ·) :=
    fun hno text htext =>
      scan_word htext (fun c hc => (separator_cases (d := d) (hcloses hno c hc)).1)
  -- A clean text is the one that is read back when it is put between quotes.
  have hquoted : part.separates = false → ∀ kind text, d.CleanText kind text →
      d.scan .between (d.quoted kind text ++ behind) =
        (d.scan .between behind).map (token kind text :: ·) := by
    intro hno kind text htext
    have hread := scan_quoted behind htext
      (fun c hc => (separator_cases (hcloses hno c hc)).2.2 kind)
    rw [quoted, List.append_assoc, List.singleton_append]
    exact hread
  cases part with
  | blank =>
      -- A blank is no token, and ends none.
      rw [Part.text, List.singleton_append, scan_blank rfl]
      exact (map_nil_append _).symm
  | punctuation c => exact scan_punctuation hfits
  | word text => exact hword rfl text hfits.1
  | symbol text =>
      rcases hfits with ⟨hne, hsymbols⟩
      cases text with
      | nil => exact absurd rfl hne
      | cons c text =>
          exact scan_symbols hsymbols (fun c hc => (separator_cases (d := d) (hcloses rfl c hc)).2.1)
  | value text => exact hquoted rfl .literal text (hclean _ (List.mem_singleton_self _))
  | name text =>
      -- A dialect with plain identifiers writes the name as a word, the others quote it.
      by_cases hplain : d.plainIdentifiers = true
      · rw [Part.words, if_pos hplain] at hclean ⊢
        rw [Part.text, if_pos hplain]
        exact hword rfl text (hclean _ (List.mem_singleton_self _))
      · rw [Part.words, if_neg hplain] at hclean ⊢
        rw [Part.text, if_neg hplain]
        exact hquoted rfl .identifier text (hclean _ (List.mem_singleton_self _)).2

theorem closes_text {part : Part} {behind : List Char} (hfits : part.Fits d)
    (h : part.separates = true) : Closes (part.text d ++ behind) := by
  intro c hc
  cases part with
  | blank =>
      cases hc
      exact Or.inl rfl
  | punctuation mark =>
      cases hc
      exact Or.inr hfits
  | word text => cases h
  | symbol text => cases h
  | name text => cases h
  | value text => cases h

/-- So are parts that stand apart. -/
theorem scan_parts (parts : List Part) (behind : List Char)
    (hfits : ∀ part ∈ parts, part.Fits d) (hclean : ∀ token ∈ wordsOf d parts, d.Clean token)
    (hapart : parts.IsChain Apart) (hbehind : Closes behind) :
    d.scan .between (textOf d parts ++ behind) =
      (d.scan .between behind).map (wordsOf d parts ++ ·) := by
  induction parts with
  | nil => exact (map_nil_append _).symm
  | cons part parts ih =>
      have hpart : ∀ token ∈ part.words d, d.Clean token :=
        fun token htoken => hclean token (List.mem_append_left _ htoken)
      have hparts : ∀ token ∈ wordsOf d parts, d.Clean token :=
        fun token htoken => hclean token (List.mem_append_right _ htoken)
      -- What comes next closes the part, unless the part closes itself.
      have hnext : part.separates = true ∨ Closes (textOf d parts ++ behind) := by
        cases parts with
        | nil => exact Or.inr hbehind
        | cons next parts =>
            rcases (List.isChain_cons_cons.mp hapart).1 with h | h
            · exact Or.inl h
            · refine Or.inr ?_
              rw [textOf, List.flatMap_cons, List.append_assoc]
              exact closes_text (hfits next (List.mem_cons_of_mem _ List.mem_cons_self)) h
      have hrest := ih (fun p hp => hfits p (List.mem_cons_of_mem _ hp)) hparts hapart.tail
      have hread := scan_part (hfits part List.mem_cons_self) hpart hnext
      rw [hrest, Option.map_map] at hread
      rw [textOf, List.flatMap_cons, List.append_assoc]
      refine hread.trans ?_
      cases d.scan .between behind with
      | none => rfl
      | some tokens => exact congrArg some (List.append_assoc _ _ _).symm

/-! ## What parts stand for -/

/-- Without plain names it does not matter where a predicate begins. -/
theorem resolve_begins (hnames : d.plainNames = none) (begins : Bool) (words : List Token) :
    d.resolve begins words = d.resolve false words := by
  cases words with
  | nil => rfl
  | cons token behind =>
      have htoken : d.resolveToken begins token behind = d.resolveToken false token behind := by
        unfold resolveToken
        rw [hnames]
      rw [resolve, resolve, htoken]

/-- A token that stands for another one. -/
theorem resolve_of_token {begins : Bool} {token first : Token} {behind : List Token}
    (h : d.resolveToken begins token behind = some first) (hno : first ≠ .keyword conjunction) :
    d.resolve begins (token :: behind) = (d.resolve false behind).map (first :: ·) := by
  rw [resolve, h, Option.bind_some, decide_eq_false hno]

theorem resolveToken_word {begins : Bool} {text : List Char} {behind : List Token}
    (h : (Part.word text).Fits d) (hbegins : d.plainIdentifiers = true → begins = false) :
    d.resolveToken begins (.word text) behind = some (.keyword text) := by
  rcases h with ⟨_, hupper, hkeyword⟩
  have hword : (if upper text ∈ d.keywords then some (Token.keyword (upper text)) else none) =
      some (.keyword text) := by
    rw [hupper, if_pos hkeyword]
  unfold resolveToken
  cases hnames : d.plainNames with
  | none => exact hword
  | some isName =>
      rw [hbegins (plainIdentifiers_of_some hnames)]
      exact hword

/-- What is no name and joins nothing stands for the same wherever it is. -/
theorem resolve_part {part : Part} {behind : List Token} (hfits : part.Fits d)
    (hno : part ≠ .word conjunction) (hname : d.plainIdentifiers = true → part.isName = false) :
    d.resolve false (part.words d ++ behind) =
      (d.resolve false behind).map (part.tokens ++ ·) := by
  cases part with
  | blank => exact (map_nil_append _).symm
  | punctuation c => exact resolve_of_token rfl (fun heq => by cases heq)
  | symbol text =>
      refine resolve_of_token rfl (fun heq => ?_)
      have htext : text = conjunction := Token.keyword.inj heq
      exact absurd (hfits.2 'A' (htext ▸ List.mem_cons_self)) (by decide)
  | value text => exact resolve_of_token rfl (fun heq => by cases heq)
  | word text =>
      refine resolve_of_token (resolveToken_word hfits (fun _ => rfl)) (fun heq => hno ?_)
      rw [Token.keyword.inj heq]
  | name text =>
      have hplain : ¬ d.plainIdentifiers = true := fun h => Bool.noConfusion (hname h)
      rw [Part.words, if_neg hplain]
      exact resolve_of_token rfl (fun heq => by cases heq)

theorem resolve_parts {parts : List Part} {behind : List Token}
    (hfits : ∀ part ∈ parts, part.Fits d) (hno : .word conjunction ∉ parts)
    (hnames : d.plainIdentifiers = true → ∀ part ∈ parts, part.isName = false) :
    d.resolve false (wordsOf d parts ++ behind) =
      (d.resolve false behind).map (tokensOf parts ++ ·) := by
  induction parts with
  | nil => exact (map_nil_append _).symm
  | cons part parts ih =>
      have hrest := ih (fun p hp => hfits p (List.mem_cons_of_mem _ hp))
        (fun hmem => hno (List.mem_cons_of_mem _ hmem))
        (fun hplain p hp => hnames hplain p (List.mem_cons_of_mem _ hp))
      rw [wordsOf, List.flatMap_cons, List.append_assoc,
        resolve_part (hfits part List.mem_cons_self) (fun heq => hno (heq ▸ List.mem_cons_self))
          (fun hplain => hnames hplain part List.mem_cons_self)]
      refine (congrArg _ hrest).trans ?_
      rw [Option.map_map]
      refine congrArg (fun f => Option.map f (d.resolve false behind)) (funext (fun tokens => ?_))
      exact (List.append_assoc _ _ _).symm

end Dialect

/-! ## Forms -/

structure Predicate where
  operator : String
  field : String
  value : Option String
  deriving DecidableEq, Repr

def Predicate.literal (predicate : Predicate) : List Char :=
  (predicate.value.getD "").toList

/-- The first word or symbol of an operator. -/
def firstWord (operator : String) : List Char :=
  operator.toList.takeWhile (fun c => c != ' ')

/-- How the predicates of an operator are written. The names and the literals of
    the pattern are holes. -/
structure Form where
  operator : String
  pattern : List Part
  deriving DecidableEq, Repr

namespace Form

variable (form : Form)

def hasValue : Bool :=
  form.pattern.any Part.isValue

def parts (field value : List Char) : List Part :=
  form.pattern.map (Part.fill field value)

def words (d : Dialect) (field value : List Char) : List Token :=
  wordsOf d (form.parts field value)

def tokens (field value : List Char) : List Token :=
  tokensOf (form.parts field value)

/-- The name stands first and the operator behind it. -/
def Leads : Prop :=
  (form.pattern.take 1).all Part.isName = true ∧ (form.pattern.drop 1).any Part.isName = false ∧
    firstWord form.operator ≠ [] ∧
    spelled (tokensOf (form.pattern.drop 1)) = firstWord form.operator

instance : Decidable form.Leads :=
  inferInstanceAs (Decidable (_ ∧ _))

def Fits (d : Dialect) : Prop :=
  form.pattern.any Part.isName = true ∧ (∀ part ∈ form.pattern, part.Fits d) ∧
    form.pattern.IsChain Apart ∧ .word conjunction ∉ form.pattern ∧
    (d.plainIdentifiers = true → form.Leads)

instance (d : Dialect) : Decidable (form.Fits d) :=
  inferInstanceAs (Decidable (_ ∧ _))

end Form

/-- The forms of a dialect. They differ in their operators and in their tokens, so
    that an operator has one form and a form can be told from its tokens. -/
structure Grammar where
  dialect : Dialect
  forms : List Form
  conjunction_mem : conjunction ∈ dialect.keywords
  fits : ∀ form ∈ forms, form.Fits dialect
  /-- Whether a condition that ends with the predicate is read in another way. -/
  misread : Predicate → Bool
  operators_distinct : Table.Distinct Form.operator forms
  tokens_distinct : Table.Distinct (fun form => form.tokens [] []) forms

def Token.name? : Token → Option (List Char)
  | .identifier name => some name
  | _ => none

def Token.value? : Token → Option (List Char)
  | .literal value => some value
  | _ => none

/-- The token without its name or literal. -/
def Token.erase : Token → Token
  | .identifier _ => .identifier []
  | .literal _ => .literal []
  | .word text => .word text
  | .keyword text => .keyword text

/-- What stands between two predicates. -/
def joint : List Part :=
  [.blank, .word conjunction, .blank]

namespace Grammar

variable (g : Grammar)

def formOf (operator : String) : Option Form :=
  Table.find Form.operator g.forms operator

/-- There is a form for the predicate. -/
def Sayable (predicate : Predicate) : Prop :=
  ∃ form ∈ g.forms, form.operator = predicate.operator ∧ form.hasValue = predicate.value.isSome

instance (predicate : Predicate) : Decidable (g.Sayable predicate) :=
  inferInstanceAs (Decidable (∃ form ∈ g.forms, _))

/-! ## Writing and reading -/

/-- The text of a predicate, with the name and the literal as they are. -/
def print (predicate : Predicate) : List Char :=
  match g.formOf predicate.operator with
  | some form => textOf g.dialect (form.parts predicate.field.toList predicate.literal)
  | none => []

def printAll (predicates : List Predicate) : List Char :=
  (textOf g.dialect joint).intercalate (predicates.map g.print)

/-- The tokens that the lexer is to make of the predicate. -/
def words (predicate : Predicate) : List Token :=
  match g.formOf predicate.operator with
  | some form => form.words g.dialect predicate.field.toList predicate.literal
  | none => []

def wordsAll (predicates : List Predicate) : List Token :=
  (wordsOf g.dialect joint).intercalate (predicates.map g.words)

/-- The tokens that these are to stand for. -/
def tokens (predicate : Predicate) : List Token :=
  match g.formOf predicate.operator with
  | some form => form.tokens predicate.field.toList predicate.literal
  | none => []

def tokensAll (predicates : List Predicate) : List Token :=
  (tokensOf joint).intercalate (predicates.map g.tokens)

/-- The predicate with these tokens. -/
def predicate (chunk : List Token) : Option Predicate :=
  let field := (chunk.findSome? Token.name?).getD []
  let value := chunk.findSome? Token.value?
  (Table.find (fun form => form.tokens field (value.getD [])) g.forms chunk).map (fun form =>
    { operator := form.operator, field := String.ofList field, value := value.map String.ofList })

/-- The predicates of the tokens, one behind the other. -/
def conjuncts (tokens : List Token) : Option (List Predicate) :=
  (tokens.splitOn (.keyword conjunction)).mapM g.predicate

/-- Whether the last predicate is read in another way. -/
def endsMisread (predicates : List Predicate) : Bool :=
  predicates.getLast?.any g.misread

def parse (text : List Char) : Option (List Predicate) :=
  ((g.dialect.lex text).bind g.conjuncts).filter (fun predicates => !g.endsMisread predicates)

/-- The name and the literal are read back as they are. -/
def Clean (predicate : Predicate) : Prop :=
  g.dialect.CleanName predicate.field.toList (firstWord predicate.operator) ∧
    ∀ value ∈ predicate.value, g.dialect.CleanText .literal value.toList

instance (predicate : Predicate) : Decidable (g.Clean predicate) :=
  inferInstanceAs (Decidable (_ ∧ _))

variable {g} {form : Form} {predicate : Predicate}

theorem formOf_eq_some_iff {operator : String} :
    g.formOf operator = some form ↔ form ∈ g.forms ∧ form.operator = operator :=
  Table.find_eq_some_iff Form.operator g.operators_distinct

/-- What printing and reading make of a predicate that has a form. -/
theorem form_of_sayable (h : g.Sayable predicate) :
    ∃ form ∈ g.forms, form.operator = predicate.operator ∧
      form.hasValue = predicate.value.isSome ∧
      g.print predicate = textOf g.dialect (form.parts predicate.field.toList predicate.literal) ∧
      g.words predicate = form.words g.dialect predicate.field.toList predicate.literal ∧
      g.tokens predicate = form.tokens predicate.field.toList predicate.literal := by
  rcases h with ⟨form, hform, hoperator, hvalue⟩
  have hfound := formOf_eq_some_iff.mpr ⟨hform, hoperator⟩
  refine ⟨form, hform, hoperator, hvalue, ?_, ?_, ?_⟩
  · rw [print, hfound]
  · rw [words, hfound]
  · rw [tokens, hfound]

/-! ## The tokens of a form -/

theorem mem_tokens_iff {field value : List Char} {token : Token} :
    token ∈ form.tokens field value ↔
      ∃ part ∈ form.pattern, token ∈ (part.fill field value).tokens := by
  rw [Form.tokens, tokensOf, Form.parts, List.mem_flatMap]
  constructor
  · intro h
    rcases h with ⟨filled, hfilled, htoken⟩
    rcases List.mem_map.mp hfilled with ⟨part, hpart, rfl⟩
    exact ⟨part, hpart, htoken⟩
  · intro h
    rcases h with ⟨part, hpart, htoken⟩
    exact ⟨part.fill field value, List.mem_map_of_mem hpart, htoken⟩

/-- A token of a form is the name, the literal or a keyword. -/
theorem token_cases {field value : List Char} {token : Token}
    (h : token ∈ form.tokens field value) :
    token = .identifier field ∨ (form.hasValue = true ∧ token = .literal value) ∨
      ∃ text, token = .keyword text := by
  rcases mem_tokens_iff.mp h with ⟨part, hpart, htoken⟩
  cases part with
  | blank => cases htoken
  | punctuation c => exact Or.inr (Or.inr ⟨_, List.mem_singleton.mp htoken⟩)
  | word text => exact Or.inr (Or.inr ⟨_, List.mem_singleton.mp htoken⟩)
  | symbol text => exact Or.inr (Or.inr ⟨_, List.mem_singleton.mp htoken⟩)
  | name text => exact Or.inl (List.mem_singleton.mp htoken)
  | value text =>
      exact Or.inr (Or.inl ⟨List.any_eq_true.mpr ⟨_, hpart, rfl⟩, List.mem_singleton.mp htoken⟩)

theorem name_mem_tokens (hform : form ∈ g.forms) (field value : List Char) :
    .identifier field ∈ form.tokens field value := by
  rcases List.any_eq_true.mp (g.fits form hform).1 with ⟨part, hpart, hname⟩
  refine mem_tokens_iff.mpr ⟨part, hpart, ?_⟩
  cases part with
  | name text => exact List.mem_singleton_self _
  | blank => cases hname
  | punctuation c => cases hname
  | word text => cases hname
  | symbol text => cases hname
  | value text => cases hname

theorem value_mem_tokens (h : form.hasValue = true) (field value : List Char) :
    .literal value ∈ form.tokens field value := by
  rcases List.any_eq_true.mp h with ⟨part, hpart, hvalue⟩
  refine mem_tokens_iff.mpr ⟨part, hpart, ?_⟩
  cases part with
  | value text => exact List.mem_singleton_self _
  | blank => cases hvalue
  | punctuation c => cases hvalue
  | word text => cases hvalue
  | symbol text => cases hvalue
  | name text => cases hvalue

theorem conjunction_notMem_tokens (hform : form ∈ g.forms) (field value : List Char) :
    .keyword conjunction ∉ form.tokens field value := by
  intro hmem
  rcases mem_tokens_iff.mp hmem with ⟨part, hpart, htoken⟩
  have hfits := (g.fits form hform).2.1 part hpart
  cases part with
  | blank => cases htoken
  | name text => cases List.mem_singleton.mp htoken
  | value text => cases List.mem_singleton.mp htoken
  | punctuation c =>
      have hlength := congrArg List.length (Token.keyword.inj (List.mem_singleton.mp htoken))
      cases hlength
  | symbol text =>
      have hsymbols : ∀ c ∈ text, isSymbol c = true := hfits.2
      have heq : conjunction = text := Token.keyword.inj (List.mem_singleton.mp htoken)
      exact absurd (hsymbols 'A' (heq ▸ List.mem_cons_self)) (by decide)
  | word text =>
      have heq : conjunction = text := Token.keyword.inj (List.mem_singleton.mp htoken)
      exact (g.fits form hform).2.2.2.1 (heq ▸ hpart)

theorem map_erase_tokens (field value : List Char) :
    (form.tokens field value).map Token.erase = form.tokens [] [] := by
  rw [Form.tokens, Form.tokens, tokensOf, tokensOf, Form.parts, Form.parts, List.map_flatMap,
    List.flatMap_map, List.flatMap_map]
  refine List.flatMap_congr (fun part _ => ?_)
  cases part <;> rfl

/-- The first of the results, where there is only one. -/
theorem findSome?_eq {α β : Type} {f : α → Option β} {xs : List α} {x : α} {y : β}
    (hx : x ∈ xs) (hy : f x = some y) (hall : ∀ x ∈ xs, ∀ z, f x = some z → z = y) :
    xs.findSome? f = some y := by
  cases hfound : xs.findSome? f with
  | none =>
      rw [List.findSome?_eq_none_iff.mp hfound x hx] at hy
      cases hy
  | some z =>
      rcases List.exists_of_findSome?_eq_some hfound with ⟨other, hother, hz⟩
      rw [hall other hother z hz]

theorem findSome?_name?_tokens (hform : form ∈ g.forms) (field value : List Char) :
    (form.tokens field value).findSome? Token.name? = some field := by
  refine findSome?_eq (name_mem_tokens hform field value) rfl (fun token htoken name hname => ?_)
  rcases token_cases htoken with rfl | ⟨_, rfl⟩ | ⟨text, rfl⟩
  · exact (Option.some.inj hname).symm
  · cases hname
  · cases hname

theorem findSome?_value?_tokens (field : List Char) {value : Option (List Char)}
    (h : form.hasValue = value.isSome) :
    (form.tokens field (value.getD [])).findSome? Token.value? = value := by
  cases value with
  | none =>
      refine List.findSome?_eq_none_iff.mpr (fun token htoken => ?_)
      rcases token_cases htoken with rfl | ⟨hvalue, _⟩ | ⟨text, rfl⟩
      · rfl
      · rw [h] at hvalue
        cases hvalue
      · rfl
  | some value =>
      refine findSome?_eq (value_mem_tokens h field value) rfl (fun token htoken other hother => ?_)
      rcases token_cases htoken with rfl | ⟨_, rfl⟩ | ⟨text, rfl⟩
      · cases hother
      · exact (Option.some.inj hother).symm
      · cases hother

theorem distinct_tokens (g : Grammar) (field value : List Char) :
    Table.Distinct (fun form => form.tokens field value) g.forms := by
  have herase := g.tokens_distinct
  unfold Table.Distinct at herase ⊢
  have hmap : g.forms.map (fun form => form.tokens [] []) =
      (g.forms.map (fun form => form.tokens field value)).map (List.map Token.erase) := by
    rw [List.map_map]
    exact List.map_congr_left (fun form _ => (map_erase_tokens field value).symm)
  rw [hmap] at herase
  exact List.Nodup.of_map _ herase

/-! ## What is read -/

theorem literal_eq (predicate : Predicate) :
    predicate.literal = (predicate.value.map String.toList).getD [] := by
  unfold Predicate.literal
  cases predicate.value <;> rfl

/-- A predicate is read from its own tokens and from no others. -/
theorem predicate_eq_some_iff (h : g.Sayable predicate) {chunk : List Token} :
    g.predicate chunk = some predicate ↔ chunk = g.tokens predicate := by
  rcases form_of_sayable h with ⟨form, hform, hoperator, hvalue, _, _, htokens⟩
  rw [htokens, literal_eq]
  constructor
  · intro hread
    rcases Option.map_eq_some_iff.mp hread with ⟨other, hfound, rfl⟩
    rcases (Table.find_eq_some_iff _ (g.distinct_tokens _ _)).mp hfound with ⟨hother, hchunk⟩
    have heq := formOf_eq_some_iff.mpr ⟨hother, rfl⟩
    rw [formOf_eq_some_iff.mpr ⟨hform, hoperator⟩] at heq
    cases heq
    simp only [String.toList_ofList, Option.map_map]
    have hid : (String.toList ∘ String.ofList) = id := funext (fun _ => String.toList_ofList)
    rw [hid, Option.map_id]
    exact hchunk.symm
  · intro heq
    subst heq
    have hsome : form.hasValue = (predicate.value.map String.toList).isSome := by
      rw [hvalue, Option.isSome_map]
    unfold Grammar.predicate
    rw [findSome?_name?_tokens hform, findSome?_value?_tokens _ hsome, Option.getD_some]
    refine Option.map_eq_some_iff.mpr ⟨form, ?_, ?_⟩
    · exact (Table.find_eq_some_iff _ (g.distinct_tokens _ _)).mpr ⟨hform, rfl⟩
    · rw [hoperator, String.ofList_toList, Option.map_map]
      have hid : (String.ofList ∘ String.toList) = id := funext (fun _ => String.ofList_toList)
      rw [hid, Option.map_id]
      rfl

theorem mapM_eq_some_iff {α β : Type} {f : α → Option β} {xs : List α} {ys : List β} :
    xs.mapM f = some ys ↔ xs.map f = ys.map some := by
  induction xs generalizing ys with
  | nil =>
      cases ys with
      | nil => exact ⟨fun _ => rfl, fun _ => rfl⟩
      | cons y ys => exact ⟨(fun h => nomatch h), (fun h => nomatch h)⟩
  | cons x xs ih =>
      rw [List.mapM_cons, List.map_cons]
      constructor
      · intro h
        rcases Option.bind_eq_some_iff.mp h with ⟨y, hy, h⟩
        rcases Option.bind_eq_some_iff.mp h with ⟨rest, hrest, h⟩
        cases h
        rw [hy, ih.mp hrest, List.map_cons]
      · intro h
        cases ys with
        | nil => cases h
        | cons y ys =>
            rw [List.map_cons] at h
            rcases List.cons.inj h with ⟨hy, hrest⟩
            rw [hy, ih.mpr hrest]
            rfl

theorem map_predicate_eq_iff {predicates : List Predicate}
    (h : ∀ predicate ∈ predicates, g.Sayable predicate) {chunks : List (List Token)} :
    chunks.map g.predicate = predicates.map some ↔ chunks = predicates.map g.tokens := by
  induction predicates generalizing chunks with
  | nil => rw [List.map_nil, List.map_nil, List.map_eq_nil_iff]
  | cons predicate predicates ih =>
      cases chunks with
      | nil => exact ⟨(fun h => nomatch h), (fun h => nomatch h)⟩
      | cons chunk chunks =>
          rw [List.map_cons, List.map_cons, List.map_cons, List.cons.injEq, List.cons.injEq,
            predicate_eq_some_iff (h predicate List.mem_cons_self),
            ih (fun p hp => h p (List.mem_cons_of_mem _ hp))]

theorem conjuncts_eq_some_iff {predicates : List Predicate} (hne : predicates ≠ [])
    (h : ∀ predicate ∈ predicates, g.Sayable predicate) {tokens : List Token} :
    g.conjuncts tokens = some predicates ↔ tokens = g.tokensAll predicates := by
  unfold conjuncts
  rw [mapM_eq_some_iff, map_predicate_eq_iff h]
  constructor
  · intro hchunks
    have hjoined : [Token.keyword conjunction].intercalate
        (tokens.splitOn (Token.keyword conjunction)) = tokens :=
      List.intercalate_splitOn (Token.keyword conjunction)
    rw [hchunks] at hjoined
    exact hjoined.symm
  · intro htokens
    rw [htokens]
    refine List.splitOn_intercalate (Token.keyword conjunction) (fun chunk hchunk => ?_) ?_
    -- No predicate has the conjunction among its tokens, so splitting undoes joining.
    · rcases List.mem_map.mp hchunk with ⟨predicate, hpredicate, rfl⟩
      rcases form_of_sayable (h predicate hpredicate) with ⟨form, hform, _, _, _, _, htokens⟩
      rw [htokens]
      exact conjunction_notMem_tokens hform _ _
    · exact fun hnil => hne (List.map_eq_nil_iff.mp hnil)

/-- Reading finds the predicates exactly where the tokens are theirs, and the last is
    not read in another way. -/
theorem parse_eq_some_iff {predicates : List Predicate} (hne : predicates ≠ [])
    (h : ∀ predicate ∈ predicates, g.Sayable predicate) {text : List Char} :
    g.parse text = some predicates ↔
      g.dialect.lex text = some (g.tokensAll predicates) ∧ g.endsMisread predicates = false := by
  unfold parse
  rw [Option.filter_eq_some_iff, Option.bind_eq_some_iff, Bool.not_eq_true']
  refine and_congr_left (fun _ => ?_)
  constructor
  · intro hread
    rcases hread with ⟨tokens, hlex, htokens⟩
    rw [hlex, (conjuncts_eq_some_iff hne h).mp htokens]
  · intro hlex
    exact ⟨_, hlex, (conjuncts_eq_some_iff hne h).mpr rfl⟩

/-! ## Reading what was written -/

theorem printAll_cons {predicate : Predicate} {predicates : List Predicate} (h : predicates ≠ []) :
    g.printAll (predicate :: predicates) =
      g.print predicate ++ (textOf g.dialect joint ++ g.printAll predicates) := by
  unfold printAll
  rw [List.map_cons, List.intercalate_cons_of_ne_nil (fun hnil => h (List.map_eq_nil_iff.mp hnil)),
    List.append_assoc]

theorem tokensAll_cons {predicate : Predicate} {predicates : List Predicate} (h : predicates ≠ []) :
    g.tokensAll (predicate :: predicates) =
      g.tokens predicate ++ (tokensOf joint ++ g.tokensAll predicates) := by
  unfold tokensAll
  rw [List.map_cons, List.intercalate_cons_of_ne_nil (fun hnil => h (List.map_eq_nil_iff.mp hnil)),
    List.append_assoc]

theorem printAll_singleton (predicate : Predicate) :
    g.printAll [predicate] = g.print predicate :=
  List.intercalate_singleton

theorem tokensAll_singleton (predicate : Predicate) :
    g.tokensAll [predicate] = g.tokens predicate :=
  List.intercalate_singleton

theorem weight_print (predicate : Predicate) :
    weight (g.print predicate) = g.dialect.total (g.tokens predicate) := by
  unfold print tokens
  cases g.formOf predicate.operator with
  | none => rfl
  | some form => exact Dialect.weight_textOf _

/-- What is written weighs as much as what it is to become. -/
theorem weight_printAll (predicates : List Predicate) :
    weight (g.printAll predicates) = g.dialect.total (g.tokensAll predicates) := by
  induction predicates with
  | nil => rfl
  | cons predicate predicates ih =>
      by_cases hnil : predicates = []
      · rw [hnil, printAll_singleton, tokensAll_singleton, weight_print]
      · rw [printAll_cons hnil, tokensAll_cons hnil, weight_append, weight_append,
          Dialect.total_append, Dialect.total_append, weight_print, Dialect.weight_textOf, ih]

/-! ## What clean predicates become -/

/-- What is put into a hole is clean, and what stands around the holes fits by itself. -/
theorem fits_parts (hform : form ∈ g.forms) (field value : List Char) :
    ∀ part ∈ form.parts field value, part.Fits g.dialect := by
  intro part hpart
  rcases List.mem_map.mp hpart with ⟨hole, hhole, rfl⟩
  have hfit := (g.fits form hform).2.1 hole hhole
  cases hole with
  | name text => trivial
  | value text => trivial
  | blank => exact hfit
  | punctuation c => exact hfit
  | word text => exact hfit
  | symbol text => exact hfit

/-- Filling the holes changes nothing about where parts separate. -/
theorem apart_parts (hform : form ∈ g.forms) (field value : List Char) :
    (form.parts field value).IsChain Apart := by
  refine List.isChain_map_of_isChain _ (fun part next h => ?_) (g.fits form hform).2.2.1
  have hseparates : ∀ part : Part, (part.fill field value).separates = part.separates := by
    intro part
    cases part <;> rfl
  rw [Apart, hseparates, hseparates]
  exact h

theorem conjunction_notMem_parts (hform : form ∈ g.forms) (field value : List Char) :
    .word conjunction ∉ form.parts field value := by
  intro hmem
  rcases List.mem_map.mp hmem with ⟨part, hpart, heq⟩
  refine (g.fits form hform).2.2.2.1 ?_
  cases part with
  | word text => exact heq ▸ hpart
  | blank | punctuation | symbol | name | value => cases heq

theorem clean_of_cleanName {d : Dialect} {name next : List Char} (h : d.CleanName name next) :
    ∀ token ∈ (Part.name name).words d, d.Clean token := by
  unfold Dialect.CleanName at h
  cases hnames : d.plainNames with
  | none =>
      have hplain := Dialect.plainIdentifiers_of_none hnames
      rw [hnames] at h
      rw [Part.words, if_neg (by rw [hplain]; exact Bool.false_ne_true)]
      exact List.forall_mem_singleton.mpr ⟨hplain, h⟩
  | some isName =>
      have hplain := Dialect.plainIdentifiers_of_some hnames
      rw [hnames] at h
      rw [Part.words, if_pos hplain]
      exact List.forall_mem_singleton.mpr h.1

/-- The lexer makes clean tokens of a clean predicate. -/
theorem clean_words (h : g.Sayable predicate) (hclean : g.Clean predicate) :
    ∀ token ∈ g.words predicate, g.dialect.Clean token := by
  rcases form_of_sayable h with ⟨form, hform, _, hvalue, _, hwords, _⟩
  rw [hwords]
  intro token htoken
  rcases List.mem_flatMap.mp htoken with ⟨filled, hfilled, htoken⟩
  rcases List.mem_map.mp hfilled with ⟨part, hpart, rfl⟩
  have hfits := (g.fits form hform).2.1 part hpart
  cases part with
  | blank => cases htoken
  | punctuation c =>
      rw [List.mem_singleton.mp htoken]
      trivial
  | symbol text =>
      rw [List.mem_singleton.mp htoken]
      trivial
  | word text =>
      rw [List.mem_singleton.mp htoken]
      exact hfits.1
  | name text => exact clean_of_cleanName hclean.1 token htoken
  | value text =>
      -- There is a literal, since the form has a hole for it.
      have hhas : form.hasValue = true := List.any_eq_true.mpr ⟨_, hpart, rfl⟩
      rcases Option.isSome_iff_exists.mp (hvalue ▸ hhas) with ⟨value, hsome⟩
      have hliteral : predicate.literal = value.toList := by rw [Predicate.literal, hsome]; rfl
      rw [List.mem_singleton.mp htoken, hliteral]
      exact hclean.2 value hsome

theorem scan_print (behind : List Char) (h : g.Sayable predicate) (hclean : g.Clean predicate)
    (hbehind : Dialect.Closes behind) :
    g.dialect.scan .between (g.print predicate ++ behind) =
      (g.dialect.scan .between behind).map (g.words predicate ++ ·) := by
  have hwordsClean := clean_words h hclean
  rcases form_of_sayable h with ⟨form, hform, _, _, hprint, hwords, _⟩
  rw [hwords] at hwordsClean ⊢
  rw [hprint]
  exact Dialect.scan_parts _ _ (fits_parts hform _ _) hwordsClean (apart_parts hform _ _) hbehind

theorem scan_joint {behind : List Char} :
    g.dialect.scan .between (textOf g.dialect joint ++ behind) =
      (g.dialect.scan .between behind).map (wordsOf g.dialect joint ++ ·) := by
  -- A blank closes the joint, so that it does not matter what is behind.
  have hword : (Part.word conjunction).Fits g.dialect :=
    ⟨by decide, rfl, g.conjunction_mem⟩
  have hread := Dialect.scan_parts (d := g.dialect) [.blank, .word conjunction] (' ' :: behind)
    (List.forall_mem_cons.mpr ⟨trivial, List.forall_mem_singleton.mpr hword⟩)
    (List.forall_mem_singleton.mpr hword.1) (by decide)
    (fun c hc => by cases hc; exact Or.inl rfl)
  rw [Dialect.scan_blank rfl] at hread
  exact hread

theorem wordsAll_cons {predicate : Predicate} {predicates : List Predicate} (h : predicates ≠ []) :
    g.wordsAll (predicate :: predicates) =
      g.words predicate ++ (wordsOf g.dialect joint ++ g.wordsAll predicates) := by
  unfold wordsAll
  rw [List.map_cons, List.intercalate_cons_of_ne_nil (fun hnil => h (List.map_eq_nil_iff.mp hnil)),
    List.append_assoc]

theorem wordsAll_singleton (predicate : Predicate) :
    g.wordsAll [predicate] = g.words predicate :=
  List.intercalate_singleton

theorem scan_printAll {predicates : List Predicate} (hne : predicates ≠ [])
    (h : ∀ predicate ∈ predicates, g.Sayable predicate)
    (hclean : ∀ predicate ∈ predicates, g.Clean predicate) :
    g.dialect.scan .between (g.printAll predicates) = some (g.wordsAll predicates) := by
  induction predicates with
  | nil => exact absurd rfl hne
  | cons predicate predicates ih =>
      have hfirst := h predicate List.mem_cons_self
      have hfirstClean := hclean predicate List.mem_cons_self
      by_cases hnil : predicates = []
      · rw [hnil, printAll_singleton, wordsAll_singleton]
        have hread := scan_print [] hfirst hfirstClean (fun c hc => by cases hc)
        rw [List.append_nil] at hread
        rw [hread, Dialect.scan, Dialect.finish, Option.map_some, List.append_nil]
      · have hrest := ih hnil (fun p hp => h p (List.mem_cons_of_mem _ hp))
          (fun p hp => hclean p (List.mem_cons_of_mem _ hp))
        rw [printAll_cons hnil, wordsAll_cons hnil,
          scan_print _ hfirst hfirstClean (fun c hc => by cases hc; exact Or.inl rfl), scan_joint,
          hrest, Option.map_some, Option.map_some]

/-! ## What they stand for -/

theorem spelled_eq (tokens : List Token) :
    spelled tokens = (tokens.map Token.spelling).head?.getD [] := by
  rw [spelled, List.head?_map]

theorem spelled_append {tokens : List Token} (h : spelled tokens ≠ []) (behind : List Token) :
    spelled (tokens ++ behind) = spelled tokens := by
  cases tokens with
  | nil => exact absurd rfl h
  | cons token tokens => rfl

/-- Names and literals are spelled alike, so that holes can be filled. -/
theorem spelled_fill (parts : List Part) (field value : List Char) :
    spelled (tokensOf (parts.map (Part.fill field value))) = spelled (tokensOf parts) := by
  have hmap : (tokensOf (parts.map (Part.fill field value))).map Token.spelling =
      (tokensOf parts).map Token.spelling := by
    rw [tokensOf, tokensOf, List.map_flatMap, List.map_flatMap, List.flatMap_map]
    refine List.flatMap_congr (fun part _ => ?_)
    cases part <;> rfl
  rw [spelled_eq, spelled_eq, hmap]

/-- The parts of a form that begins with its name. -/
theorem leads_parts (hname : form.pattern.any Part.isName = true) (h : form.Leads)
    (field value : List Char) :
    ∃ rest : List Part, form.parts field value = .name field :: rest ∧
      (∀ part ∈ rest, part.isName = false) ∧ spelled (tokensOf rest) = firstWord form.operator := by
  rcases h with ⟨hfirst, hrest, _, hspelled⟩
  have hparts : form.parts field value = form.pattern.map (Part.fill field value) := rfl
  cases hpattern : form.pattern with
  | nil =>
      rw [hpattern] at hname
      cases hname
  | cons part rest =>
      rw [hpattern] at hfirst hrest hspelled
      refine ⟨rest.map (Part.fill field value), ?_, ?_, ?_⟩
      · rw [hparts, hpattern, List.map_cons]
        have hisName : part.isName = true :=
          List.all_eq_true.mp hfirst part (List.mem_singleton_self _)
        cases part with
        | name text => rfl
        | blank | punctuation | word | symbol | value => cases hisName
      · refine List.forall_mem_map.mpr (fun other hother => ?_)
        have hno := List.any_eq_false.mp hrest other hother
        cases other with
        | name text => exact absurd rfl hno
        | blank | punctuation | word | symbol | value => rfl
      · exact (spelled_fill rest field value).trans hspelled

/-- A clean predicate stands for what it is to stand for. -/
theorem resolve_words {behind : List Token} (h : g.Sayable predicate) (hclean : g.Clean predicate) :
    g.dialect.resolve true (g.words predicate ++ behind) =
      (g.dialect.resolve false behind).map (g.tokens predicate ++ ·) := by
  rcases form_of_sayable h with ⟨form, hform, hoperator, _, _, hwords, htokens⟩
  have hfits := fits_parts hform predicate.field.toList predicate.literal
  have hno := conjunction_notMem_parts hform predicate.field.toList predicate.literal
  have hname := hclean.1
  rw [hwords, htokens, Form.words, Form.tokens]
  cases hnames : g.dialect.plainNames with
  | none =>
      have hplain := Dialect.plainIdentifiers_of_none hnames
      rw [Dialect.resolve_begins hnames]
      refine Dialect.resolve_parts hfits hno (fun hsome => ?_)
      rw [hplain] at hsome
      cases hsome
  | some isName =>
      have hplain := Dialect.plainIdentifiers_of_some hnames
      have hleads := (g.fits form hform).2.2.2.2 hplain
      rcases leads_parts (g.fits form hform).1 hleads predicate.field.toList predicate.literal with
        ⟨rest, hparts, hrestNames, hspelled⟩
      rw [hparts] at hfits hno ⊢
      have hrest : ∀ behind, g.dialect.resolve false (wordsOf g.dialect rest ++ behind) =
          (g.dialect.resolve false behind).map (tokensOf rest ++ ·) := fun behind =>
        Dialect.resolve_parts (fun part hpart => hfits part (List.mem_cons_of_mem _ hpart))
          (fun hmem => hno (List.mem_cons_of_mem _ hmem)) (fun _ => hrestNames)
      -- The operator is what the name is followed by.
      have hsame : spelled (wordsOf g.dialect rest) = firstWord form.operator := by
        have hresolve := hrest []
        rw [List.append_nil, Dialect.resolve, Option.map_some, List.append_nil] at hresolve
        rw [← Dialect.spelled_resolve hresolve, hspelled]
      have hbehind : spelled (wordsOf g.dialect rest ++ behind) = firstWord predicate.operator := by
        rw [spelled_append (hsame ▸ hleads.2.2.1), hsame, hoperator]
      have hfield : (Part.name predicate.field.toList).words g.dialect =
          [.word predicate.field.toList] := if_pos hplain
      unfold Dialect.CleanName at hname
      rw [hnames] at hname
      have htoken : g.dialect.resolveToken true (.word predicate.field.toList)
          (wordsOf g.dialect rest ++ behind) = some (.identifier predicate.field.toList) := by
        unfold Dialect.resolveToken
        rw [hnames]
        exact if_pos (hbehind ▸ hname.2)
      have hwordsOf : wordsOf g.dialect (.name predicate.field.toList :: rest) ++ behind =
          .word predicate.field.toList :: (wordsOf g.dialect rest ++ behind) := by
        rw [wordsOf, List.flatMap_cons, hfield]
        rfl
      rw [hwordsOf, Dialect.resolve_of_token htoken (fun heq => by cases heq), hrest,
        Option.map_map]
      rfl

theorem resolve_joint {behind : List Token} :
    g.dialect.resolve false (wordsOf g.dialect joint ++ behind) =
      (g.dialect.resolve true behind).map (tokensOf joint ++ ·) := by
  have htoken : g.dialect.resolveToken false (.word conjunction) behind =
      some (.keyword conjunction) :=
    Dialect.resolveToken_word ⟨by decide, rfl, g.conjunction_mem⟩ (fun _ => rfl)
  have hwords : wordsOf g.dialect joint ++ behind = .word conjunction :: behind := rfl
  rw [hwords, Dialect.resolve, htoken, Option.bind_some, decide_eq_true rfl]
  rfl

theorem resolve_wordsAll {predicates : List Predicate} (hne : predicates ≠ [])
    (h : ∀ predicate ∈ predicates, g.Sayable predicate)
    (hclean : ∀ predicate ∈ predicates, g.Clean predicate) :
    g.dialect.resolve true (g.wordsAll predicates) = some (g.tokensAll predicates) := by
  induction predicates with
  | nil => exact absurd rfl hne
  | cons predicate predicates ih =>
      have hfirst := h predicate List.mem_cons_self
      have hfirstClean := hclean predicate List.mem_cons_self
      by_cases hnil : predicates = []
      · rw [hnil, wordsAll_singleton, tokensAll_singleton, ← List.append_nil (g.words predicate),
          resolve_words hfirst hfirstClean, Dialect.resolve, Option.map_some, List.append_nil]
      · have hrest := ih hnil (fun p hp => h p (List.mem_cons_of_mem _ hp))
          (fun p hp => hclean p (List.mem_cons_of_mem _ hp))
        rw [wordsAll_cons hnil, tokensAll_cons hnil, resolve_words hfirst hfirstClean,
          resolve_joint, hrest, Option.map_some, Option.map_some]

/-- Clean predicates become the tokens they are to become. -/
theorem lex_printAll {predicates : List Predicate} (hne : predicates ≠ [])
    (h : ∀ predicate ∈ predicates, g.Sayable predicate)
    (hclean : ∀ predicate ∈ predicates, g.Clean predicate) :
    g.dialect.lex (g.printAll predicates) = some (g.tokensAll predicates) := by
  rw [Dialect.lex, scan_printAll hne h hclean, Option.bind_some]
  exact resolve_wordsAll hne h hclean

/-! ## What becomes these tokens is clean -/

/-- The tokens of a predicate stand among those of all. -/
theorem tokensAll_split {predicates : List Predicate} (hmem : predicate ∈ predicates) :
    ∃ front behind, g.tokensAll predicates = front ++ (g.tokens predicate ++ behind) := by
  induction predicates with
  | nil => exact absurd hmem List.not_mem_nil
  | cons first predicates ih =>
      by_cases hnil : predicates = []
      · rw [hnil] at hmem ⊢
        rw [List.mem_singleton.mp hmem, tokensAll_singleton]
        exact ⟨[], [], (List.append_nil _).symm⟩
      · rw [tokensAll_cons hnil]
        rcases List.mem_cons.mp hmem with rfl | hrest
        · exact ⟨[], _, rfl⟩
        · rcases ih hrest with ⟨front, behind, heq⟩
          refine ⟨g.tokens first ++ (tokensOf joint ++ front), behind, ?_⟩
          rw [heq]
          simp only [List.append_assoc]

/-- The name of a predicate, with what stands behind it. -/
theorem tokens_split (h : g.Sayable predicate) :
    ∃ front behind, g.tokens predicate = front ++ .identifier predicate.field.toList :: behind ∧
      (g.dialect.plainIdentifiers = true → ∀ more,
        spelled (behind ++ more) = firstWord predicate.operator) := by
  rcases form_of_sayable h with ⟨form, hform, hoperator, _, _, _, htokens⟩
  rw [htokens]
  by_cases hplain : g.dialect.plainIdentifiers = true
  · have hleads := (g.fits form hform).2.2.2.2 hplain
    rcases leads_parts (g.fits form hform).1 hleads predicate.field.toList predicate.literal with
      ⟨rest, hparts, _, hspelled⟩
    refine ⟨[], tokensOf rest, ?_, fun _ more => ?_⟩
    · rw [Form.tokens, hparts]
      rfl
    · rw [spelled_append (hspelled ▸ hleads.2.2.1), hspelled, hoperator]
  · have hname := name_mem_tokens hform predicate.field.toList predicate.literal
    rcases List.append_of_mem hname with ⟨front, behind, heq⟩
    exact ⟨front, behind, heq, fun hsome => absurd hsome hplain⟩

/-- What has become all tokens was clean. -/
theorem clean_of_resolve {predicates : List Predicate} {words : List Token}
    (h : ∀ predicate ∈ predicates, g.Sayable predicate)
    (hresolve : g.dialect.resolve true words = some (g.tokensAll predicates))
    (hclean : ∀ token ∈ words, g.dialect.Clean token) :
    ∀ predicate ∈ predicates, g.Clean predicate := by
  intro predicate hpredicate
  rcases tokensAll_split (g := g) hpredicate with ⟨front, behind, heq⟩
  refine ⟨?_, fun value hvalue => ?_⟩
  · rcases tokens_split (h predicate hpredicate) with ⟨before, rest, htokens, hspelled⟩
    have hsplit : g.tokensAll predicates =
        (front ++ before) ++ .identifier predicate.field.toList :: (rest ++ behind) := by
      rw [heq, htokens]
      simp only [List.append_assoc, List.cons_append]
    have hname := Dialect.cleanName_of_resolve hresolve hclean hsplit
    unfold Dialect.CleanName at hname ⊢
    cases hnames : g.dialect.plainNames with
    | none =>
        rw [hnames] at hname
        exact hname
    | some isName =>
        have hplain := Dialect.plainIdentifiers_of_some hnames
        rw [hnames, hspelled hplain behind] at hname
        exact hname
  · rcases form_of_sayable (h predicate hpredicate) with ⟨form, hform, _, hhas, _, _, htokens⟩
    have hsome : predicate.value = some value := hvalue
    have hliteral : predicate.literal = value.toList := by rw [Predicate.literal, hsome]; rfl
    refine Dialect.cleanText_of_resolve hresolve hclean ?_
    rw [heq, htokens, ← hliteral]
    exact List.mem_append_right _ (List.mem_append_left _
      (value_mem_tokens (by rw [hhas, hsome]; rfl) _ _))

/-! ## Reading undoes writing -/

/-- The text of clean predicates is not empty. -/
theorem printAll_ne_nil {predicates : List Predicate} (hne : predicates ≠ [])
    (h : ∀ predicate ∈ predicates, g.Sayable predicate)
    (hclean : ∀ predicate ∈ predicates, g.Clean predicate) : g.printAll predicates ≠ [] := by
  intro hnil
  have hlex := lex_printAll hne h hclean
  rw [hnil] at hlex
  have hempty : [] = g.tokensAll predicates := Option.some.inj hlex
  -- No token at all would be no name, and every predicate has one.
  rcases List.exists_mem_of_ne_nil predicates hne with ⟨predicate, hpredicate⟩
  rcases tokensAll_split (g := g) hpredicate with ⟨front, behind, heq⟩
  rcases tokens_split (h predicate hpredicate) with ⟨before, rest, htokens, _⟩
  rw [← hempty, htokens] at heq
  have hlength := congrArg List.length heq
  simp at hlength

/-- What is read as the predicates weighs as much as what is written for them. -/
theorem weight_le_of_parse {predicates : List Predicate} (hne : predicates ≠ [])
    (h : ∀ predicate ∈ predicates, g.Sayable predicate) {text : List Char}
    (hparse : g.parse text = some predicates) : weight (g.printAll predicates) ≤ weight text := by
  rw [weight_printAll]
  exact Dialect.lex_weight ((parse_eq_some_iff hne h).mp hparse).1

/-- Reading undoes writing exactly when every name and every literal is clean, and the
    last predicate is not read in another way. -/
theorem parse_printAll_iff {predicates : List Predicate} (hne : predicates ≠ [])
    (h : ∀ predicate ∈ predicates, g.Sayable predicate) :
    g.parse (g.printAll predicates) = some predicates ↔
      (∀ predicate ∈ predicates, g.Clean predicate) ∧ g.endsMisread predicates = false := by
  rw [parse_eq_some_iff hne h]
  refine and_congr_left (fun _ => ⟨fun hlex => ?_, lex_printAll hne h⟩)
  rcases Dialect.clean_of_lex hlex (le_of_eq (weight_printAll predicates)) with
    ⟨words, hresolve, hclean⟩
  exact clean_of_resolve h hresolve hclean

end Grammar

end Sql

end SyncMaster
