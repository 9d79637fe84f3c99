import Mathlib.Data.List.Chain
import Mathlib.Algebra.BigOperators.Group.List.Basic
import Mathlib.Algebra.GroupWithZero.Nat

/-!
# The Tokens of a Condition

The lexer of a dialect of SQL, as far as conditions need it: identifiers,
literals in single quotes, keywords and operators. A quote inside quotes is
written twice. Some dialects have escapes with a backslash, which stand for
another character or are kept as they are. Some refuse what is too long for a
name, or cut it off.

A word without quotes is a keyword. In a dialect that has names without quotes it
is a name where a predicate begins, even if it is spelled like a keyword. So words
are read first, and what they stand for is decided in a second pass.

A program that puts a name between quotes as it is, has to hope that the lexer
reads the name back. It does when the name is *clean*: no quote is in it, no
backslash that would not be kept and nothing that would be cut off.

That it does not otherwise is shown by weight. The weight of a text is the
number of its characters that are not blank. What the lexer reads never weighs
more than the text, and each quote that was written twice and each escape that
was replaced makes it weigh less. So when nothing is lost, every token is
clean. This needs no look at where a quote that is not clean ends up. Blanks that
are cut off weigh nothing, but what is left of such a name is clean by itself.

## Main definitions

* `Escapes`, `Limit`, `Dialect`: What dialects differ in.
* `Token`, `Mode`: What the lexer makes, and what it is in the middle of.
* `Dialect.step`, `Dialect.scan`: One character, and a text.
* `Dialect.resolve`, `Dialect.lex`: What words stand for, and both passes.
* `Dialect.Stepped`: What a step can do.
* `Dialect.CleanName`, `Dialect.CleanText`: What is read back as it is.
* `weight`, `Dialect.total`: The weight of a text and of tokens.

## Theorems

* `step_cases`: The inversion of a step.
* `scan_weight`: Tokens never weigh more than the text.
* `clean_of_lex`: Where they weigh the same, they stand for clean ones.
* `cleanName_of_resolve`: A name that stands for a clean word is clean.
* `scan_word`, `scan_symbols`, `scan_quoted`: Clean text is read back.
-/

namespace SyncMaster

namespace Sql

/-! ## Characters -/

def isBlank (c : Char) : Bool :=
  c == ' ' || c == '\t' || c == '\n' || c == '\r' || c == '\x0c'

def isWordChar (c : Char) : Bool :=
  c.isAlphanum || c == '_'

def isSymbol (c : Char) : Bool :=
  c == '=' || c == '!' || c == '<' || c == '>' || c == '~'

def isPunctuation (c : Char) : Bool :=
  c == '(' || c == ')' || c == ','

theorem isBlank_iff {c : Char} :
    isBlank c = true ↔ c = ' ' ∨ c = '\t' ∨ c = '\n' ∨ c = '\r' ∨ c = '\x0c' := by
  simp [isBlank, or_assoc]

theorem isSymbol_iff {c : Char} :
    isSymbol c = true ↔ c = '=' ∨ c = '!' ∨ c = '<' ∨ c = '>' ∨ c = '~' := by
  simp [isSymbol, or_assoc]

theorem isPunctuation_iff {c : Char} :
    isPunctuation c = true ↔ c = '(' ∨ c = ')' ∨ c = ',' := by
  simp [isPunctuation, or_assoc]

theorem not_isBlank_of_isWordChar {c : Char} (h : isWordChar c = true) : ¬ isBlank c = true := by
  intro hblank
  rcases isBlank_iff.mp hblank with rfl | rfl | rfl | rfl | rfl <;> exact absurd h (by decide)

def upper (text : List Char) : List Char :=
  text.map Char.toUpper

theorem isBlank_of_le_toNat {c : Char} (h : 65 ≤ c.toNat) : isBlank c = false := by
  refine Bool.eq_false_iff.mpr (fun hblank => ?_)
  rcases isBlank_iff.mp hblank with rfl | rfl | rfl | rfl | rfl <;> exact absurd h (by decide)

theorem isBlank_toUpper (c : Char) : isBlank c.toUpper = isBlank c := by
  have hdef : c.toUpper = if h : 'a'.val ≤ c.val ∧ c.val ≤ 'z'.val then _ else c := rfl
  by_cases hlower : 'a'.val ≤ c.val ∧ c.val ≤ 'z'.val
  · -- Neither a small letter nor its capital is blank.
    have hlow := UInt32.le_iff_toNat_le.mp hlower.1
    have hhigh := UInt32.le_iff_toNat_le.mp hlower.2
    have ha : 'a'.val.toNat = 97 := rfl
    have hz : 'z'.val.toNat = 122 := rfl
    have hdown : ('A'.val - 'a'.val).toNat = 2 ^ 32 - 32 := rfl
    have hupper : 65 ≤ c.toUpper.toNat := by
      rw [hdef, dif_pos hlower, Char.toNat, UInt32.toNat_add]
      omega
    have hsmall : 65 ≤ c.toNat := by
      rw [Char.toNat]
      omega
    rw [isBlank_of_le_toNat hupper, isBlank_of_le_toNat hsmall]
  · rw [hdef, dif_neg hlower]

/-- The number of characters that are not blank. -/
def weight (text : List Char) : Nat :=
  text.countP (fun c => !isBlank c)

/-! ## Dialects -/

/-- The escapes of a dialect. A backslash is kept before some characters. With any
    other it is replaced, which may take more characters of what is behind. -/
structure Escapes where
  keeps : Char → Bool
  replace : Char → List Char → List Char × Nat
  weight_replace : ∀ c text, keeps c = false → weight (replace c text).1 ≤ weight [c]

/-- What a dialect takes the characters between quotes for. It may refuse them, or
    leave some out at the end. -/
structure Limit where
  taken : List Char → Option (List Char)
  shortens : ∀ text short, taken text = some short → short <+: text
  stable : ∀ text short, taken text = some short → taken short = some short

inductive Kind where
  | identifier | literal
  deriving DecidableEq, Repr

structure Dialect where
  identifierQuote : Char
  escapes : Kind → Option Escapes
  limit : Kind → Limit
  /-- The words of the grammar, in upper case. -/
  keywords : List (List Char)
  /-- Which words are names without quotes where a predicate begins, if any are. It
      may depend on how the next token is spelled. -/
  plainNames : Option (List Char → List Char → Bool)
  quote_eq : identifierQuote = '"' ∨ identifierQuote = '`'
  /-- Nothing is left out where a backslash could be left at the end. -/
  limit_of_escapes : ∀ kind, escapes kind = none ∨
    ∀ text short, (limit kind).taken text = some short → short = text

/-- A word is a name or a keyword, which its place tells. -/
inductive Token where
  | word (text : List Char)
  | identifier (name : List Char)
  | literal (value : List Char)
  | keyword (text : List Char)
  deriving DecidableEq, Repr

namespace Token

/-- How a word or a keyword is spelled. -/
def spelling : Token → List Char
  | .word text => upper text
  | .keyword text => text
  | .identifier _ | .literal _ => []

end Token

/-- How the first of the tokens is spelled. -/
def spelled (tokens : List Token) : List Char :=
  (tokens.head?.map Token.spelling).getD []

/-- The word that joins predicates. -/
def conjunction : List Char :=
  ['A', 'N', 'D']

/-- What the lexer is in the middle of. Inside quotes it may have characters to
    skip, which it has looked at before. -/
inductive Mode where
  | between
  | word (read : List Char)
  | symbol (read : List Char)
  | quoted (kind : Kind) (skip : Nat) (read : List Char)
  deriving DecidableEq, Repr

namespace Dialect

variable (d : Dialect)

def quote : Kind → Char
  | .identifier => d.identifierQuote
  | .literal => '\''

/-- Whether names may do without quotes. -/
def plainIdentifiers : Bool :=
  d.plainNames.isSome

theorem plainIdentifiers_of_some {d : Dialect} {isName : List Char → List Char → Bool}
    (h : d.plainNames = some isName) : d.plainIdentifiers = true := by
  rw [plainIdentifiers, h]
  rfl

theorem plainIdentifiers_of_none {d : Dialect} (h : d.plainNames = none) :
    d.plainIdentifiers = false := by
  rw [plainIdentifiers, h]
  rfl

/-! ## The lexer -/

/-- The first character of something. -/
def start (c : Char) : Option (List Token × Mode) :=
  if isBlank c then some ([], .between)
  else if isWordChar c then some ([], .word [c])
  else if isSymbol c then some ([], .symbol [c])
  else if isPunctuation c then some ([.keyword [c]], .between)
  else if c = d.quote .literal then some ([], .quoted .literal 0 [])
  else if c = d.quote .identifier then some ([], .quoted .identifier 0 [])
  else none

def token : Kind → List Char → Token
  | .identifier => .identifier
  | .literal => .literal

/-- What is between quotes. -/
def close (kind : Kind) (read : List Char) : Option Token :=
  ((d.limit kind).taken read).map (token kind)

/-- What a backslash and the characters behind it are replaced by, if they are. -/
def replacement (kind : Kind) (c : Char) (text : List Char) : Option (List Char × Nat) :=
  if c = '\\' then
    match d.escapes kind, text with
    | some escapes, next :: rest =>
        if escapes.keeps next then none else some (escapes.replace next rest)
    | _, _ => none
  else none

/-- One character, with what comes behind it. -/
def step : Mode → Char → List Char → Option (List Token × Mode)
  | .between, c, _ => d.start c
  | .word read, c, _ =>
      if isWordChar c then some ([], .word (read ++ [c]))
      else (d.start c).map (fun next => (.word read :: next.1, next.2))
  | .symbol read, c, _ =>
      if isSymbol c then some ([], .symbol (read ++ [c]))
      else (d.start c).map (fun next => (.keyword read :: next.1, next.2))
  | .quoted kind (skip + 1) read, _, _ => some ([], .quoted kind skip read)
  | .quoted kind 0 read, c, text =>
      if c = d.quote kind then
        if text.head? = some c then some ([], .quoted kind 1 (read ++ [c]))
        else (d.close kind read).map (fun token => ([token], .between))
      else match d.replacement kind c text with
        | some (characters, skip) => some ([], .quoted kind (skip + 1) (read ++ characters))
        | none => some ([], .quoted kind 0 (read ++ [c]))

/-- The end of the text. -/
def finish : Mode → Option (List Token)
  | .between => some []
  | .word read => some [.word read]
  | .symbol read => some [.keyword read]
  | .quoted _ _ _ => none

def scan : Mode → List Char → Option (List Token)
  | mode, [] => finish mode
  | mode, c :: text =>
      (d.step mode c text).bind (fun next => (scan next.2 text).map (next.1 ++ ·))

/-! ## Words -/

/-- What a token stands for, where a predicate begins or elsewhere. Keywords may be
    written in either case. -/
def resolveToken (begins : Bool) (token : Token) (behind : List Token) : Option Token :=
  match token with
  | .word word =>
      match d.plainNames, begins with
      | some isName, true => if isName word (spelled behind) then some (.identifier word) else none
      | _, _ => if upper word ∈ d.keywords then some (.keyword (upper word)) else none
  | _ => some token

def resolve : Bool → List Token → Option (List Token)
  | _, [] => some []
  | begins, token :: behind =>
      (d.resolveToken begins token behind).bind (fun first =>
        (resolve (decide (first = .keyword conjunction)) behind).map (first :: ·))

/-- The tokens of a text. -/
def lex (text : List Char) : Option (List Token) :=
  (d.scan .between text).bind (d.resolve true)

/-! ## What is read back as it is -/

/-- A word. -/
def PlainWord (text : List Char) : Prop :=
  text ≠ [] ∧ ∀ c ∈ text, isWordChar c = true

instance (text : List Char) : Decidable (PlainWord text) :=
  decidable_of_iff (text ≠ [] ∧ text.all isWordChar = true)
    (and_congr_right (fun _ => List.all_eq_true))

/-- Every backslash is one that is kept. -/
def Kept (kind : Kind) (text : List Char) : Prop :=
  ∀ escapes ∈ d.escapes kind, text.IsChain (fun a b => a = '\\' → escapes.keeps b = true)

/-- The text has no quote of its own, and no backslash that is replaced, not even
    together with the closing quote. -/
def Verbatim (kind : Kind) (text : List Char) : Prop :=
  d.quote kind ∉ text ∧ d.Kept kind (text ++ [d.quote kind])

/-- And the dialect takes it for what it is. -/
def CleanText (kind : Kind) (text : List Char) : Prop :=
  d.Verbatim kind text ∧ (d.limit kind).taken text = some text

instance (kind : Kind) (text : List Char) : Decidable (d.Kept kind text) :=
  match h : d.escapes kind with
  | none => isTrue (fun escapes hmem => by rw [h] at hmem; cases hmem)
  | some escapes =>
      decidable_of_iff (text.IsChain (fun a b => a = '\\' → escapes.keeps b = true))
        ⟨fun hchain other hmem => by rw [h] at hmem; cases hmem; exact hchain,
          fun hkept => hkept escapes h⟩

instance (kind : Kind) (text : List Char) : Decidable (d.Verbatim kind text) :=
  inferInstanceAs (Decidable (_ ∧ _))

instance (kind : Kind) (text : List Char) : Decidable (d.CleanText kind text) :=
  inferInstanceAs (Decidable (_ ∧ _))

/-- A name between quotes, or a word where names have no quotes. The next token is
    the one with this spelling. -/
def CleanName (name next : List Char) : Prop :=
  match d.plainNames with
  | some isName => PlainWord name ∧ isName name next = true
  | none => d.CleanText .identifier name

instance (name next : List Char) : Decidable (d.CleanName name next) := by
  unfold CleanName
  split <;> infer_instance

/-- What the lexer makes without a loss. A name without quotes is still a word. -/
def Clean : Token → Prop
  | .word text => PlainWord text
  | .identifier name => d.plainIdentifiers = false ∧ d.CleanText .identifier name
  | .literal value => d.CleanText .literal value
  | .keyword _ => True

/-! ## Weight -/

/-- The weight of a token, with the quotes it is to have. -/
def tokenWeight : Token → Nat
  | .identifier name => weight name + if d.plainIdentifiers then 0 else 2
  | .literal value => weight value + 2
  | .word text | .keyword text => weight text

def total (tokens : List Token) : Nat :=
  (tokens.map d.tokenWeight).sum

/-- The weight of what has been read already. -/
def modeWeight : Mode → Nat
  | .between => 0
  | .word read | .symbol read => weight read
  | .quoted _ _ read => weight read + 1

end Dialect

theorem weight_cons (c : Char) (text : List Char) :
    weight (c :: text) = weight [c] + weight text := by
  unfold weight
  rw [List.countP_cons, List.countP_singleton, Nat.add_comm]

theorem weight_append (front text : List Char) :
    weight (front ++ text) = weight front + weight text :=
  List.countP_append

theorem weight_singleton (c : Char) : weight [c] = if isBlank c then 0 else 1 := by
  unfold weight
  rw [List.countP_singleton]
  by_cases hblank : isBlank c = true
  · simp [hblank]
  · simp [hblank]

theorem weight_upper (text : List Char) : weight (upper text) = weight text := by
  unfold weight upper
  rw [List.countP_map]
  refine List.countP_congr (fun c _ => ?_)
  rw [Function.comp_apply, isBlank_toUpper]

theorem weight_singleton_le (c : Char) : weight [c] ≤ 1 := by
  rw [weight_singleton]
  split <;> omega

namespace Dialect

variable {d : Dialect}

theorem weight_quote (kind : Kind) : weight [d.quote kind] = 1 := by
  cases kind with
  | literal => rfl
  | identifier =>
      have hquote : d.quote .identifier = '"' ∨ d.quote .identifier = '`' := d.quote_eq
      rcases hquote with h | h
      · rw [h]
        rfl
      · rw [h]
        rfl

theorem total_append (front tokens : List Token) :
    d.total (front ++ tokens) = d.total front + d.total tokens := by
  unfold total
  rw [List.map_append, List.sum_append]

theorem total_cons (token : Token) (tokens : List Token) :
    d.total (token :: tokens) = d.tokenWeight token + d.total tokens := by
  unfold total
  rw [List.map_cons, List.sum_cons]

/-- What the first character of something can be. -/
theorem start_cases {c : Char} {tokens : List Token} {mode : Mode}
    (h : d.start c = some (tokens, mode)) :
    (isBlank c = true ∧ tokens = [] ∧ mode = .between) ∨
      (isWordChar c = true ∧ tokens = [] ∧ mode = .word [c]) ∨
      (tokens = [] ∧ mode = .symbol [c]) ∨
      (tokens = [.keyword [c]] ∧ mode = .between) ∨
      ∃ kind, c = d.quote kind ∧ tokens = [] ∧ mode = .quoted kind 0 [] := by
  -- The branches of `start`, in its order; the last one takes no other character.
  unfold start at h
  by_cases hblank : isBlank c = true
  · rw [if_pos hblank] at h
    cases h
    exact Or.inl ⟨hblank, rfl, rfl⟩
  rw [if_neg hblank] at h
  by_cases hword : isWordChar c = true
  · rw [if_pos hword] at h
    cases h
    exact Or.inr (Or.inl ⟨hword, rfl, rfl⟩)
  rw [if_neg hword] at h
  by_cases hsymbol : isSymbol c = true
  · rw [if_pos hsymbol] at h
    cases h
    exact Or.inr (Or.inr (Or.inl ⟨rfl, rfl⟩))
  rw [if_neg hsymbol] at h
  by_cases hpunctuation : isPunctuation c = true
  · rw [if_pos hpunctuation] at h
    cases h
    exact Or.inr (Or.inr (Or.inr (Or.inl ⟨rfl, rfl⟩)))
  rw [if_neg hpunctuation] at h
  by_cases hliteral : c = d.quote .literal
  · rw [if_pos hliteral] at h
    cases h
    exact Or.inr (Or.inr (Or.inr (Or.inr ⟨.literal, hliteral, rfl, rfl⟩)))
  rw [if_neg hliteral] at h
  by_cases hidentifier : c = d.quote .identifier
  · rw [if_pos hidentifier] at h
    cases h
    exact Or.inr (Or.inr (Or.inr (Or.inr ⟨.identifier, hidentifier, rfl, rfl⟩)))
  · rw [if_neg hidentifier] at h
    cases h

theorem start_weight {c : Char} {tokens : List Token} {mode : Mode}
    (h : d.start c = some (tokens, mode)) : d.total tokens + modeWeight mode = weight [c] := by
  rcases start_cases h with
    ⟨hblank, rfl, rfl⟩ | ⟨_, rfl, rfl⟩ | ⟨rfl, rfl⟩ | ⟨rfl, rfl⟩ | ⟨kind, rfl, rfl, rfl⟩
  · rw [weight_singleton, if_pos hblank]
    rfl
  · exact Nat.zero_add _
  · exact Nat.zero_add _
  · rfl
  · rw [weight_quote]
    rfl

theorem weight_taken {kind : Kind} {read short : List Char}
    (h : (d.limit kind).taken read = some short) : weight short ≤ weight read :=
  ((d.limit kind).shortens read short h).sublist.countP_le

theorem close_weight {kind : Kind} {read : List Char} {token : Token}
    (h : d.close kind read = some token) : d.tokenWeight token ≤ weight read + 2 := by
  rcases Option.map_eq_some_iff.mp h with ⟨short, htaken, rfl⟩
  have hle := weight_taken htaken
  cases kind with
  | literal => exact Nat.add_le_add_right hle 2
  | identifier =>
      have htoken : d.tokenWeight (Dialect.token .identifier short) =
          weight short + if d.plainIdentifiers then 0 else 2 := rfl
      rw [htoken]
      split <;> omega

theorem replacement_eq_some {kind : Kind} {c : Char} {text characters : List Char} {skip : Nat}
    (h : d.replacement kind c text = some (characters, skip)) :
    c = '\\' ∧ ∃ escapes ∈ d.escapes kind, ∃ next rest, text = next :: rest ∧
      escapes.keeps next = false ∧ escapes.replace next rest = (characters, skip) := by
  unfold replacement at h
  by_cases hc : c = '\\'
  · rw [if_pos hc] at h
    cases hescapes : d.escapes kind with
    | none =>
        rw [hescapes] at h
        cases h
    | some escapes =>
        cases text with
        | nil =>
            rw [hescapes] at h
            cases h
        | cons next rest =>
            simp only [hescapes] at h
            by_cases hkeeps : escapes.keeps next = true
            · rw [if_pos hkeeps] at h
              cases h
            · rw [if_neg hkeeps] at h
              exact ⟨hc, escapes, rfl, next, rest, rfl, Bool.not_eq_true _ ▸ hkeeps,
                Option.some.inj h⟩
  · rw [if_neg hc] at h
    cases h

/-! ## What a step can do -/

/-- The steps of the lexer, with what comes behind the character. -/
inductive Stepped (d : Dialect) (c : Char) (text : List Char) : Mode → List Token → Mode → Prop where
  | ends {mode mode' : Mode} (front : List Token) {tokens : List Token} :
      finish mode = some front → d.start c = some (tokens, mode') →
      Stepped d c text mode (front ++ tokens) mode'
  | word {read : List Char} : isWordChar c = true →
      Stepped d c text (.word read) [] (.word (read ++ [c]))
  | symbol {read : List Char} : isSymbol c = true →
      Stepped d c text (.symbol read) [] (.symbol (read ++ [c]))
  | skips {kind : Kind} {skip : Nat} {read : List Char} :
      Stepped d c text (.quoted kind (skip + 1) read) [] (.quoted kind skip read)
  | doubles {kind : Kind} {read : List Char} : c = d.quote kind → text.head? = some c →
      Stepped d c text (.quoted kind 0 read) [] (.quoted kind 1 (read ++ [c]))
  | closes {kind : Kind} {read : List Char} {token : Token} : c = d.quote kind →
      d.close kind read = some token → Stepped d c text (.quoted kind 0 read) [token] .between
  | replaces {kind : Kind} {read characters : List Char} {skip : Nat} :
      d.replacement kind c text = some (characters, skip) →
      Stepped d c text (.quoted kind 0 read) [] (.quoted kind (skip + 1) (read ++ characters))
  | reads {kind : Kind} {read : List Char} : c ≠ d.quote kind →
      d.replacement kind c text = none →
      Stepped d c text (.quoted kind 0 read) [] (.quoted kind 0 (read ++ [c]))

/-- The inversion of a step. -/
theorem step_cases {mode mode' : Mode} {c : Char} {text : List Char} {tokens : List Token}
    (h : d.step mode c text = some (tokens, mode')) : Stepped d c text mode tokens mode' := by
  cases mode with
  | between => exact .ends [] rfl h
  | word read =>
      rw [step] at h
      by_cases hc : isWordChar c = true
      · rw [if_pos hc] at h
        cases h
        -- Another character ends the word, and starts what comes next.
        exact .word hc
      · rw [if_neg hc] at h
        rcases Option.map_eq_some_iff.mp h with ⟨⟨rest, next⟩, hstart, hnext⟩
        cases hnext
        exact .ends [.word read] rfl hstart
  | symbol read =>
      rw [step] at h
      by_cases hc : isSymbol c = true
      · rw [if_pos hc] at h
        cases h
        exact .symbol hc
      · rw [if_neg hc] at h
        rcases Option.map_eq_some_iff.mp h with ⟨⟨rest, next⟩, hstart, hnext⟩
        cases hnext
        exact .ends [.keyword read] rfl hstart
  | quoted kind skip read =>
      cases skip with
      | succ skip =>
          cases h
          exact .skips
      | zero =>
          rw [step] at h
          by_cases hc : c = d.quote kind
          -- A quote is read once where it is doubled, and else it closes.
          · rw [if_pos hc] at h
            by_cases htwice : text.head? = some c
            · rw [if_pos htwice] at h
              cases h
              exact .doubles hc htwice
            · rw [if_neg htwice] at h
              rcases Option.map_eq_some_iff.mp h with ⟨token, htoken, hnext⟩
              cases hnext
              exact .closes hc htoken
          · rw [if_neg hc] at h
            cases hreplacement : d.replacement kind c text with
            | none =>
                rw [hreplacement] at h
                cases h
                exact .reads hc hreplacement
            | some replaced =>
                rcases replaced with ⟨characters, skip⟩
                rw [hreplacement] at h
                cases h
                exact .replaces hreplacement

theorem finish_weight {mode : Mode} {tokens : List Token} (h : finish mode = some tokens) :
    d.total tokens = modeWeight mode := by
  cases mode with
  | between =>
      cases h
      rfl
  | word read =>
      cases h
      rfl
  | symbol read =>
      cases h
      rfl
  | quoted kind skip read => cases h

/-- A backslash and what is behind it are replaced by less. -/
theorem replacement_weight {kind : Kind} {c : Char} {text characters : List Char} {skip : Nat}
    (h : d.replacement kind c text = some (characters, skip)) :
    weight [c] = 1 ∧ ∃ next behind, text = next :: behind ∧ weight characters ≤ weight [next] := by
  rcases replacement_eq_some h with ⟨rfl, escapes, _, next, behind, rfl, hkeeps, hreplace⟩
  have hle := escapes.weight_replace next behind hkeeps
  rw [hreplace] at hle
  exact ⟨rfl, next, behind, rfl, hle⟩

/-- A step adds no weight to what is read. -/
theorem step_weight {mode mode' : Mode} {c : Char} {text : List Char} {tokens : List Token}
    (h : d.step mode c text = some (tokens, mode')) :
    d.total tokens + modeWeight mode' ≤ modeWeight mode + weight [c] := by
  have hnil : d.total [] = 0 := rfl
  cases step_cases h with
  | ends front hfinish hstart =>
      have hfront := finish_weight (d := d) hfinish
      have hrest := start_weight hstart
      rw [total_append]
      omega
  | word hc =>
      rw [hnil, modeWeight, modeWeight, weight_append]
      omega
  | symbol hc =>
      rw [hnil, modeWeight, modeWeight, weight_append]
      omega
  | skips =>
      rw [hnil, modeWeight, modeWeight]
      omega
  | doubles hc htwice =>
      rw [hnil, modeWeight, modeWeight, weight_append]
      omega
  | closes hc htoken =>
      have hclose := close_weight htoken
      have hone : weight [c] = 1 := by rw [hc, weight_quote]
      rw [total_cons, hnil, modeWeight, modeWeight, hone]
      omega
  | replaces hreplacement =>
      -- What is read instead weighs no more than the character behind the backslash.
      rcases replacement_weight hreplacement with ⟨hone, next, behind, _, hle⟩
      have hnext := weight_singleton_le next
      rw [hnil, modeWeight, modeWeight, weight_append, hone]
      omega
  | reads hc hreplacement =>
      rw [hnil, modeWeight, modeWeight, weight_append]
      omega

theorem scan_cons {mode : Mode} {c : Char} {text : List Char} {tokens : List Token} :
    d.scan mode (c :: text) = some tokens ↔ ∃ first mode' rest, d.step mode c text = some (first, mode') ∧
      d.scan mode' text = some rest ∧ first ++ rest = tokens := by
  rw [scan, Option.bind_eq_some_iff]
  constructor
  · intro h
    rcases h with ⟨⟨first, mode'⟩, hstep, hmap⟩
    rcases Option.map_eq_some_iff.mp hmap with ⟨rest, hrest, happend⟩
    exact ⟨first, mode', rest, hstep, hrest, happend⟩
  · intro h
    rcases h with ⟨first, mode', rest, hstep, hrest, happend⟩
    exact ⟨(first, mode'), hstep, Option.map_eq_some_iff.mpr ⟨rest, hrest, happend⟩⟩

/-- What is read never weighs more than the text. -/
theorem scan_weight {mode : Mode} {text : List Char} {tokens : List Token}
    (h : d.scan mode text = some tokens) : d.total tokens ≤ modeWeight mode + weight text := by
  induction text generalizing mode tokens with
  | nil => exact le_of_eq_of_le (finish_weight h) (Nat.le_add_right _ _)
  | cons c text ih =>
      rcases scan_cons.mp h with ⟨first, mode', rest, hstep, hrest, rfl⟩
      have hfirst := step_weight hstep
      have hnext := ih hrest
      rw [total_append, weight_cons]
      omega

/-! ## Nothing is lost -/

/-- What has been read between quotes is clean so far. The next character may be
    needed to tell. -/
def SoFar (d : Dialect) (mode : Mode) (text : List Char) : Prop :=
  match mode with
  | .between | .symbol _ => True
  | .word read => PlainWord read
  | .quoted _ (_ + 1) _ => False
  | .quoted kind 0 read => d.quote kind ∉ read ∧ d.Kept kind (read ++ text.take 1)

theorem kept_snoc {kind : Kind} {read text : List Char} {c : Char}
    (h : d.Kept kind (read ++ [c]))
    (hnext : ∀ escapes ∈ d.escapes kind, c = '\\' → ∀ next ∈ text.head?, escapes.keeps next = true) :
    d.Kept kind (read ++ [c] ++ text.take 1) := by
  intro escapes hescapes
  refine List.isChain_append.mpr ⟨h escapes hescapes, ?_, ?_⟩
  · cases text with
    | nil => exact List.isChain_nil
    | cons next rest => exact List.isChain_singleton _
  · intro a ha b hb hbackslash
    rw [List.getLast?_append, List.getLast?_singleton, Option.some_or] at ha
    have hc : c = a := Option.mem_some_iff.mp ha
    subst hc
    refine hnext escapes hescapes hbackslash b ?_
    cases text with
    | nil => cases hb
    | cons next rest => exact hb

theorem start_clean {c : Char} {tokens : List Token} {mode : Mode} (text : List Char)
    (h : d.start c = some (tokens, mode)) :
    (∀ token ∈ tokens, d.Clean token) ∧ SoFar d mode text := by
  have hnone : ∀ token ∈ ([] : List Token), d.Clean token := List.forall_mem_nil _
  rcases start_cases h with
    ⟨_, rfl, rfl⟩ | ⟨hword, rfl, rfl⟩ | ⟨rfl, rfl⟩ | ⟨rfl, rfl⟩ | ⟨kind, rfl, rfl, rfl⟩
  · exact ⟨hnone, trivial⟩
  · exact ⟨hnone, List.cons_ne_nil _ _, List.forall_mem_singleton.mpr hword⟩
  · exact ⟨hnone, trivial⟩
  · exact ⟨List.forall_mem_singleton.mpr trivial, trivial⟩
  · -- Behind an opening quote there is at most one character to look at.
    refine ⟨hnone, List.not_mem_nil, fun escapes _ => ?_⟩
    cases text with
    | nil => exact List.isChain_nil
    | cons next rest => exact List.isChain_singleton _

/-- A text that is left of a verbatim one is verbatim. -/
theorem verbatim_of_taken {kind : Kind} {read short : List Char} (hread : d.Verbatim kind read)
    (h : (d.limit kind).taken read = some short) : d.Verbatim kind short := by
  refine ⟨fun hmem => hread.1 (((d.limit kind).shortens read short h).subset hmem), ?_⟩
  intro escapes hescapes
  rcases d.limit_of_escapes kind with hnone | hsame
  · have hsome : d.escapes kind = some escapes := hescapes
    rw [hnone] at hsome
    cases hsome
  · rw [hsame read short h]
    exact hread.2 escapes hescapes

/-- What is between quotes is clean, if the token has all of its weight. -/
theorem close_clean {kind : Kind} {read : List Char} {token : Token}
    (hread : d.Verbatim kind read) (h : d.close kind read = some token)
    (hweight : weight read + 2 ≤ d.tokenWeight token) : d.Clean token := by
  rcases Option.map_eq_some_iff.mp h with ⟨short, htaken, rfl⟩
  have hclean : d.CleanText kind short :=
    ⟨verbatim_of_taken hread htaken, (d.limit kind).stable read short htaken⟩
  cases kind with
  | literal => exact hclean
  | identifier =>
      refine ⟨Bool.eq_false_iff.mpr (fun hplain => ?_), hclean⟩
      -- A name that could do without its quotes would be lighter by two.
      have hle := weight_taken htaken
      have htoken : d.tokenWeight (Dialect.token .identifier short) = weight short + 0 := by
        rw [Dialect.token, tokenWeight, if_pos hplain]
      omega

theorem keeps_of_replacement_eq_none {kind : Kind} {c : Char} {text : List Char}
    (h : d.replacement kind c text = none) :
    ∀ escapes ∈ d.escapes kind, c = '\\' → ∀ next ∈ text.head?, escapes.keeps next = true := by
  intro escapes hescapes hc next hnext
  cases text with
  | nil => cases hnext
  | cons first rest =>
      cases hnext
      have hsome : d.escapes kind = some escapes := hescapes
      unfold replacement at h
      rw [if_pos hc, hsome] at h
      by_contra hkeeps
      exact absurd ((if_neg hkeeps).symm.trans h) (Option.some_ne_none _)

theorem finish_clean {mode : Mode} {text : List Char} {tokens : List Token}
    (h : finish mode = some tokens) (hmode : SoFar d mode text) :
    ∀ token ∈ tokens, d.Clean token := by
  cases mode with
  | between =>
      cases h
      exact List.forall_mem_nil _
  | word read =>
      cases h
      exact List.forall_mem_singleton.mpr hmode
  | symbol read =>
      cases h
      exact List.forall_mem_singleton.mpr trivial
  | quoted kind skip read => cases h

/-- A step that loses no weight, and has nothing to skip, keeps what is read clean. -/
theorem step_clean {mode mode' : Mode} {c : Char} {text : List Char} {tokens : List Token}
    (h : d.step mode c text = some (tokens, mode')) (hmode : SoFar d mode (c :: text))
    (hskip : ∀ kind skip read, mode' ≠ .quoted kind (skip + 1) read)
    (hweight : modeWeight mode + weight [c] ≤ d.total tokens + modeWeight mode') :
    (∀ token ∈ tokens, d.Clean token) ∧ SoFar d mode' text := by
  have hnone : ∀ token ∈ ([] : List Token), d.Clean token := List.forall_mem_nil _
  cases step_cases h with
  | ends front hfinish hstart =>
      have hclean := start_clean text hstart
      exact ⟨List.forall_mem_append.mpr ⟨finish_clean hfinish hmode, hclean.1⟩, hclean.2⟩
  | word hc =>
      refine ⟨hnone, List.append_ne_nil_of_right_ne_nil _ (List.cons_ne_nil _ _), ?_⟩
      exact List.forall_mem_append.mpr ⟨hmode.2, List.forall_mem_singleton.mpr hc⟩
  | symbol hc => exact ⟨hnone, trivial⟩
  | skips => exact hmode.elim
  | doubles hc htwice => exact (hskip _ _ _ rfl).elim
  | replaces hreplacement => exact (hskip _ _ _ rfl).elim
  | @closes kind read token hc htoken =>
      -- The chain of what was read goes as far as the quote.
      have hverbatim : d.Verbatim kind read := ⟨hmode.1, hc ▸ hmode.2⟩
      have htotal : weight read + 2 ≤ d.tokenWeight token := by
        have hone : weight [c] = 1 := by rw [hc, weight_quote]
        rw [total_cons, modeWeight, modeWeight, hone] at hweight
        exact hweight
      exact ⟨List.forall_mem_singleton.mpr (close_clean hverbatim htoken htotal), trivial⟩
  | reads hc hreplacement =>
      refine ⟨hnone, fun hmem => ?_, kept_snoc hmode.2 (keeps_of_replacement_eq_none hreplacement)⟩
      rcases List.mem_append.mp hmem with h | h
      · exact hmode.1 h
      · exact hc (List.mem_singleton.mp h).symm

/-- What is skipped has no weight any more. -/
theorem scan_skip_weight {kind : Kind} {skip : Nat} {read text : List Char} {next : Char}
    {tokens : List Token} (h : d.scan (.quoted kind (skip + 1) read) (next :: text) = some tokens) :
    d.total tokens ≤ weight read + 1 + weight text := by
  rcases scan_cons.mp h with ⟨first, mode', rest, hstep, hrest, rfl⟩
  cases hstep
  exact scan_weight hrest

/-- Where there is something to skip, weight is lost. -/
theorem scan_lt_of_skip {mode : Mode} {c : Char} {text : List Char} {first rest : List Token}
    {kind : Kind} {skip : Nat} {read : List Char} (hmode : SoFar d mode (c :: text))
    (hstep : d.step mode c text = some (first, .quoted kind (skip + 1) read))
    (hrest : d.scan (.quoted kind (skip + 1) read) text = some rest) :
    d.total (first ++ rest) < modeWeight mode + weight (c :: text) := by
  cases step_cases hstep with
  | ends front hfinish hstart => exact (start_clean text hstart).2.elim
  | skips => exact hmode.elim
  | doubles hc htwice =>
      -- The second of the two quotes is skipped.
      rcases List.head?_eq_some_iff.mp htwice with ⟨behind, rfl⟩
      have hle := scan_skip_weight hrest
      have hone : weight [c] = 1 := by rw [hc, weight_quote]
      rw [List.nil_append, modeWeight, weight_cons c (c :: behind), weight_cons c behind]
      rw [weight_append] at hle
      omega
  | replaces hreplacement =>
      -- The character behind the backslash is skipped, and weighs no less than what
      -- stands for the two.
      rcases replacement_weight hreplacement with ⟨hone, next, behind, rfl, hreplaced⟩
      have hle := scan_skip_weight hrest
      rw [List.nil_append, modeWeight, weight_cons, weight_cons next]
      rw [weight_append] at hle
      omega

/-- Where the tokens weigh as much as the text, they are clean. -/
theorem clean_of_scan {mode : Mode} {text : List Char} {tokens : List Token}
    (h : d.scan mode text = some tokens) (hmode : SoFar d mode text)
    (hweight : modeWeight mode + weight text ≤ d.total tokens) : ∀ token ∈ tokens, d.Clean token := by
  induction text generalizing mode tokens with
  | nil => exact finish_clean h hmode
  | cons c text ih =>
      rcases scan_cons.mp h with ⟨first, mode', rest, hstep, hrest, rfl⟩
      have hskip : ∀ kind skip read, mode' ≠ .quoted kind (skip + 1) read := by
        intro kind skip read heq
        subst heq
        exact absurd hweight (Nat.not_le_of_lt (scan_lt_of_skip hmode hstep hrest))
      -- No weight is lost in the step, and none behind it.
      have hfirst := step_weight hstep
      have hbehind := scan_weight hrest
      rw [total_append, weight_cons] at hweight
      have hclean := step_clean hstep hmode hskip (by omega)
      exact List.forall_mem_append.mpr ⟨hclean.1, ih hrest hclean.2 (by omega)⟩

/-! ## What words stand for -/

theorem resolve_cons {begins : Bool} {token : Token} {behind tokens : List Token} :
    d.resolve begins (token :: behind) = some tokens ↔
      ∃ first rest, d.resolveToken begins token behind = some first ∧
        d.resolve (decide (first = .keyword conjunction)) behind = some rest ∧
        first :: rest = tokens := by
  rw [resolve, Option.bind_eq_some_iff]
  constructor
  · intro h
    rcases h with ⟨first, hfirst, hmap⟩
    rcases Option.map_eq_some_iff.mp hmap with ⟨rest, hrest, hcons⟩
    exact ⟨first, rest, hfirst, hrest, hcons⟩
  · intro h
    rcases h with ⟨first, rest, hfirst, hrest, hcons⟩
    exact ⟨first, hfirst, Option.map_eq_some_iff.mpr ⟨rest, hrest, hcons⟩⟩

/-- What a token can stand for. -/
inductive Resolved (d : Dialect) (begins : Bool) (behind : List Token) : Token → Token → Prop where
  | name {word : List Char} {isName : List Char → List Char → Bool} : begins = true →
      d.plainNames = some isName → isName word (spelled behind) = true →
      Resolved d begins behind (.word word) (.identifier word)
  | keyword {word : List Char} : upper word ∈ d.keywords →
      Resolved d begins behind (.word word) (.keyword (upper word))
  | same {token : Token} : (∀ word, token ≠ .word word) → Resolved d begins behind token token

theorem resolveToken_cases {begins : Bool} {token first : Token} {behind : List Token}
    (h : d.resolveToken begins token behind = some first) :
    Resolved d begins behind token first := by
  cases token with
  | identifier name =>
      cases h
      exact .same (fun word heq => by cases heq)
  | literal value =>
      cases h
      exact .same (fun word heq => by cases heq)
  | keyword text =>
      cases h
      exact .same (fun word heq => by cases heq)
  | word word =>
      have hkeyword : (if upper word ∈ d.keywords then some (.keyword (upper word)) else none) =
          some first → Resolved d begins behind (.word word) first := by
        intro hword
        by_cases hmem : upper word ∈ d.keywords
        · rw [if_pos hmem] at hword
          cases hword
          exact .keyword hmem
        · rw [if_neg hmem] at hword
          cases hword
      unfold resolveToken at h
      cases hnames : d.plainNames with
      | none =>
          rw [hnames] at h
          exact hkeyword h
      | some isName =>
          rw [hnames] at h
          cases begins with
          | false => exact hkeyword h
          | true =>
              simp only at h
              by_cases hname : isName word (spelled behind) = true
              · rw [if_pos hname] at h
                cases h
                exact .name rfl hnames hname
              · rw [if_neg hname] at h
                cases h

theorem resolveToken_weight {begins : Bool} {token first : Token} {behind : List Token}
    (h : d.resolveToken begins token behind = some first) :
    d.tokenWeight first = d.tokenWeight token := by
  cases resolveToken_cases h with
  | name hbegins hnames hname =>
      rw [tokenWeight, if_pos (plainIdentifiers_of_some hnames)]
      rfl
  | keyword hmem => exact weight_upper _
  | same hword => rfl

/-- Words weigh what they stand for. -/
theorem resolve_weight {begins : Bool} {words tokens : List Token}
    (h : d.resolve begins words = some tokens) : d.total tokens = d.total words := by
  induction words generalizing begins tokens with
  | nil =>
      cases h
      rfl
  | cons token behind ih =>
      rcases resolve_cons.mp h with ⟨first, rest, hfirst, hrest, rfl⟩
      rw [total_cons, total_cons, resolveToken_weight hfirst, ih hrest]

theorem lex_weight {text : List Char} {tokens : List Token} (h : d.lex text = some tokens) :
    d.total tokens ≤ weight text := by
  rcases Option.bind_eq_some_iff.mp h with ⟨words, hscan, hresolve⟩
  rw [resolve_weight hresolve]
  exact le_of_le_of_eq (scan_weight hscan) (Nat.zero_add _)

/-- Where the tokens weigh as much as the text, they stand for clean ones. -/
theorem clean_of_lex {text : List Char} {tokens : List Token} (h : d.lex text = some tokens)
    (hweight : weight text ≤ d.total tokens) :
    ∃ words, d.resolve true words = some tokens ∧ ∀ token ∈ words, d.Clean token := by
  rcases Option.bind_eq_some_iff.mp h with ⟨words, hscan, hresolve⟩
  rw [resolve_weight hresolve] at hweight
  exact ⟨words, hresolve, clean_of_scan hscan trivial (le_of_eq_of_le (Nat.zero_add _) hweight)⟩

/-- Where no predicate begins, a token is spelled like what it stands for. -/
theorem spelled_resolve {words tokens : List Token} (h : d.resolve false words = some tokens) :
    spelled tokens = spelled words := by
  cases words with
  | nil =>
      cases h
      rfl
  | cons token behind =>
      rcases resolve_cons.mp h with ⟨first, rest, hfirst, _, rfl⟩
      cases resolveToken_cases hfirst with
      | name hbegins hnames hname => cases hbegins
      | keyword hmem => rfl
      | same hword => rfl

theorem cleanText_of_resolve {begins : Bool} {words tokens : List Token} {value : List Char}
    (h : d.resolve begins words = some tokens) (hclean : ∀ token ∈ words, d.Clean token)
    (hmem : .literal value ∈ tokens) : d.CleanText .literal value := by
  induction words generalizing begins tokens with
  | nil =>
      cases h
      exact absurd hmem List.not_mem_nil
  | cons token behind ih =>
      rcases resolve_cons.mp h with ⟨first, rest, hfirst, hrest, rfl⟩
      rcases List.mem_cons.mp hmem with heq | hbehind
      · subst heq
        cases resolveToken_cases hfirst with
        | same hword => exact hclean _ List.mem_cons_self
      · exact ih hrest (fun token htoken => hclean token (List.mem_cons_of_mem _ htoken)) hbehind

/-- A name is clean, with the token that stands behind it. -/
theorem cleanName_of_resolve {begins : Bool} {words tokens front behind : List Token}
    {name : List Char} (h : d.resolve begins words = some tokens)
    (hclean : ∀ token ∈ words, d.Clean token) (heq : tokens = front ++ .identifier name :: behind) :
    d.CleanName name (spelled behind) := by
  induction words generalizing begins tokens front with
  | nil =>
      cases h
      exact absurd heq.symm (List.append_ne_nil_of_right_ne_nil _ (List.cons_ne_nil _ _))
  | cons token words ih =>
      rcases resolve_cons.mp h with ⟨first, rest, hfirst, hrest, rfl⟩
      cases front with
      | cons other front =>
          exact ih hrest (fun token htoken => hclean token (List.mem_cons_of_mem _ htoken))
            (List.cons.inj heq).2
      | nil =>
          rcases List.cons.inj heq with ⟨rfl, rfl⟩
          have htoken := hclean token List.mem_cons_self
          unfold CleanName
          cases resolveToken_cases hfirst with
          | name hbegins hnames hname =>
              -- No predicate begins behind a name.
              have hspelled := spelled_resolve hrest
              rw [hnames]
              exact ⟨htoken, hspelled ▸ hname⟩
          | same hword =>
              have hnone : d.plainNames = none :=
                Option.isNone_iff_eq_none.mp (Option.isSome_eq_false_iff.mp htoken.1)
              rw [hnone]
              exact htoken.2

/-! ## Clean text is read back -/

theorem map_nil_append (tokens : Option (List Token)) : tokens.map ([] ++ ·) = tokens := by
  cases tokens with
  | none => rfl
  | some tokens => rfl

/-- A step that makes no token only changes what the lexer is in the middle of. -/
theorem scan_of_step {mode mode' : Mode} {c : Char} {text : List Char}
    (h : d.step mode c text = some ([], mode')) :
    d.scan mode (c :: text) = d.scan mode' text := by
  rw [scan, h, Option.bind_some]
  exact map_nil_append _

theorem scan_of_start {c : Char} {mode : Mode} {text : List Char}
    (h : d.start c = some ([], mode)) : d.scan .between (c :: text) = d.scan mode text := by
  have hstep : d.step .between c text = some ([], mode) := h
  exact scan_of_step hstep

theorem scan_blank {c : Char} {behind : List Char} (h : isBlank c = true) :
    d.scan .between (c :: behind) = d.scan .between behind :=
  scan_of_start (if_pos h)

theorem start_wordChar {c : Char} (h : isWordChar c = true) : d.start c = some ([], .word [c]) := by
  rw [start, if_neg (not_isBlank_of_isWordChar h), if_pos h]

theorem start_symbol {c : Char} (h : isSymbol c = true) : d.start c = some ([], .symbol [c]) := by
  rcases isSymbol_iff.mp h with rfl | rfl | rfl | rfl | rfl <;> rfl

theorem start_punctuation {c : Char} (h : isPunctuation c = true) :
    d.start c = some ([.keyword [c]], .between) := by
  rcases isPunctuation_iff.mp h with rfl | rfl | rfl <;> rfl

theorem start_quote (kind : Kind) : d.start (d.quote kind) = some ([], .quoted kind 0 []) := by
  cases kind with
  | literal => rfl
  | identifier =>
      have hquote : d.quote .identifier = '"' ∨ d.quote .identifier = '`' := d.quote_eq
      unfold start
      rcases hquote with h | h
      · rw [h]
        rfl
      · rw [h]
        rfl

theorem scan_punctuation {c : Char} {behind : List Char} (h : isPunctuation c = true) :
    d.scan .between (c :: behind) = (d.scan .between behind).map (.keyword [c] :: ·) := by
  rw [scan, step, start_punctuation h, Option.bind_some]
  rfl

theorem scan_word_append {read rest behind : List Char} (h : ∀ c ∈ rest, isWordChar c = true) :
    d.scan (.word read) (rest ++ behind) = d.scan (.word (read ++ rest)) behind := by
  induction rest generalizing read with
  | nil => rw [List.nil_append, List.append_nil]
  | cons c rest ih =>
      have hstep : d.step (.word read) c (rest ++ behind) = some ([], .word (read ++ [c])) :=
        if_pos (h c List.mem_cons_self)
      rw [List.cons_append, scan_of_step hstep,
        ih (fun r hr => h r (List.mem_cons_of_mem c hr)), List.append_assoc, List.singleton_append]

/-- A word is read, if what is behind it is not more of it. -/
theorem scan_word {word behind : List Char} (h : PlainWord word)
    (hbehind : ∀ c ∈ behind.head?, isWordChar c = false) :
    d.scan .between (word ++ behind) = (d.scan .between behind).map (.word word :: ·) := by
  rcases h with ⟨hne, hword⟩
  cases word with
  | nil => exact absurd rfl hne
  | cons c rest =>
      -- The word is read to its end, and what follows closes it.
      have hread : d.scan .between (c :: rest ++ behind) = d.scan (.word (c :: rest)) behind := by
        rw [List.cons_append, scan_of_start (start_wordChar (hword c List.mem_cons_self))]
        exact scan_word_append (fun r hr => hword r (List.mem_cons_of_mem c hr))
      rw [hread]
      cases behind with
      | nil => rfl
      | cons next behind =>
          rw [scan, step, if_neg (by rw [hbehind next rfl]; exact Bool.false_ne_true), scan, step]
          cases hnext : d.start next with
          | none => rfl
          | some first =>
              rw [Option.map_some, Option.bind_some, Option.bind_some, Option.map_map]
              rfl

theorem scan_symbol_append {read rest behind : List Char} (h : ∀ c ∈ rest, isSymbol c = true) :
    d.scan (.symbol read) (rest ++ behind) = d.scan (.symbol (read ++ rest)) behind := by
  induction rest generalizing read with
  | nil => rw [List.nil_append, List.append_nil]
  | cons c rest ih =>
      have hstep : d.step (.symbol read) c (rest ++ behind) = some ([], .symbol (read ++ [c])) :=
        if_pos (h c List.mem_cons_self)
      rw [List.cons_append, scan_of_step hstep,
        ih (fun r hr => h r (List.mem_cons_of_mem c hr)), List.append_assoc, List.singleton_append]

/-- So is an operator. -/
theorem scan_symbols {c : Char} {rest behind : List Char}
    (h : ∀ s ∈ c :: rest, isSymbol s = true) (hbehind : ∀ c ∈ behind.head?, isSymbol c = false) :
    d.scan .between (c :: rest ++ behind) =
      (d.scan .between behind).map (.keyword (c :: rest) :: ·) := by
  have hread : d.scan .between (c :: rest ++ behind) = d.scan (.symbol (c :: rest)) behind := by
    rw [List.cons_append, scan_of_start (start_symbol (h c List.mem_cons_self))]
    exact scan_symbol_append (fun s hs => h s (List.mem_cons_of_mem c hs))
  rw [hread]
  cases behind with
  | nil => rfl
  | cons next behind =>
      rw [scan, step, if_neg (by rw [hbehind next rfl]; exact Bool.false_ne_true), scan, step]
      cases hnext : d.start next with
      | none => rfl
      | some first =>
          rw [Option.map_some, Option.bind_some, Option.bind_some, Option.map_map]
          rfl

theorem replacement_eq_none {kind : Kind} {c : Char} {text behind : List Char}
    (h : d.Kept kind (c :: text ++ [d.quote kind])) :
    d.replacement kind c (text ++ d.quote kind :: behind) = none := by
  unfold replacement
  by_cases hc : c = '\\'
  · rw [if_pos hc]
    cases hescapes : d.escapes kind with
    | none => rfl
    | some escapes =>
        have hchain := h escapes hescapes
        cases text with
        | nil =>
            have hkeeps := (List.isChain_cons_cons.mp hchain).1 hc
            exact if_pos hkeeps
        | cons next text =>
            have hkeeps := (List.isChain_cons_cons.mp hchain).1 hc
            exact if_pos hkeeps
  · rw [if_neg hc]

theorem kept_tail {kind : Kind} {c : Char} {text : List Char} (h : d.Kept kind (c :: text)) :
    d.Kept kind text := by
  intro escapes hescapes
  exact (h escapes hescapes).tail

theorem scan_quoted_append {kind : Kind} {read text behind : List Char} (h : d.Verbatim kind text) :
    d.scan (.quoted kind 0 read) (text ++ d.quote kind :: behind) =
      d.scan (.quoted kind 0 (read ++ text)) (d.quote kind :: behind) := by
  induction text generalizing read with
  | nil => rw [List.nil_append, List.append_nil]
  | cons c text ih =>
      rcases h with ⟨hquote, hkept⟩
      have hc : c ≠ d.quote kind := fun heq => hquote (heq ▸ List.mem_cons_self)
      have htext : d.Verbatim kind text :=
        ⟨fun hmem => hquote (List.mem_cons_of_mem c hmem), kept_tail hkept⟩
      have hstep : d.step (.quoted kind 0 read) c (text ++ d.quote kind :: behind) =
          some ([], .quoted kind 0 (read ++ [c])) := by
        rw [step, if_neg hc, replacement_eq_none hkept]
      rw [List.cons_append, scan_of_step hstep, ih htext, List.append_assoc, List.singleton_append]

/-- Clean text between quotes is read as it is, if no quote follows. -/
theorem scan_quoted {kind : Kind} {text : List Char} (behind : List Char) (h : d.CleanText kind text)
    (hbehind : ∀ c ∈ behind.head?, c ≠ d.quote kind) :
    d.scan .between (d.quote kind :: text ++ d.quote kind :: behind) =
      (d.scan .between behind).map (token kind text :: ·) := by
  have honce : behind.head? ≠ some (d.quote kind) := fun heq => hbehind _ heq rfl
  have hread : d.scan .between (d.quote kind :: text ++ d.quote kind :: behind) =
      d.scan (.quoted kind 0 text) (d.quote kind :: behind) := by
    rw [List.cons_append, scan_of_start (start_quote kind)]
    exact scan_quoted_append h.1
  rw [hread, scan, step, if_pos rfl, if_neg honce, close, h.2]
  rfl

end Dialect

end Sql

end SyncMaster
